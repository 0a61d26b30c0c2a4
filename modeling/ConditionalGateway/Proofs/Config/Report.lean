import ConditionalGateway.Proofs.Config.Soundness
import Mathlib

/-!
# What is reported of a configuration

`problems_eq_iff`: the problems of a configuration are the report that the rules
`Reports` give, which there is one of, and a problem is in it if and only if
something is wrong (`Wrong`).

The rules look for branches in branches by the names on the way (`Lies`), without
a search: a branch is reported once, and the branches in the order of those names
as words, which is that of a walk that looks into a branch before it goes on to
the next name. The search is the walk (`mem_specVisits`, `specVisits_sorted`), and
there is one sorted list of what lies in a branch (`eq_of_sorted`).
-/

namespace ConditionalGateway.Config

open Pipeline

-- ---------------------------------------------------------------------------
-- What is wrong
-- ---------------------------------------------------------------------------

/-- A branch lies in another one under the names on the way to it: each is that of a branch in the
table of the one before, whether an order names it or not. -/
inductive Lies : BranchSpec Descriptor → List String → BranchSpec Descriptor → Prop where
  | here : Lies spec [] spec
  | within : (name, .branching next) ∈ spec.middlewares → Lies next names found →
      Lies spec (name :: names) found

def Ordered (c : Config) : Prop :=
  ∀ b ∈ c.branches, ∀ names found, Lies b.spec names found →
    (found.middlewares.map Prod.fst).Pairwise (· < ·)

def pathTo (branch : String) (names : List String) : String := "/".intercalate (branch :: names)

/-- A name without a descriptor that stands in the order of a branch or in a chain of its table. -/
def Unknown (spec : BranchSpec Descriptor) (name : String) : Prop :=
  (name ∈ spec.order ∨
    ∃ chain members, (chain, .chain members) ∈ spec.middlewares ∧ name ∈ members) ∧
  name ∉ spec.middlewares.map Prod.fst

def Blank (name : String) : Prop := ∀ c ∈ name.toList, Unicode.isBlank c = true

inductive Wrong (c : Config) : Problem → Prop where
  | bindAddress : Net.SocketAddress.ofString? c.bindAddress = none →
      Wrong c (.bindAddress c.bindAddress)
  | origin : checkOrigin c.originUrl = .error e → Wrong c (.origin c.originUrl e)
  | zeroTimeout : c.requestSeconds = 0 → Wrong c .zeroTimeout
  | metricsAddress : c.observability.metricsEnabled = true →
      Net.SocketAddress.ofString? c.observability.metricsAddress = none →
      Wrong c (.metricsAddress c.observability.metricsAddress)
  | emptyBranchName : c.branches[i]? = some b → Blank b.name → Wrong c (.emptyBranchName i)
  | duplicateBranchName : c.branches[i]? = some b → ¬Blank b.name →
      earlier ∈ c.branches.take i → earlier.name = b.name → Wrong c (.duplicateBranchName b.name)
  | condition : b ∈ c.branches → Lies b.spec names found →
      Predicate.compile found.condition = .error e → Wrong c (.condition (pathTo b.name names) e)
  | unknownMiddleware : b ∈ c.branches → Lies b.spec names found → Unknown found name →
      Wrong c (.unknownMiddleware (pathTo b.name names) name)

-- ---------------------------------------------------------------------------
-- How it is reported
-- ---------------------------------------------------------------------------

/-- One problem if a condition holds, and none if it does not. -/
inductive ReportsIf (holds : Prop) (p : Problem) : List Problem → Prop where
  | reported : holds → ReportsIf holds p [p]
  | silent : ¬holds → ReportsIf holds p []

/-- One problem if there is an error, and none if there is not. -/
inductive ReportsError (result : Except ε α) (problem : ε → Problem) : List Problem → Prop where
  | failed : result = .error e → ReportsError result problem [problem e]
  | passed : result = .ok a → ReportsError result problem []

inductive ReportsName (branches : List Branch) (i : Nat) (name : String) : List Problem → Prop where
  | blank : Blank name → ReportsName branches i name [.emptyBranchName i]
  | again : ¬Blank name → b ∈ branches.take i → b.name = name →
      ReportsName branches i name [.duplicateBranchName name]
  | apart : ¬Blank name → (∀ b ∈ branches.take i, b.name ≠ name) → ReportsName branches i name []

/-- The condition of a branch, then its unknown names, each once and in the order in which they
first come up. -/
inductive ReportsOwn (path : String) (spec : BranchSpec Descriptor) : List Problem → Prop where
  | own {condition : List Problem} {names : List String} :
      ReportsError (Predicate.compile spec.condition) (.condition path) condition →
      (∀ name, name ∈ names ↔ Unknown spec name) →
      (names.Pairwise fun m n => (mentioned spec).idxOf m < (mentioned spec).idxOf n) →
      ReportsOwn path spec (condition ++ names.map (.unknownMiddleware path))

inductive ReportsSpec (branch : String) (spec : BranchSpec Descriptor) : List Problem → Prop where
  | spec {visits : List (List String × BranchSpec Descriptor)} {reports : List (List Problem)} :
      (∀ names found, (names, found) ∈ visits ↔ Lies spec names found) →
      (visits.Pairwise fun u v => u.1 < v.1) →
      List.Forall₂ (fun v => ReportsOwn (pathTo branch v.1) v.2) visits reports →
      ReportsSpec branch spec reports.flatten

inductive ReportsBranch (branches : List Branch) : Branch × Nat → List Problem → Prop where
  | branch {name spec : List Problem} : ReportsName branches i b.name name →
      ReportsSpec b.name b.spec spec → ReportsBranch branches (b, i) (name ++ spec)

inductive Reports (c : Config) : List Problem → Prop where
  | config {bind origin timeout metrics : List Problem} {branches : List (List Problem)} :
      ReportsIf (Net.SocketAddress.ofString? c.bindAddress = none)
        (.bindAddress c.bindAddress) bind →
      ReportsError (checkOrigin c.originUrl) (.origin c.originUrl) origin →
      ReportsIf (c.requestSeconds = 0) .zeroTimeout timeout →
      ReportsIf (c.observability.metricsEnabled = true ∧
          Net.SocketAddress.ofString? c.observability.metricsAddress = none)
        (.metricsAddress c.observability.metricsAddress) metrics →
      List.Forall₂ (ReportsBranch c.branches) c.branches.zipIdx branches →
      Reports c (bind ++ origin ++ timeout ++ metrics ++ branches.flatten)

-- ---------------------------------------------------------------------------
-- The walk through the branches
-- ---------------------------------------------------------------------------

mutual

def descriptorVisits : Descriptor → List (List String × BranchSpec Descriptor)
  | .branching ⟨condition, chain, middlewares⟩ =>
    ([], ⟨condition, chain, middlewares⟩) :: tableVisits middlewares
  | _ => []

def tableVisits : Table → List (List String × BranchSpec Descriptor)
  | [] => []
  | (name, d) :: rest => (descriptorVisits d).map (fun v => (name :: v.1, v.2)) ++ tableVisits rest

end

def specVisits (spec : BranchSpec Descriptor) : List (List String × BranchSpec Descriptor) :=
  ([], spec) :: tableVisits spec.middlewares

theorem descriptorVisits_branching (spec : BranchSpec Descriptor) :
    descriptorVisits (.branching spec) = specVisits spec := by
  obtain ⟨condition, chain, middlewares⟩ := spec
  simp only [descriptorVisits, specVisits]

theorem descriptorVisits_plain (h : ∀ spec, d ≠ .branching spec) : descriptorVisits d = [] := by
  cases d with
  | branching spec => exact absurd rfl (h spec)
  | _ => simp only [descriptorVisits]

theorem tableVisits_eq (table : Table) :
    tableVisits table =
      table.flatMap fun e => (descriptorVisits e.2).map fun v => (e.1 :: v.1, v.2) := by
  induction table with
  | nil => simp only [tableVisits, List.flatMap_nil]
  | cons e rest ih =>
    obtain ⟨name, d⟩ := e
    simp only [tableVisits, List.flatMap_cons, ih]

theorem tableProblems_eq (path : String) (table : Table) :
    tableProblems path table =
      table.flatMap fun e => descriptorProblems (path ++ "/" ++ e.1) e.2 := by
  induction table with
  | nil => simp only [tableProblems, List.flatMap_nil]
  | cons e rest ih =>
    obtain ⟨name, d⟩ := e
    simp only [tableProblems, List.flatMap_cons, ih]

theorem descriptorProblems_plain (h : ∀ spec, d ≠ .branching spec) :
    descriptorProblems path d = [] := by
  cases d with
  | branching spec => exact absurd rfl (h spec)
  | _ => simp only [descriptorProblems]

theorem pathTo_cons (branch name : String) (names : List String) :
    pathTo branch (name :: names) = pathTo (branch ++ "/" ++ name) names := rfl

theorem specProblems_visits {spec : BranchSpec Descriptor}
    (h : ∀ e ∈ spec.middlewares, ∀ path, descriptorProblems path e.2 =
      (descriptorVisits e.2).flatMap fun v => ownProblems (pathTo path v.1) v.2) :
    specProblems path spec =
      (specVisits spec).flatMap fun v => ownProblems (pathTo path v.1) v.2 := by
  rw [specProblems, specVisits, List.flatMap_cons, tableProblems_eq, tableVisits_eq,
    List.flatMap_assoc]
  congr 1
  apply List.flatMap_congr
  intro e he
  simp only [h e he, List.flatMap_map, pathTo_cons]

theorem descriptorProblems_eq (d : Descriptor) :
    ∀ path, descriptorProblems path d =
      (descriptorVisits d).flatMap fun v => ownProblems (pathTo path v.1) v.2 := by
  induction d using Descriptor.nested with
  | step d ih =>
    intro path
    by_cases hb : ∃ spec, d = .branching spec
    · obtain ⟨spec, rfl⟩ := hb
      rw [descriptorProblems_branching, descriptorVisits_branching]
      exact specProblems_visits (ih spec rfl)
    · have hn : ∀ spec, d ≠ .branching spec := fun spec h => hb ⟨spec, h⟩
      rw [descriptorProblems_plain hn, descriptorVisits_plain hn, List.flatMap_nil]

theorem specProblems_eq (path : String) (spec : BranchSpec Descriptor) :
    specProblems path spec =
      (specVisits spec).flatMap fun v => ownProblems (pathTo path v.1) v.2 :=
  specProblems_visits fun e _ => descriptorProblems_eq e.2

theorem mem_descriptorVisits :
    v ∈ descriptorVisits d ↔ ∃ spec, d = .branching spec ∧ v ∈ specVisits spec := by
  constructor
  · intro hv
    by_contra hn
    rw [descriptorVisits_plain] at hv
    · cases hv
    · rintro spec rfl
      exact hn ⟨spec, rfl, descriptorVisits_branching spec ▸ hv⟩
  · rintro ⟨spec, rfl, hv⟩
    rwa [descriptorVisits_branching]

theorem mem_specVisits_iff {spec : BranchSpec Descriptor} :
    v ∈ specVisits spec ↔ v = ([], spec) ∨
      ∃ name next u, (name, .branching next) ∈ spec.middlewares ∧ u ∈ specVisits next ∧
        v = (name :: u.1, u.2) := by
  rw [specVisits, List.mem_cons, tableVisits_eq]
  simp only [List.mem_flatMap, List.mem_map, mem_descriptorVisits]
  refine or_congr_right ⟨?_, ?_⟩
  · rintro ⟨⟨name, d⟩, hd, u, ⟨next, rfl, hu⟩, rfl⟩
    exact ⟨name, next, u, hd, hu, rfl⟩
  · rintro ⟨name, next, u, hd, hu, rfl⟩
    exact ⟨(name, .branching next), hd, u, ⟨next, rfl, hu⟩, rfl⟩

theorem mem_specVisits {spec : BranchSpec Descriptor} :
    (names, found) ∈ specVisits spec ↔ Lies spec names found := by
  constructor
  · induction names generalizing spec with
    | nil =>
      rw [mem_specVisits_iff]
      rintro (h | ⟨name, next, u, -, -, h⟩)
      · cases h
        exact .here
      · cases h
    | cons name names ih =>
      rw [mem_specVisits_iff]
      rintro (h | ⟨name', next, u, hd, hu, h⟩)
      · cases h
      · cases h
        exact .within hd (ih hu)
  · intro hl
    induction hl with
    | here => exact mem_specVisits_iff.mpr (.inl rfl)
    | within hd _ ih => exact mem_specVisits_iff.mpr (.inr ⟨_, _, _, hd, ih, rfl⟩)

theorem sorted_visits {spec : BranchSpec Descriptor}
    (hs : (spec.middlewares.map Prod.fst).Pairwise (· < ·))
    (hd : ∀ e ∈ spec.middlewares, (descriptorVisits e.2).Pairwise fun u v => u.1 < v.1) :
    (specVisits spec).Pairwise fun u v => u.1 < v.1 := by
  rw [specVisits, List.pairwise_cons, tableVisits_eq, List.pairwise_flatMap]
  refine ⟨?_, ?_, ?_⟩
  · intro v hv
    obtain ⟨e, -, hv⟩ := List.mem_flatMap.mp hv
    obtain ⟨u, -, rfl⟩ := List.mem_map.mp hv
    exact List.nil_lt_cons _ _
  · intro e he
    rw [List.pairwise_map]
    exact (hd e he).imp fun h => List.cons_lt_cons_iff.mpr (.inr ⟨rfl, h⟩)
  · refine (List.pairwise_map.mp hs).imp fun hlt u hu v hv => ?_
    obtain ⟨u, -, rfl⟩ := List.mem_map.mp hu
    obtain ⟨v, -, rfl⟩ := List.mem_map.mp hv
    exact List.cons_lt_cons_iff.mpr (.inl hlt)

theorem descriptorVisits_sorted (d : Descriptor) :
    (∀ spec names found, d = .branching spec → Lies spec names found →
      (found.middlewares.map Prod.fst).Pairwise (· < ·)) →
    (descriptorVisits d).Pairwise fun u v => u.1 < v.1 := by
  induction d using Descriptor.nested with
  | step d ih =>
    intro ho
    by_cases hb : ∃ spec, d = .branching spec
    · obtain ⟨spec, rfl⟩ := hb
      rw [descriptorVisits_branching]
      refine sorted_visits (ho spec [] spec rfl .here) fun e he => ih spec rfl e he ?_
      rintro next names found hd hl
      exact ho spec (e.1 :: names) found rfl (.within (hd ▸ he) hl)
    · rw [descriptorVisits_plain fun spec h => hb ⟨spec, h⟩]
      exact .nil

theorem specVisits_sorted {spec : BranchSpec Descriptor}
    (ho : ∀ names found, Lies spec names found →
      (found.middlewares.map Prod.fst).Pairwise (· < ·)) :
    (specVisits spec).Pairwise fun u v => u.1 < v.1 := by
  rw [← descriptorVisits_branching]
  apply descriptorVisits_sorted
  rintro _ names found ⟨⟩ hl
  exact ho names found hl

theorem ordered_iff {c : Config} :
    c.Ordered ↔ ∀ b ∈ c.branches, ∀ v ∈ specVisits b.spec,
      (v.2.middlewares.map Prod.fst).Pairwise (· < ·) := by
  simp only [Ordered, Prod.forall, mem_specVisits]

-- ---------------------------------------------------------------------------
-- Reports of one thing
-- ---------------------------------------------------------------------------

/-- There is one list of given members that is sorted. -/
theorem eq_of_sorted {r : α → α → Prop} (asymm : ∀ a b, r a b → ¬r b a) {l₁ l₂ : List α}
    (h₁ : l₁.Pairwise r) (h₂ : l₂.Pairwise r) (hm : ∀ a, a ∈ l₁ ↔ a ∈ l₂) : l₁ = l₂ := by
  have irrefl : Std.Irrefl r := ⟨fun a h => asymm a a h h⟩
  refine List.Perm.eq_of_pairwise (fun a b _ _ hab hba => absurd hba (asymm a b hab)) h₁ h₂ ?_
  exact (List.perm_ext_iff_of_nodup h₁.nodup h₂.nodup).mpr hm

theorem mem_distinct : n ∈ distinct seen names ↔ n ∈ names ∧ n ∉ seen := by
  induction names generalizing seen with
  | nil => simp [distinct]
  | cons name rest ih =>
    unfold distinct
    split <;> grind

theorem distinct_filter_sorted (p : String → Bool) (names : List String) :
    (distinct seen (names.filter p)).Pairwise fun m n => names.idxOf m < names.idxOf n := by
  induction names generalizing seen with
  | nil => exact .nil
  | cons name rest ih =>
    have hrest : ∀ {seen}, (∀ n ∈ distinct seen (rest.filter p), n ≠ name) →
        (distinct seen (rest.filter p)).Pairwise
          fun m n => (name :: rest).idxOf m < (name :: rest).idxOf n := by
      intro seen hne
      refine ih.imp_of_mem fun hm hn hlt => ?_
      rw [List.idxOf_cons_ne _ (hne _ hm).symm, List.idxOf_cons_ne _ (hne _ hn).symm]
      exact Nat.succ_lt_succ hlt
    rw [List.filter_cons]
    split
    · unfold distinct
      split
      · rename_i hs
        exact hrest fun n hn he => (mem_distinct.mp hn).2 (he ▸ hs)
      · have hne : ∀ n ∈ distinct (name :: seen) (rest.filter p), n ≠ name :=
          fun n hn he => (mem_distinct.mp hn).2 (he ▸ List.mem_cons_self)
        refine List.pairwise_cons.mpr ⟨fun n hn => ?_, hrest hne⟩
        rw [List.idxOf_cons_self, List.idxOf_cons_ne _ (hne n hn).symm]
        exact Nat.succ_pos _
    · rename_i hp
      refine hrest fun n hn he => hp ?_
      exact he ▸ (List.mem_filter.mp (mem_distinct.mp hn).1).2

theorem mem_unknownNames {spec : BranchSpec Descriptor} :
    name ∈ unknownNames spec ↔ Unknown spec name := by
  have hchain : (∃ e ∈ spec.middlewares, name ∈ e.2.members?.getD []) ↔
      ∃ chain members, (chain, .chain members) ∈ spec.middlewares ∧ name ∈ members := by
    constructor
    · rintro ⟨⟨chain, d⟩, he, hm⟩
      cases d with
      | chain members => exact ⟨chain, members, he, hm⟩
      | _ => cases hm
    · rintro ⟨chain, members, he, hm⟩
      exact ⟨(chain, .chain members), he, hm⟩
  have hkey : (spec.middlewares.lookup name).isNone = true ↔
      name ∉ spec.middlewares.map Prod.fst := by
    rw [Option.isNone_iff_eq_none, List.lookup_eq_none_iff]
    simp only [bne_iff_ne, List.mem_map, not_exists, not_and, ne_comm]
  rw [unknownNames, mem_distinct, List.mem_filter, mentioned, List.mem_append, List.mem_flatMap,
    hchain, hkey, Unknown]
  simp only [List.not_mem_nil, not_false_eq_true, and_true]

theorem unknownNames_sorted (spec : BranchSpec Descriptor) :
    (unknownNames spec).Pairwise fun m n =>
      (mentioned spec).idxOf m < (mentioned spec).idxOf n :=
  distinct_filter_sorted _ _

theorem trim_eq_nil {cs : List Char} :
    Unicode.trim cs = [] ↔ ∀ c ∈ cs, Unicode.isBlank c = true := by
  rw [Unicode.trim, List.reverse_eq_nil_iff, List.dropWhile_eq_nil_iff]
  simp only [List.mem_reverse]
  constructor
  · intro h c hc
    obtain hm | hm := List.mem_append.mp (List.takeWhile_append_dropWhile ▸ hc :
      c ∈ cs.takeWhile Unicode.isBlank ++ cs.dropWhile Unicode.isBlank)
    · exact List.mem_takeWhile_imp hm
    · exact h c hm
  · exact fun h c hc => h c (List.dropWhile_subset _ hc)

theorem isBlankName_iff : isBlankName name = true ↔ Blank name := by
  rw [isBlankName, List.isEmpty_iff, trim_eq_nil, Blank]

theorem reportsIf_iff {holds : Prop} (hb : b = true ↔ holds) :
    ReportsIf holds p ps ↔ problemIf b p = ps := by
  constructor
  · rintro (h | h)
    · simp [problemIf, hb.mpr h]
    · simp [problemIf, mt hb.mp h]
  · rintro rfl
    unfold problemIf
    split
    · exact .reported (hb.mp ‹_›)
    · exact .silent fun h => ‹¬_› (hb.mpr h)

theorem reportsError_iff {result : Except ε α} (hok : ∀ a, result = .ok a → found = [])
    (herror : ∀ e, result = .error e → found = [problem e]) :
    ReportsError result problem ps ↔ found = ps := by
  constructor
  · rintro (h | h)
    · exact herror _ h
    · exact hok _ h
  · rintro rfl
    cases h : result with
    | ok a => exact hok a h ▸ .passed rfl
    | error e => exact herror e h ▸ .failed rfl

theorem reportsCondition_iff :
    ReportsError (Predicate.compile condition) (.condition path) ps ↔
      conditionProblems path condition = ps :=
  reportsError_iff (fun a h => by simp [conditionProblems, h])
    fun e h => by simp [conditionProblems, h]

theorem reportsOrigin_iff :
    ReportsError (checkOrigin url) (.origin url) ps ↔ originProblems url = ps :=
  reportsError_iff (fun a h => by simp [originProblems, h]) fun e h => by simp [originProblems, h]

theorem reportsName_iff {branches : List Branch}
    (hb : ∀ n, n ∈ before ↔ ∃ b ∈ branches.take i, b.name = n) :
    ReportsName branches i name ps ↔ nameProblems i before name = ps := by
  constructor
  · rintro (h | ⟨h, hm, rfl⟩ | ⟨h, hne⟩)
    · simp [nameProblems, isBlankName_iff.mpr h]
    · simp [nameProblems, mt isBlankName_iff.mp h, problemIf, (hb _).mpr ⟨_, hm, rfl⟩]
    · have hn : name ∉ before := fun hn => by
        obtain ⟨b, hm, he⟩ := (hb _).mp hn
        exact hne b hm he
      simp [nameProblems, mt isBlankName_iff.mp h, problemIf, hn]
  · rintro rfl
    unfold nameProblems problemIf
    split
    · exact .blank (isBlankName_iff.mp ‹_›)
    · rename_i h
      rw [isBlankName_iff] at h
      split
      · rename_i hn
        obtain ⟨b, hm, he⟩ := (hb _).mp (List.contains_iff_mem.mp hn)
        exact .again h hm he
      · rename_i hn
        exact .apart h fun b hm he => hn (List.contains_iff_mem.mpr ((hb _).mpr ⟨b, hm, he⟩))

theorem reportsOwn_iff {spec : BranchSpec Descriptor} :
    ReportsOwn path spec ps ↔ ownProblems path spec = ps := by
  constructor
  · rintro ⟨hc, hm, hs⟩
    rw [ownProblems, reportsCondition_iff.mp hc]
    congr 2
    refine eq_of_sorted (fun _ _ => Nat.lt_asymm) (unknownNames_sorted spec) hs fun n => ?_
    rw [mem_unknownNames, hm]
  · rintro rfl
    exact .own (reportsCondition_iff.mpr rfl) (fun _ => mem_unknownNames) (unknownNames_sorted spec)

theorem forall₂_iff_map {R : α → β → Prop} {f : α → β} {xs : List α} {ys : List β}
    (h : ∀ x ∈ xs, ∀ y, R x y ↔ f x = y) : List.Forall₂ R xs ys ↔ xs.map f = ys := by
  induction xs generalizing ys with
  | nil => simp [eq_comm]
  | cons x rest ih =>
    cases ys with
    | nil => simp
    | cons y ys => simp [h x List.mem_cons_self, ih fun x hx => h x (List.mem_cons_of_mem _ hx)]

theorem reportsSpec_iff {spec : BranchSpec Descriptor}
    (ho : ∀ names found, Lies spec names found →
      (found.middlewares.map Prod.fst).Pairwise (· < ·)) :
    ReportsSpec branch spec ps ↔ specProblems branch spec = ps := by
  have hs := specVisits_sorted ho
  have hown : ∀ visits : List (List String × BranchSpec Descriptor), ∀ v ∈ visits, ∀ ps,
      ReportsOwn (pathTo branch v.1) v.2 ps ↔ ownProblems (pathTo branch v.1) v.2 = ps :=
    fun _ _ _ _ => reportsOwn_iff
  rw [specProblems_eq, List.flatMap_def]
  constructor
  · rintro ⟨hm, hv, hr⟩
    rw [← (forall₂_iff_map (hown _)).mp hr]
    congr 2
    refine eq_of_sorted (fun _ _ => List.lt_asymm) hs hv fun v => ?_
    rw [mem_specVisits, hm]
  · rintro rfl
    exact .spec (fun _ _ => mem_specVisits) hs ((forall₂_iff_map (hown _)).mpr rfl)

-- ---------------------------------------------------------------------------
-- The report
-- ---------------------------------------------------------------------------

theorem nameProblems_congr (h : name ∈ before ↔ name ∈ before') :
    nameProblems i before name = nameProblems i before' name := by
  simp only [nameProblems, List.contains_eq_mem, h]

/-- What is wrong with a branch that stands under its number among all. -/
def branchReport (branches : List Branch) (b : Branch × Nat) : List Problem :=
  nameProblems b.2 ((branches.take b.2).map Branch.name) b.1.name ++ specProblems b.1.name b.1.spec

theorem branchProblems_eq (before : List String) (front rest : List Branch)
    (hb : ∀ n, n ∈ before ↔ n ∈ front.map Branch.name) :
    branchProblems front.length before rest =
      (rest.zipIdx front.length).flatMap (branchReport (front ++ rest)) := by
  induction rest generalizing before front with
  | nil => rfl
  | cons b rest ih =>
    have hnext : ∀ n, n ∈ b.name :: before ↔ n ∈ (front ++ [b]).map Branch.name := by
      intro n
      rw [List.mem_cons, hb, List.map_append, List.mem_append, List.map_singleton,
        List.mem_singleton, or_comm]
    have ih := ih _ _ hnext
    rw [List.length_append, List.length_singleton, List.append_assoc, List.singleton_append] at ih
    rw [branchProblems, List.zipIdx_cons, List.flatMap_cons, ih, branchReport, List.take_left,
      nameProblems_congr (hb b.name)]

theorem problems_branches (c : Config) :
    branchProblems 0 [] c.branches = c.branches.zipIdx.flatMap (branchReport c.branches) :=
  branchProblems_eq [] [] c.branches fun _ => Iff.rfl

theorem reportsBranch_iff {c : Config} (ho : c.Ordered) {b : Branch × Nat}
    (hb : b ∈ c.branches.zipIdx) :
    ReportsBranch c.branches b ps ↔ branchReport c.branches b = ps := by
  have hn : ∀ ps, ReportsName c.branches b.2 b.1.name ps ↔
      nameProblems b.2 ((c.branches.take b.2).map Branch.name) b.1.name = ps :=
    fun ps => reportsName_iff fun n => List.mem_map
  have hs : ∀ ps, ReportsSpec b.1.name b.1.spec ps ↔ specProblems b.1.name b.1.spec = ps :=
    fun ps => reportsSpec_iff (ho b.1 (List.mem_of_getElem? (List.mem_zipIdx_iff_getElem?.mp hb)))
  constructor
  · rintro ⟨hname, hspec⟩
    rw [branchReport, (hn _).mp hname, (hs _).mp hspec]
  · rintro rfl
    exact .branch ((hn _).mpr rfl) ((hs _).mpr rfl)

theorem isSocketAddress_eq_false :
    (!isSocketAddress text) = true ↔ Net.SocketAddress.ofString? text = none := by
  simp [isSocketAddress]

theorem reportsMetrics_iff {o : Observability} :
    ReportsIf (o.metricsEnabled = true ∧ Net.SocketAddress.ofString? o.metricsAddress = none) p ps ↔
      problemIf (o.metricsEnabled && !isSocketAddress o.metricsAddress) p = ps :=
  reportsIf_iff (Bool.and_eq_true_iff.trans (and_congr_right' isSocketAddress_eq_false))

theorem reports_iff {c : Config} (ho : c.Ordered) : Reports c ps ↔ c.problems = ps := by
  have hbranches : ∀ reports, List.Forall₂ (ReportsBranch c.branches) c.branches.zipIdx reports ↔
      c.branches.zipIdx.map (branchReport c.branches) = reports :=
    fun _ => forall₂_iff_map fun b hb ps => reportsBranch_iff ho hb
  rw [problems, problems_branches, List.flatMap_def]
  constructor
  · rintro ⟨hbind, horigin, htimeout, hmetrics, hreports⟩
    rw [(reportsIf_iff isSocketAddress_eq_false).mp hbind, reportsOrigin_iff.mp horigin,
      (reportsIf_iff beq_iff_eq).mp htimeout, reportsMetrics_iff.mp hmetrics,
      (hbranches _).mp hreports]
  · rintro rfl
    exact .config ((reportsIf_iff isSocketAddress_eq_false).mpr rfl) (reportsOrigin_iff.mpr rfl)
      ((reportsIf_iff beq_iff_eq).mpr rfl) (reportsMetrics_iff.mpr rfl) ((hbranches _).mpr rfl)

-- ---------------------------------------------------------------------------
-- Each problem
-- ---------------------------------------------------------------------------

theorem mem_problemIf : p ∈ problemIf b q ↔ b = true ∧ p = q := by
  unfold problemIf
  split <;> simp_all

theorem mem_conditionProblems :
    p ∈ conditionProblems path condition ↔
      ∃ e, Predicate.compile condition = .error e ∧ p = .condition path e := by
  unfold conditionProblems
  cases Predicate.compile condition <;> simp

theorem mem_originProblems :
    p ∈ originProblems url ↔ ∃ e, checkOrigin url = .error e ∧ p = .origin url e := by
  unfold originProblems
  cases checkOrigin url <;> simp

theorem mem_specProblems {spec : BranchSpec Descriptor} :
    p ∈ specProblems branch spec ↔ ∃ names found, Lies spec names found ∧
      ((∃ e, Predicate.compile found.condition = .error e ∧
          p = .condition (pathTo branch names) e) ∨
        ∃ name, Unknown found name ∧ p = .unknownMiddleware (pathTo branch names) name) := by
  rw [specProblems_eq, List.mem_flatMap]
  simp only [Prod.exists, mem_specVisits, ownProblems, List.mem_append, mem_conditionProblems,
    List.mem_map, mem_unknownNames, eq_comm]

theorem mem_nameProblems {branches : List Branch} :
    p ∈ nameProblems i ((branches.take i).map Branch.name) name ↔
      (Blank name ∧ p = .emptyBranchName i) ∨
        (¬Blank name ∧ (∃ b ∈ branches.take i, b.name = name) ∧ p = .duplicateBranchName name) := by
  rw [nameProblems, ← isBlankName_iff]
  split <;> simp_all [mem_problemIf, -List.map_take]

theorem mem_problems {c : Config} : p ∈ c.problems ↔ Wrong c p := by
  rw [problems, problems_branches]
  simp only [List.mem_append, mem_problemIf, isSocketAddress_eq_false, mem_originProblems,
    List.mem_flatMap, branchReport, mem_specProblems, mem_nameProblems, Prod.exists,
    List.mem_zipIdx_iff_getElem?, beq_iff_eq, Bool.and_eq_true]
  constructor
  · rintro ((((⟨h, rfl⟩ | ⟨e, h, rfl⟩) | ⟨h, rfl⟩) | ⟨⟨he, h⟩, rfl⟩) | ⟨b, i, hb, hp⟩)
    · exact .bindAddress h
    · exact .origin h
    · exact .zeroTimeout h
    · exact .metricsAddress he h
    · obtain hn | ⟨names, found, hl, ⟨e, h, rfl⟩ | ⟨name, h, rfl⟩⟩ := hp
      · obtain ⟨h, rfl⟩ | ⟨h, ⟨earlier, hm, he⟩, rfl⟩ := hn
        · exact .emptyBranchName hb h
        · exact .duplicateBranchName hb h hm he
      · exact .condition (List.mem_of_getElem? hb) hl h
      · exact .unknownMiddleware (List.mem_of_getElem? hb) hl h
  · rintro (h | h | h | ⟨he, h⟩ | ⟨hb, h⟩ | ⟨hb, h, hm, he⟩ | ⟨hb, hl, h⟩ | ⟨hb, hl, h⟩)
    · exact .inl (.inl (.inl (.inl ⟨h, rfl⟩)))
    · exact .inl (.inl (.inl (.inr ⟨_, h, rfl⟩)))
    · exact .inl (.inl (.inr ⟨h, rfl⟩))
    · exact .inl (.inr ⟨⟨he, h⟩, rfl⟩)
    · exact .inr ⟨_, _, hb, .inl (.inl ⟨h, rfl⟩)⟩
    · exact .inr ⟨_, _, hb, .inl (.inr ⟨h, ⟨_, hm, he⟩, rfl⟩)⟩
    · obtain ⟨i, hi⟩ := List.mem_iff_getElem?.mp hb
      exact .inr ⟨_, i, hi, .inr ⟨_, _, hl, .inl ⟨_, h, rfl⟩⟩⟩
    · obtain ⟨i, hi⟩ := List.mem_iff_getElem?.mp hb
      exact .inr ⟨_, i, hi, .inr ⟨_, _, hl, .inr ⟨_, h, rfl⟩⟩⟩

/-- The problems of a configuration are what is to be reported of it: each thing that is wrong, in
its place and once, and nothing else. There are none if and only if nothing is wrong. -/
theorem problems_eq_iff {c : Config} (ho : c.Ordered) :
    (∀ ps, c.problems = ps ↔ Reports c ps) ∧ (∀ p, p ∈ c.problems ↔ Wrong c p) ∧
      (c.problems = [] ↔ ∀ p, ¬Wrong c p) := by
  refine ⟨fun ps => (reports_iff ho).symm, fun p => mem_problems, ?_⟩
  rw [List.eq_nil_iff_forall_not_mem]
  exact forall_congr' fun p => not_congr mem_problems

/-- A branch without a name, with unknown names at two depths, and two branches of one name; the
inner branch is named by no order. -/
def faulty : Config where
  bindAddress := "localhost"
  originUrl := "ftp://[::1]"
  requestSeconds := 0
  observability := { metricsEnabled := true, metricsAddress := "9090" }
  branches :=
    [⟨" ", "Method ==", some ["ghost", "c", "ghost"],
      [("b", .branching ⟨"true", none, [("c", .chain ["ghost", "d", "c"])]⟩),
        ("c", .chain ["b", "none", "ghost"])]⟩,
      ⟨"a", "true", none, []⟩, ⟨"a", "true", none, []⟩]

theorem problems_eq_iff_faulty : faulty.Ordered ∧
    Reports faulty
      [.bindAddress "localhost", .origin "ftp://[::1]" (.unsupportedScheme "ftp"), .zeroTimeout,
        .metricsAddress "9090", .emptyBranchName 0,
        .condition " " (.unexpectedToken .literal "end of input" 9),
        .unknownMiddleware " " "ghost", .unknownMiddleware " " "none",
        .unknownMiddleware " /b" "ghost", .unknownMiddleware " /b" "d",
        .duplicateBranchName "a"] ∧
    Wrong faulty (.unknownMiddleware " /b" "d") ∧ faulty.problems ≠ [] := by
  have ho : faulty.Ordered := ordered_iff.mpr (by decide)
  obtain ⟨hreports, hwrong, hnil⟩ := problems_eq_iff ho
  have hd : faulty.problems[9]? = some (.unknownMiddleware " /b" "d") := by cbv
  have hw : Wrong faulty (.unknownMiddleware " /b" "d") :=
    (hwrong _).mp (List.mem_of_getElem? hd)
  exact ⟨ho, (hreports _).mp (by cbv), hw, fun h => hnil.mp h _ hw⟩

end ConditionalGateway.Config
