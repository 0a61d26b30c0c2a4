import ConditionalGateway.Proofs.Pipeline.Unfolding
import Mathlib.Data.List.Chain
import Mathlib.Data.List.Induction

/-!
# The outcome of resolving names

Names resolve to the links that they unfold to, in that order. What else may
happen is decided by the same unfolding: names in it that stand for nothing are
reported together, a chain that leads back to itself is reported with the chains
on the way, and a link too many is reported where it stands.
-/

namespace ConditionalGateway.Pipeline

variable {δ : Type}

def linksOf (table : List (String × δ)) (leaves : List String) : List (String × δ) :=
  leaves.filterMap fun n => (table.lookup n).map (n, ·)

@[simp] theorem linksOf_append (table : List (String × δ)) (l l' : List String) :
    linksOf table (l ++ l') = linksOf table l ++ linksOf table l' :=
  List.filterMap_append

def Expansion.read (table : List (String × δ)) (x : Expansion δ) (name : String) : Expansion δ :=
  match table.lookup name with
  | none => x.addMissing name
  | some d => x.addLink name d

theorem Expansion.foldl_read_links (table : List (String × δ)) (x : Expansion δ)
    (leaves : List String) :
    (leaves.foldl (Expansion.read table) x).links = x.links ++ linksOf table leaves := by
  induction leaves generalizing x with
  | nil => simp [linksOf]
  | cons n leaves ih =>
    rw [List.foldl_cons, ih]
    unfold read
    split
    · rename_i hl
      unfold addMissing
      split <;> simp [linksOf, hl]
    · rename_i d hl
      simp [linksOf, hl, addLink]

-- ---------------------------------------------------------------------------
-- Names without a descriptor
-- ---------------------------------------------------------------------------

/-- What is missing among names that stand for no chains: each name once, where it is first. -/
structure Missing (table : List (String × δ)) (leaves : List String) (ns : List String) :
    Prop where
  mem : ∀ n, n ∈ ns ↔ n ∈ leaves ∧ table.lookup n = none
  ordered : ns.Pairwise fun a b => leaves.idxOf a < leaves.idxOf b

theorem Missing.nodup (h : Missing table leaves ns) : ns.Nodup :=
  h.ordered.imp fun hlt => by
    rintro rfl
    exact Nat.lt_irrefl _ hlt

theorem Missing.ordered_append (h : Missing table leaves ns) (more : List String) :
    ns.Pairwise fun a b => (leaves ++ more).idxOf a < (leaves ++ more).idxOf b := by
  refine h.ordered.imp_of_mem fun ha hb hlt => ?_
  rw [List.idxOf_append_of_mem ((h.mem _).mp ha).1, List.idxOf_append_of_mem ((h.mem _).mp hb).1]
  exact hlt

theorem Missing.skip (h : Missing table leaves ns)
    (hn : table.lookup n = none → n ∈ leaves) : Missing table (leaves ++ [n]) ns := by
  refine ⟨fun m => ?_, h.ordered_append [n]⟩
  rw [h.mem m, List.mem_append, List.mem_singleton]
  constructor
  · exact fun ⟨hm, hl⟩ => ⟨.inl hm, hl⟩
  · rintro ⟨hm | rfl, hl⟩
    · exact ⟨hm, hl⟩
    · exact ⟨hn hl, hl⟩

theorem Missing.add (h : Missing table leaves ns) (hl : table.lookup n = none)
    (hn : n ∉ leaves) : Missing table (leaves ++ [n]) (ns ++ [n]) := by
  constructor
  · intro m
    rw [List.mem_append, h.mem m, List.mem_append, List.mem_singleton]
    constructor
    · rintro (⟨hm, hm'⟩ | rfl)
      · exact ⟨.inl hm, hm'⟩
      · exact ⟨.inr rfl, hl⟩
    · rintro ⟨hm | rfl, hm'⟩
      · exact .inl ⟨hm, hm'⟩
      · exact .inr rfl
  · refine List.pairwise_append.mpr ⟨h.ordered_append [n], List.pairwise_singleton _ _, ?_⟩
    intro a ha b hb
    obtain rfl := List.mem_singleton.mp hb
    have ha := ((h.mem a).mp ha).1
    rw [List.idxOf_append_of_mem ha, List.idxOf_append_of_notMem hn]
    have := List.idxOf_lt_length_of_mem ha
    omega

theorem missing_foldl_read (leaves : List String) :
    Missing table leaves (leaves.foldl (Expansion.read table) {}).missing := by
  induction leaves using List.reverseRecOn with
  | nil => exact ⟨by simp, List.Pairwise.nil⟩
  | append_singleton leaves n ih =>
    rw [List.foldl_append, List.foldl_cons, List.foldl_nil, Expansion.read]
    split
    · rename_i hl
      unfold Expansion.addMissing
      split
      · rename_i hn
        exact ih.skip fun _ => ((ih.mem n).mp hn).1
      · rename_i hn
        exact ih.add hl fun hm => hn ((ih.mem n).mpr ⟨hm, hl⟩)
    · rename_i d hl
      exact ih.skip fun hnone => nomatch hl.symm.trans hnone

-- ---------------------------------------------------------------------------
-- Cycles
-- ---------------------------------------------------------------------------

section
variable (members : δ → Option (List String)) (table : List (String × δ))

def Within (chain name : String) : Prop := ∃ ms, IsChainOf members table chain ms ∧ name ∈ ms

/-- A way from a list of names through chains, each a member of the one before it, which returns
to one of them. -/
structure IsCycle (names path : List String) : Prop where
  starts : ∃ n ∈ names, path.head? = some n
  leads : path.IsChain (Within members table)
  simple : path.dropLast.Nodup
  returns : ∃ n ∈ path.dropLast, path.getLast? = some n

end

variable {members : δ → Option (List String)} {table : List (String × δ)}

theorem Reaches.along (h : Reaches members table names a)
    (hp : (a :: path).IsChain (Within members table)) (hn : n ∈ path) :
    Reaches members table names n := by
  induction path generalizing a with
  | nil => cases hn
  | cons b path ih =>
    rw [List.isChain_cons_cons] at hp
    obtain ⟨⟨ms, hc, hb⟩, hp⟩ := hp
    have h := h.step hc hb
    obtain rfl | hn := List.mem_cons.mp hn
    · exact h
    · exact ih h hp hn

theorem IsCycle.not_acyclic (h : IsCycle members table names path) :
    ¬ Acyclic members table names := by
  obtain ⟨n, hn, hlast⟩ := h.returns
  obtain ⟨front, back, hfront⟩ := List.append_of_mem hn
  have hpath : path = front ++ n :: (back ++ [n]) := by
    rw [← List.dropLast_append_getLast? n hlast, hfront]
    simp
  obtain ⟨first, hfirst, hhead⟩ := h.starts
  have hleads := h.leads
  have hreach : Reaches members table names n := by
    obtain ⟨tail, rfl⟩ : ∃ tail, path = first :: tail := by
      cases path with
      | nil => cases hhead
      | cons _ tail => exact ⟨tail, by rw [Option.some.inj hhead]⟩
    have : n ∈ first :: tail := by simp [hpath]
    obtain rfl | hmem := List.mem_cons.mp this
    · exact .here hfirst
    · exact Reaches.along (.here hfirst) hleads hmem
  rw [hpath] at hleads
  have hback := (List.isChain_append.mp hleads).2.1
  intro hacyclic
  cases back with
  | nil =>
    obtain ⟨⟨ms, hc, hm⟩, -⟩ := List.isChain_cons_cons.mp hback
    exact hacyclic n ms hreach hc (.here hm)
  | cons b back =>
    obtain ⟨⟨ms, hc, hb⟩, hback⟩ := List.isChain_cons_cons.mp hback
    exact hacyclic n ms hreach hc (Reaches.along (.here hb) hback (by simp))

-- ---------------------------------------------------------------------------
-- Expansion
-- ---------------------------------------------------------------------------

/-- An expansion that comes to an end has read what the names unfold to, and no link too many. -/
theorem expand_ok (h : expand members table opened names x = .ok y) :
    ∃ leaves, Unfolds members table names leaves [] ∧
      y = leaves.foldl (Expansion.read table) x ∧
      (x.links.length ≤ maxLinks → y.links.length ≤ maxLinks) := by
  fun_induction expand members table opened names x generalizing y with
  | case1 => cases h; exact ⟨[], .done [], rfl, id⟩
  | case2 opened x name rest found ih =>
    obtain ⟨leaves, hu, hy, hle⟩ := ih h
    refine ⟨name :: leaves, .pass (isLeaf_of_none found) hu, ?_, ?_⟩
    · simpa [Expansion.read, found] using hy
    · intro hx
      refine hle ?_
      unfold Expansion.addMissing
      split <;> exact hx
  | case3 => cases h
  | case4 opened x name rest d found plain room ih =>
    obtain ⟨leaves, hu, hy, hle⟩ := ih h
    refine ⟨name :: leaves, .pass (isLeaf_of_link found plain) hu, ?_, ?_⟩
    · simpa [Expansion.read, found] using hy
    · intro hx
      refine hle ?_
      simp only [Expansion.addLink, List.length_append, List.length_singleton]
      omega
  | case5 => cases h
  | case6 => cases h
  | case7 opened x name rest d found inner chain fresh _ x' done ih ih' =>
    obtain ⟨leaves, hu, rfl, hle⟩ := ih done
    obtain ⟨leaves', hu', hy, hle'⟩ := ih' h
    refine ⟨leaves ++ leaves', .replace ⟨d, found, chain⟩ (hu.join hu'), ?_, hle' ∘ hle⟩
    rw [hy, List.foldl_append]

theorem expand_tooLong (h : expand members table opened names x = .error (.tooLong limit)) :
    limit = maxLinks ∧ ∃ passed name rest d,
      Unfolds members table names passed (name :: rest) ∧
      table.lookup name = some d ∧ members d = none ∧
      (passed.foldl (Expansion.read table) x).links.length = maxLinks := by
  fun_induction expand members table opened names x with
  | case1 => cases h
  | case2 opened x name rest found ih =>
    obtain ⟨hlim, passed, n, rest', d, hu, hl, hd, hlen⟩ := ih h
    refine ⟨hlim, name :: passed, n, rest', d, .pass (isLeaf_of_none found) hu, hl, hd, ?_⟩
    simpa [Expansion.read, found] using hlen
  | case3 opened x name rest d found plain full =>
    cases h
    exact ⟨rfl, [], name, rest, d, .done _, found, plain, full⟩
  | case4 opened x name rest d found plain room ih =>
    obtain ⟨hlim, passed, n, rest', d', hu, hl, hd, hlen⟩ := ih h
    refine ⟨hlim, name :: passed, n, rest', d', .pass (isLeaf_of_link found plain) hu, hl, hd, ?_⟩
    simpa [Expansion.read, found] using hlen
  | case5 => cases h
  | case6 opened x name rest d found inner chain fresh _ e failed ih =>
    cases h
    obtain ⟨hlim, passed, n, rest', d', hu, hl⟩ := ih failed
    exact ⟨hlim, passed, n, rest' ++ rest, d', .replace ⟨d, found, chain⟩ (hu.append rest), hl⟩
  | case7 opened x name rest d found inner chain fresh _ x' done ih ih' =>
    obtain ⟨leaves, hu, rfl, -⟩ := expand_ok done
    obtain ⟨hlim, passed, n, rest', d', hu', hl, hd, hlen⟩ := ih' h
    refine ⟨hlim, leaves ++ passed, n, rest', d', .replace ⟨d, found, chain⟩ (hu.join hu'),
      hl, hd, ?_⟩
    rw [List.foldl_append]
    exact hlen

/-- An expansion finds a cycle at a chain that is open. The names stand in the chain that was
opened last, and the path goes on from there. -/
theorem expand_cycle (h : expand members table opened names x = .error (.cycle path))
    (ho : opened.Nodup) (hn : ∀ n ∈ names, (opened ++ [n]).IsChain (Within members table)) :
    (∃ n ∈ names, opened ++ [n] <+: path) ∧ path.IsChain (Within members table) ∧
      path.dropLast.Nodup ∧ ∃ n ∈ path.dropLast, path.getLast? = some n := by
  fun_induction expand members table opened names x with
  | case1 => cases h
  | case2 opened x name rest found ih =>
    obtain ⟨⟨n, hm, hpre⟩, hp⟩ := ih h ho fun n hm => hn n (List.mem_cons_of_mem _ hm)
    exact ⟨⟨n, List.mem_cons_of_mem _ hm, hpre⟩, hp⟩
  | case3 => cases h
  | case4 opened x name rest d found plain room ih =>
    obtain ⟨⟨n, hm, hpre⟩, hp⟩ := ih h ho fun n hm => hn n (List.mem_cons_of_mem _ hm)
    exact ⟨⟨n, List.mem_cons_of_mem _ hm, hpre⟩, hp⟩
  | case5 opened x name rest d found inner chain cyclic =>
    cases h
    refine ⟨⟨name, List.mem_cons_self, List.prefix_rfl⟩, hn name List.mem_cons_self, ?_, name, ?_⟩
    · simpa using ho
    · simpa using cyclic
  | case6 opened x name rest d found inner chain fresh _ e failed ih =>
    cases h
    have hname := hn name List.mem_cons_self
    have ho' : (opened ++ [name]).Nodup :=
      (List.perm_append_singleton name opened).nodup_iff.mpr (List.nodup_cons.mpr ⟨fresh, ho⟩)
    obtain ⟨⟨n, -, hpre⟩, hp⟩ := ih failed ho' fun n hm => by
      refine List.isChain_append.mpr ⟨hname, List.isChain_singleton _, ?_⟩
      intro a ha b hb
      have ha : name = a := by simpa using ha
      have hb : n = b := by simpa using hb
      subst ha hb
      exact ⟨inner, ⟨d, found, chain⟩, hm⟩
    exact ⟨⟨name, List.mem_cons_self, (List.prefix_append _ _).trans hpre⟩, hp⟩
  | case7 opened x name rest d found inner chain fresh _ x' done ih ih' =>
    obtain ⟨⟨n, hm, hpre⟩, hp⟩ := ih' h ho fun n hm => hn n (List.mem_cons_of_mem _ hm)
    exact ⟨⟨n, List.mem_cons_of_mem _ hm, hpre⟩, hp⟩

-- ---------------------------------------------------------------------------
-- Resolution
-- ---------------------------------------------------------------------------

section
variable (members : δ → Option (List String)) (table : List (String × δ))

/-- A further link is read behind as many links as there may be. -/
def Overflows (names : List String) : Prop :=
  ∃ passed name rest d, Unfolds members table names passed (name :: rest) ∧
    table.lookup name = some d ∧ members d = none ∧ (linksOf table passed).length = maxLinks

end

theorem Overflows.lt_length (h : Overflows members table names)
    (hu : Unfolds members table names leaves []) : maxLinks < (linksOf table leaves).length := by
  obtain ⟨passed, name, rest, d, hpassed, hl, hd, hlen⟩ := h
  obtain ⟨more, rfl, hmore⟩ := hu.split hpassed
  cases hmore with
  | pass _ _ =>
    simp only [linksOf_append, List.length_append, hlen]
    simp [linksOf, hl]
  | replace hc _ => exact absurd (isLeaf_of_link hl hd) hc.not_isLeaf

/-- What names unfold to decides what they resolve to, unless it does not end or is too long. -/
theorem resolve_cases (members : δ → Option (List String)) (table : List (String × δ))
    (names : List String) :
    (∃ path, resolve members table names = .error (.cycle path) ∧
      IsCycle members table names path) ∨
    (resolve members table names = .error (.tooLong maxLinks) ∧
      Overflows members table names) ∨
    ∃ leaves ns, Unfolds members table names leaves [] ∧
      (linksOf table leaves).length ≤ maxLinks ∧ Missing table leaves ns ∧
      resolve members table names =
        if ns.isEmpty then .ok (linksOf table leaves) else .error (.missing ns) := by
  unfold resolve
  cases h : expand members table [] names {} with
  | error e =>
    obtain ⟨path, rfl⟩ | rfl := expand_error h
    · obtain ⟨⟨n, hn, tail, rfl⟩, hleads, hsimple, hreturns⟩ :=
        expand_cycle h List.nodup_nil fun n _ => List.isChain_singleton n
      exact .inl ⟨_, rfl, ⟨n, hn, rfl⟩, hleads, hsimple, hreturns⟩
    · obtain ⟨-, passed, name, rest, d, hu, hl, hd, hlen⟩ := expand_tooLong h
      rw [Expansion.foldl_read_links] at hlen
      exact .inr (.inl ⟨rfl, passed, name, rest, d, hu, hl, hd, hlen⟩)
  | ok y =>
    obtain ⟨leaves, hu, rfl, hle⟩ := expand_ok h
    have hlinks := Expansion.foldl_read_links table {} leaves
    rw [List.nil_append] at hlinks
    refine .inr (.inr ⟨leaves, _, hu, ?_, missing_foldl_read leaves, ?_⟩)
    · exact hlinks ▸ hle (Nat.zero_le _)
    · simp only [hlinks]

theorem resolve_of_unfolds (hu : Unfolds members table names leaves [])
    (hlen : (linksOf table leaves).length ≤ maxLinks) :
    ∃ ns, Missing table leaves ns ∧ resolve members table names =
      if ns.isEmpty then .ok (linksOf table leaves) else .error (.missing ns) := by
  obtain ⟨path, -, hp⟩ | ⟨-, ho⟩ | ⟨leaves', ns, hu', -, hm, hr⟩ :=
    resolve_cases members table names
  · exact absurd hu.acyclic hp.not_acyclic
  · exact absurd (ho.lt_length hu) (Nat.not_lt.mpr hlen)
  · obtain rfl := hu.unique hu'
    exact ⟨ns, hm, hr⟩

theorem Missing.reaches_iff (h : Missing table leaves ns)
    (hu : Unfolds members table names leaves []) :
    n ∈ ns ↔ Reaches members table names n ∧ table.lookup n = none := by
  rw [h.mem, hu.mem_iff]
  constructor
  · rintro ⟨⟨hn, -⟩, hl⟩
    exact ⟨hn, hl⟩
  · rintro ⟨hn, hl⟩
    exact ⟨⟨hn, isLeaf_of_none hl⟩, hl⟩

theorem resolve_ok_iff : (∃ links, resolve members table names = .ok links) ↔
    (∀ n, Reaches members table names n → table.lookup n ≠ none) ∧
    Acyclic members table names ∧
    ∃ leaves, Unfolds members table names leaves [] ∧
      (linksOf table leaves).length ≤ maxLinks := by
  constructor
  · rintro ⟨links, h⟩
    obtain ⟨path, hp, -⟩ | ⟨ho, -⟩ | ⟨leaves, ns, hu, hlen, hm, hr⟩ :=
      resolve_cases members table names
    · cases h.symm.trans hp
    · cases h.symm.trans ho
    · refine ⟨fun n hn hl => ?_, hu.acyclic, leaves, hu, hlen⟩
      have hns := List.ne_nil_of_mem ((hm.reaches_iff hu).mpr ⟨hn, hl⟩)
      simp [hr, hns] at h
  · rintro ⟨hdefined, -, leaves, hu, hlen⟩
    obtain ⟨ns, hm, hr⟩ := resolve_of_unfolds hu hlen
    refine ⟨linksOf table leaves, ?_⟩
    have hns : ns = [] := List.eq_nil_iff_forall_not_mem.mpr fun n hn =>
      let ⟨hn, hl⟩ := (hm.reaches_iff hu).mp hn
      hdefined n hn hl
    simp [hr, hns]

theorem resolve_missing_iff : (∃ ns, resolve members table names = .error (.missing ns)) ↔
    (∃ n, Reaches members table names n ∧ table.lookup n = none) ∧
    Acyclic members table names ∧
    ∃ leaves, Unfolds members table names leaves [] ∧
      (linksOf table leaves).length ≤ maxLinks := by
  constructor
  · rintro ⟨ns, h⟩
    obtain ⟨path, hp, -⟩ | ⟨ho, -⟩ | ⟨leaves, ns', hu, hlen, hm, hr⟩ :=
      resolve_cases members table names
    · cases h.symm.trans hp
    · cases h.symm.trans ho
    · cases ns' with
      | nil => cases h.symm.trans hr
      | cons n ns' =>
        exact ⟨⟨n, (hm.reaches_iff hu).mp List.mem_cons_self⟩, hu.acyclic, leaves, hu, hlen⟩
  · rintro ⟨⟨n, hn⟩, -, leaves, hu, hlen⟩
    obtain ⟨ns, hm, hr⟩ := resolve_of_unfolds hu hlen
    have hns := List.ne_nil_of_mem ((hm.reaches_iff hu).mpr hn)
    exact ⟨ns, by simp [hr, hns]⟩

theorem resolve_missing (h : resolve members table names = .error (.missing ns)) :
    ∃ leaves, Unfolds members table names leaves [] ∧ Missing table leaves ns := by
  obtain ⟨-, -, leaves, hu, hlen⟩ := resolve_missing_iff.mp ⟨ns, h⟩
  obtain ⟨ns', hm, hr⟩ := resolve_of_unfolds hu hlen
  cases ns' with
  | nil => cases h.symm.trans hr
  | cons n ns' =>
    cases h.symm.trans hr
    exact ⟨leaves, hu, hm⟩

theorem resolve_links (h : resolve members table names = .ok links)
    (hu : Unfolds members table names leaves []) : links = linksOf table leaves := by
  obtain ⟨-, -, leaves', hu', hlen⟩ := resolve_ok_iff.mp ⟨links, h⟩
  obtain rfl := hu.unique hu'
  obtain ⟨ns, hm, hr⟩ := resolve_of_unfolds hu hlen
  cases ns with
  | nil => cases h.symm.trans hr; rfl
  | cons n ns => cases h.symm.trans hr

theorem resolve_cycle (h : resolve members table names = .error (.cycle path)) :
    IsCycle members table names path := by
  obtain ⟨path', hp, hcycle⟩ | ⟨ho, -⟩ | ⟨leaves, ns, hu, hlen, hm, hr⟩ :=
    resolve_cases members table names
  · cases h.symm.trans hp
    exact hcycle
  · cases h.symm.trans ho
  · cases ns <;> cases h.symm.trans hr

theorem resolve_tooLong (h : resolve members table names = .error (.tooLong limit)) :
    limit = maxLinks ∧ Overflows members table names := by
  obtain ⟨path', hp, -⟩ | ⟨ho, hover⟩ | ⟨leaves, ns, hu, hlen, hm, hr⟩ :=
    resolve_cases members table names
  · cases h.symm.trans hp
  · cases h.symm.trans ho
    exact ⟨rfl, hover⟩
  · cases ns <;> cases h.symm.trans hr

-- ---------------------------------------------------------------------------
-- Building
-- ---------------------------------------------------------------------------

theorem makeLinks_ne_unresolved (factory : Factory δ ε H σ) (links : List (String × δ)) (next : H)
    (s : σ) : (makeLinks factory links next s).1 ≠ .error (.unresolved e) := by
  intro h
  obtain ⟨name, d, err', next', t, t', -, -, heq⟩ := makeLinks_error (Prod.ext h rfl)
  cases heq

theorem buildChain_unresolved_iff {factory : Factory δ ε H σ} {next : H} {s : σ} :
    (buildChain members factory table names next s).1 = .error (.unresolved e) ↔
      resolve members table names = .error e := by
  unfold buildChain
  split
  · rename_i e' hr
    simp [hr]
  · rename_i links hr
    simp [hr, makeLinks_ne_unresolved]

/-- Building a chain either makes the links that its names unfold to, or makes nothing and says
what is wrong with the names. -/
theorem buildChain_outcome (members : δ → Option (List String)) (factory : Factory δ ε H σ)
    (table : List (String × δ)) (names : List String) (next : H) (s : σ) :
    -- All that is reached is defined, there is no cycle, and there are no more than 1024 links.
    ((∀ e, (buildChain members factory table names next s).1 ≠ .error (.unresolved e)) ↔
      (∀ n, Reaches members table names n → table.lookup n ≠ none) ∧
      Acyclic members table names ∧
      ∃ leaves, Unfolds members table names leaves [] ∧ (linksOf table leaves).length ≤ 1024) ∧
    -- The links are made in the order in which they are read.
    ((∀ e, (buildChain members factory table names next s).1 ≠ .error (.unresolved e)) →
      ∃ leaves, Unfolds members table names leaves [] ∧
        buildChain members factory table names next s =
          makeLinks factory (linksOf table leaves) next s) ∧
    -- Otherwise nothing is made.
    (∀ e, (buildChain members factory table names next s).1 = .error (.unresolved e) →
      (buildChain members factory table names next s).2 = s) ∧
    -- Something that is reached is not defined, but there is no cycle and no link too many.
    ((∃ ns, (buildChain members factory table names next s).1 =
        .error (.unresolved (.missing ns))) ↔
      (∃ n, Reaches members table names n ∧ table.lookup n = none) ∧
      Acyclic members table names ∧
      ∃ leaves, Unfolds members table names leaves [] ∧ (linksOf table leaves).length ≤ 1024) ∧
    -- Each name that is missing is reported once, in the order in which they are first read.
    (∀ ns, (buildChain members factory table names next s).1 =
        .error (.unresolved (.missing ns)) →
      (∀ n, n ∈ ns ↔ Reaches members table names n ∧ table.lookup n = none) ∧ ns.Nodup ∧
      ∃ leaves, Unfolds members table names leaves [] ∧
        ns.Pairwise fun a b => leaves.idxOf a < leaves.idxOf b) ∧
    -- A cycle that is reported is one.
    (∀ path, (buildChain members factory table names next s).1 =
        .error (.unresolved (.cycle path)) → IsCycle members table names path) ∧
    -- Names that are too long have a link behind 1024 others.
    (∀ limit, (buildChain members factory table names next s).1 =
        .error (.unresolved (.tooLong limit)) →
      limit = 1024 ∧ ∃ passed name rest d,
        Unfolds members table names passed (name :: rest) ∧ table.lookup name = some d ∧
        members d = none ∧ (linksOf table passed).length = 1024) := by
  have hok : (∀ e, (buildChain members factory table names next s).1 ≠ .error (.unresolved e)) ↔
      ∃ links, resolve members table names = .ok links := by
    simp only [ne_eq, buildChain_unresolved_iff]
    cases resolve members table names <;> simp
  refine ⟨hok.trans resolve_ok_iff, fun h => ?_, fun e h => ?_, ?_, fun ns h => ?_,
    fun path h => ?_, fun limit h => ?_⟩
  · obtain ⟨links, hr⟩ := hok.mp h
    obtain ⟨-, -, leaves, hu, -⟩ := resolve_ok_iff.mp ⟨links, hr⟩
    refine ⟨leaves, hu, ?_⟩
    rw [← resolve_links hr hu]
    simp [buildChain, hr]
  · have hr := buildChain_unresolved_iff.mp h
    simp [buildChain, hr]
  · simp only [buildChain_unresolved_iff]
    exact resolve_missing_iff
  · obtain ⟨leaves, hu, hm⟩ := resolve_missing (buildChain_unresolved_iff.mp h)
    exact ⟨fun n => hm.reaches_iff hu, hm.nodup, leaves, hu, hm.ordered⟩
  · exact resolve_cycle (buildChain_unresolved_iff.mp h)
  · exact resolve_tooLong (buildChain_unresolved_iff.mp h)

end ConditionalGateway.Pipeline
