import ConditionalGateway.Proofs.Pipeline.Resolution
import Mathlib.Data.List.Basic
import Mathlib.Tactic.Common

/-!
# Unfolding names in place

Names are read from the left, and a chain is replaced by its members where it
stands. `Unfolds names passed rest` says that the names `passed`, none of them a
chain, are read before `rest` is left to be read; the reading is over when
nothing is left. It comes to an end exactly if no chain that the names reach
leads back to itself (`acyclic_iff`), and then there is one way to read.
-/

namespace ConditionalGateway.Pipeline

variable {δ : Type}

section
variable (members : δ → Option (List String)) (table : List (String × δ))

/-- A name stands for no chain: for one link, or for nothing. -/
def IsLeaf (name : String) : Prop := ∀ d, table.lookup name = some d → members d = none

def IsChainOf (name : String) (ms : List String) : Prop :=
  ∃ d, table.lookup name = some d ∧ members d = some ms

/-- No chain that the names reach is reached by its own members. -/
def Acyclic (names : List String) : Prop :=
  ∀ n ms, Reaches members table names n → IsChainOf members table n ms →
    ¬ Reaches members table ms n

/-- Which names are read before others, when chains are replaced in place. -/
inductive Unfolds : List String → List String → List String → Prop
  | done (names : List String) : Unfolds names [] names
  | pass : IsLeaf members table name → Unfolds names passed rest →
      Unfolds (name :: names) (name :: passed) rest
  | replace : IsChainOf members table name ms → Unfolds (ms ++ names) passed rest →
      Unfolds (name :: names) passed rest

end

variable {members : δ → Option (List String)} {table : List (String × δ)}

theorem isLeaf_of_none (h : table.lookup name = none) : IsLeaf members table name :=
  fun _ hl => nomatch h.symm.trans hl

theorem isLeaf_of_link (h : table.lookup name = some d) (hd : members d = none) :
    IsLeaf members table name := by
  intro d' hl
  cases h.symm.trans hl
  exact hd

theorem IsChainOf.not_isLeaf (h : IsChainOf members table name ms) :
    ¬ IsLeaf members table name := by
  obtain ⟨d, hl, hm⟩ := h
  intro hleaf
  cases (hleaf d hl).symm.trans hm

theorem IsChainOf.unique (h : IsChainOf members table name ms)
    (h' : IsChainOf members table name ms') : ms = ms' := by
  obtain ⟨d, hl, hm⟩ := h
  obtain ⟨d', hl', hm'⟩ := h'
  cases hl.symm.trans hl'
  exact Option.some.inj (hm.symm.trans hm')

theorem Reaches.step (h : Reaches members table names name) (hc : IsChainOf members table name ms)
    (hn : n ∈ ms) : Reaches members table names n := by
  obtain ⟨d, hl, hm⟩ := hc
  exact .through h hl hm hn

theorem Reaches.trans (h : Reaches members table names name)
    (hc : IsChainOf members table name ms) (hn : Reaches members table ms n) :
    Reaches members table names n :=
  hn.of_subset fun _ hm => h.step hc hm

theorem Reaches.append_left (h : Reaches members table names n) :
    Reaches members table (names ++ more) n :=
  h.of_subset fun _ hm => .here (List.mem_append_left _ hm)

theorem Reaches.append_right (h : Reaches members table more n) :
    Reaches members table (names ++ more) n :=
  h.of_subset fun _ hm => .here (List.mem_append_right _ hm)

theorem Reaches.of_append (h : Reaches members table (names ++ more) n) :
    Reaches members table names n ∨ Reaches members table more n := by
  induction h with
  | here hm => exact (List.mem_append.mp hm).imp .here .here
  | through _ hl hd hm ih =>
    exact ih.imp (fun h => .through h hl hd hm) (fun h => .through h hl hd hm)

theorem not_reaches_nil : ¬ Reaches members table [] n := by
  intro h
  generalize hnames : ([] : List String) = names at h
  induction h with
  | here hm =>
    subst hnames
    cases hm
  | through _ _ _ _ ih => exact ih

theorem Reaches.of_cons (h : Reaches members table (name :: names) n) :
    n = name ∨ (∃ ms, IsChainOf members table name ms ∧ Reaches members table ms n) ∨
      Reaches members table names n := by
  induction h with
  | here hm =>
    obtain rfl | hm := List.mem_cons.mp hm
    · exact .inl rfl
    · exact .inr (.inr (.here hm))
  | @through chain d ms n _ hl hd hm ih =>
    have hc : IsChainOf members table chain ms := ⟨d, hl, hd⟩
    obtain rfl | ⟨ms', hc', hr⟩ | hr := ih
    · exact .inr (.inl ⟨ms, hc, .here hm⟩)
    · exact .inr (.inl ⟨ms', hc', hr.step hc hm⟩)
    · exact .inr (.inr (hr.step hc hm))

-- ---------------------------------------------------------------------------
-- Reading
-- ---------------------------------------------------------------------------

theorem Unfolds.append (h : Unfolds members table names passed rest) (more : List String) :
    Unfolds members table (names ++ more) passed (rest ++ more) := by
  induction h with
  | done names => exact .done _
  | pass hl _ ih => exact .pass hl ih
  | replace hc _ ih =>
    rw [List.append_assoc] at ih
    exact .replace hc ih

theorem Unfolds.trans (h : Unfolds members table names passed rest)
    (h' : Unfolds members table rest passed' rest') :
    Unfolds members table names (passed ++ passed') rest' := by
  induction h with
  | done names => exact h'
  | pass hl _ ih => exact .pass hl (ih h')
  | replace hc _ ih => exact .replace hc (ih h')

theorem Unfolds.join (h : Unfolds members table names passed [])
    (h' : Unfolds members table more passed' rest) :
    Unfolds members table (names ++ more) (passed ++ passed') rest :=
  (h.append more).trans h'

/-- There is one way to read names, so a reading that is over went on from any other. -/
theorem Unfolds.split (h : Unfolds members table names all [])
    (h' : Unfolds members table names passed rest) :
    ∃ more, all = passed ++ more ∧ Unfolds members table rest more [] := by
  induction h' generalizing all with
  | done names => exact ⟨all, rfl, h⟩
  | pass hl _ ih =>
    cases h with
    | pass _ h =>
      obtain ⟨more, rfl, hm⟩ := ih h
      exact ⟨more, rfl, hm⟩
    | replace hc _ => exact absurd hl hc.not_isLeaf
  | replace hc _ ih =>
    cases h with
    | pass hl _ => exact absurd hl hc.not_isLeaf
    | replace hc' h =>
      obtain rfl := hc.unique hc'
      exact ih h

theorem Unfolds.unique (h : Unfolds members table names all [])
    (h' : Unfolds members table names all' []) : all = all' := by
  obtain ⟨more, rfl, hm⟩ := h.split h'
  cases hm
  simp

/-- A reading that is over has passed the names that are reached and are no chains. -/
theorem Unfolds.mem_iff (h : Unfolds members table names all []) :
    n ∈ all ↔ Reaches members table names n ∧ IsLeaf members table n := by
  generalize hr : ([] : List String) = rest at h
  induction h with
  | done names =>
    subst hr
    exact ⟨fun hn => (nomatch hn), fun ⟨hn, _⟩ => absurd hn not_reaches_nil⟩
  | @pass name names passed rest hl _ ih =>
    rw [List.mem_cons, ih hr]
    constructor
    · rintro (rfl | ⟨hn, hleaf⟩)
      · exact ⟨.here List.mem_cons_self, hl⟩
      · exact ⟨hn.of_subset fun _ hm => .here (List.mem_cons_of_mem _ hm), hleaf⟩
    · rintro ⟨hn, hleaf⟩
      obtain rfl | ⟨ms, hc, -⟩ | hn := hn.of_cons
      · exact .inl rfl
      · exact absurd hl hc.not_isLeaf
      · exact .inr ⟨hn, hleaf⟩
  | @replace name ms names passed rest hc _ ih =>
    rw [ih hr]
    refine and_congr_left fun hleaf => ⟨fun hn => ?_, fun hn => ?_⟩
    · obtain hn | hn := hn.of_append
      · exact Reaches.trans (.here List.mem_cons_self) hc hn
      · exact hn.of_subset fun _ hm => .here (List.mem_cons_of_mem _ hm)
    · obtain rfl | ⟨ms', hc', hn⟩ | hn := hn.of_cons
      · exact absurd hleaf hc.not_isLeaf
      · exact (hc.unique hc' ▸ hn).append_left
      · exact hn.append_right

-- ---------------------------------------------------------------------------
-- Cycles
-- ---------------------------------------------------------------------------

/-- A chain that is its own member at any depth would be read without end. -/
theorem Unfolds.acyclic (h : Unfolds members table names all []) :
    Acyclic members table names := by
  generalize hr : ([] : List String) = rest at h
  induction h with
  | done names =>
    subst hr
    exact fun n ms hn => absurd hn not_reaches_nil
  | pass hl _ ih =>
    intro n ms hn hc
    obtain rfl | ⟨ms', hc', -⟩ | hn := hn.of_cons
    · exact absurd hl hc.not_isLeaf
    · exact absurd hl hc'.not_isLeaf
    · exact ih hr n ms hn hc
  | @replace name ms names passed rest hc _ ih =>
    intro n ms' hn hc'
    obtain rfl | ⟨ms'', hc'', hn⟩ | hn := hn.of_cons
    · obtain rfl := hc.unique hc'
      intro hself
      exact ih hr n ms hself.append_left hc hself
    · obtain rfl := hc.unique hc''
      exact ih hr n ms' hn.append_left hc'
    · exact ih hr n ms' hn.append_right hc'

/-- Without cycles the names can be read to the end. The chains `opened` lead to all of `names`,
so none of them is opened again. -/
theorem exists_unfolds (table : List (String × δ)) (opened names : List String)
    (hn : Acyclic members table names)
    (ho : ∀ o ∈ opened, ∃ ms, IsChainOf members table o ms ∧
      ∀ n ∈ names, Reaches members table ms n) :
    ∃ all, Unfolds members table names all [] := by
  cases names with
  | nil => exact ⟨[], .done []⟩
  | cons name rest =>
    have hrest : Acyclic members table rest := fun n ms hr =>
      hn n ms (hr.of_subset fun _ hm => .here (List.mem_cons_of_mem _ hm))
    obtain ⟨all, hall⟩ := exists_unfolds table opened rest hrest fun o hm => by
      obtain ⟨ms, hc, hr⟩ := ho o hm
      exact ⟨ms, hc, fun n hn => hr n (List.mem_cons_of_mem _ hn)⟩
    by_cases hc : ∃ ms, IsChainOf members table name ms
    · obtain ⟨ms, hc⟩ := hc
      obtain ⟨d, hl, hm⟩ := hc
      have hc : IsChainOf members table name ms := ⟨d, hl, hm⟩
      have fresh : name ∉ opened := by
        intro hopen
        obtain ⟨ms', hc', hr⟩ := ho name hopen
        exact hn name ms' (.here List.mem_cons_self) hc' (hr name List.mem_cons_self)
      have := unopened_append_lt hl fresh
      obtain ⟨inner, hinner⟩ := exists_unfolds table (opened ++ [name]) ms
        (fun n ms' hr => hn n ms' (Reaches.trans (.here List.mem_cons_self) hc hr))
        fun o hm => by
          obtain hm | hm := List.mem_append.mp hm
          · obtain ⟨ms', hc', hr⟩ := ho o hm
            exact ⟨ms', hc', fun n hn => (hr name List.mem_cons_self).step hc hn⟩
          · obtain rfl := List.mem_singleton.mp hm
            exact ⟨ms, hc, fun n hn => .here hn⟩
      exact ⟨inner ++ all, .replace hc (hinner.join hall)⟩
    · refine ⟨name :: all, .pass (fun d hl => ?_) hall⟩
      cases hm : members d with
      | none => rfl
      | some ms => exact absurd ⟨ms, d, hl, hm⟩ hc
termination_by ((unopened table opened).length, names.length)

theorem acyclic_iff : Acyclic members table names ↔ ∃ all, Unfolds members table names all [] :=
  ⟨fun h => exists_unfolds table [] names h (by simp), fun ⟨_, h⟩ => h.acyclic⟩

end ConditionalGateway.Pipeline
