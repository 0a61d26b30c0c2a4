import ConditionalGateway.Config.Validation
import ConditionalGateway.Proofs.Pipeline.Construction
import Mathlib

/-!
# A configuration without problems can be built

`stackBranches_sound`: the routers of a configuration without problems are made,
or they fail for a reason that is none of its problems (`RouterError.Residual`).

The problems of a branch are looked for in its whole table, and its chain is
built from the names that its order reaches. Every name that is reached is
mentioned, in the order or by a chain of the table (`reaches_isSome`), so the
search sees all that construction meets.
-/

namespace ConditionalGateway.Config

open Pipeline

-- ---------------------------------------------------------------------------
-- Problems
-- ---------------------------------------------------------------------------

theorem distinct_eq_nil : distinct seen names = [] ↔ ∀ n ∈ names, n ∈ seen := by
  induction names generalizing seen with
  | nil => simp [distinct]
  | cons name rest ih =>
    unfold distinct
    split
    · rename_i h
      simp [ih, h]
    · rename_i h
      simp [h]

theorem unknownNames_eq_nil {spec : BranchSpec Descriptor} :
    unknownNames spec = [] ↔
      ∀ n ∈ mentioned spec, (spec.middlewares.lookup n).isSome = true := by
  simp [unknownNames, distinct_eq_nil, Option.isSome_iff_ne_none]

theorem conditionProblems_eq_nil :
    conditionProblems path condition = [] ↔ ∃ p, Predicate.compile condition = .ok p := by
  unfold conditionProblems
  cases Predicate.compile condition <;> simp

theorem tableProblems_eq_nil {table : Table} :
    tableProblems path table = [] ↔
      ∀ e ∈ table, descriptorProblems (path ++ "/" ++ e.1) e.2 = [] := by
  induction table with
  | nil => simp [tableProblems]
  | cons e rest ih =>
    obtain ⟨name, d⟩ := e
    simp [tableProblems, ih]

theorem descriptorProblems_branching (path : String) (spec : BranchSpec Descriptor) :
    descriptorProblems path (.branching spec) = specProblems path spec := by
  obtain ⟨condition, chain, middlewares⟩ := spec
  simp only [descriptorProblems, specProblems]

theorem specProblems_eq_nil {spec : BranchSpec Descriptor} :
    specProblems path spec = [] ↔ (∃ p, Predicate.compile spec.condition = .ok p) ∧
      unknownNames spec = [] ∧ tableProblems path spec.middlewares = [] := by
  simp [specProblems, ownProblems, conditionProblems_eq_nil]

theorem branchProblems_spec {branches : List Branch}
    (h : branchProblems index before branches = []) (hb : b ∈ branches) :
    specProblems b.name b.spec = [] := by
  induction branches generalizing index before with
  | nil => cases hb
  | cons b' rest ih =>
    simp only [branchProblems, List.append_eq_nil_iff] at h
    obtain ⟨⟨-, hs⟩, hr⟩ := h
    obtain rfl | hb := List.mem_cons.mp hb
    · exact hs
    · exact ih hr hb

theorem reaches_isSome {spec : BranchSpec Descriptor} (h : unknownNames spec = [])
    (hr : Reaches Descriptor.members? spec.middlewares spec.order n) :
    (spec.middlewares.lookup n).isSome = true := by
  rw [unknownNames_eq_nil] at h
  cases hr with
  | here hm => exact h n (List.mem_append_left _ hm)
  | @through chain d inner _ _ hl hd hm =>
    apply h n
    apply List.mem_append_right
    exact List.mem_flatMap.mpr ⟨(chain, d), mem_of_lookup hl, by simpa [hd] using hm⟩

-- ---------------------------------------------------------------------------
-- Construction
-- ---------------------------------------------------------------------------

variable {Q : Type} [RateLimit.Amount Q]

theorem makeRouter_sound {spec : BranchSpec Descriptor} (h : specProblems path spec = [])
    (hd : ∀ e ∈ spec.middlewares, ∀ path, descriptorProblems path e.2 = [] → e.2.members? = none →
      ∀ next, FailsOnly LinkError.Residual (makeLink (Q := Q) e.1 e.2 next)) :
    FailsOnly RouterError.Residual
      (makeRouter Descriptor.members? (makeLink (Q := Q)) name spec next) := by
  obtain ⟨hc, hu, ht⟩ := specProblems_eq_nil.mp h
  refine makeRouter_residual hc (fun n => reaches_isSome hu) fun e he hm => ?_
  exact hd e he _ (tableProblems_eq_nil.mp ht e he) hm

theorem makeLink_sound (d : Descriptor) :
    ∀ path name, descriptorProblems path d = [] → d.members? = none →
      ∀ next, FailsOnly LinkError.Residual (makeLink (Q := Q) name d next) := by
  -- only a branch makes a router of its own, from a table of smaller descriptors
  induction d using Descriptor.nested with
  | step d ih =>
    intro path name hp hd next
    by_cases hb : ∃ spec, d = .branching spec
    · obtain ⟨spec, rfl⟩ := hb
      rw [descriptorProblems_branching] at hp
      rw [makeLink_branching]
      exact asLink_residual (makeRouter_sound hp fun e he path => ih spec rfl e he path e.1)
    · exact makeLink_plain hd fun spec h => hb ⟨spec, h⟩

/-- The routers of a configuration without problems are made, or they fail for a reason that is
none of its problems. -/
theorem stackBranches_sound {c : Config} (h : c.problems = []) (next : Handler Builtin)
    (w : World Q) :
    (∃ handler w', stackBranches makeLink c.branches next w = (.ok handler, w')) ∨
      ∃ e w', stackBranches makeLink c.branches next w = (.error e, w') ∧ e.Residual := by
  have hp : branchProblems 0 [] c.branches = [] := by
    simp only [problems, List.append_eq_nil_iff] at h
    exact h.2
  have hr : FailsOnly RouterError.Residual (stackBranches (makeLink (Q := Q)) c.branches next) := by
    refine stackBranches_residual fun b hb inner => ?_
    exact makeRouter_sound (branchProblems_spec hp hb) fun e _ path => makeLink_sound e.2 path e.1
  cases hs : stackBranches makeLink c.branches next w with
  | mk res w' =>
    cases res with
    | ok handler => exact .inl ⟨handler, w', rfl⟩
    | error e => exact .inr ⟨e, w', rfl, hr _ _ _ hs⟩

/-- A branch in the table of another one, with a chain that is its own member. -/
def nestedCycle : Config where
  originUrl := "http://[::1]"
  branches := [⟨"a", ⟨"true", none, [("b", .branching ⟨"true", none, [("c", .chain ["c"])]⟩)]⟩⟩]

theorem stackBranches_sound_nestedCycle :
    nestedCycle.problems = [] ∧ ∃ e w',
      stackBranches makeLink nestedCycle.branches .terminal ({} : World Float) = (.error e, w') ∧
        e = .chain "a" (.link "b" (.branching (.chain "b" (.unresolved (.cycle ["c", "c"]))))) ∧
        e.Residual := by
  have h : nestedCycle.problems = [] := by cbv
  have hs : stackBranches makeLink nestedCycle.branches .terminal ({} : World Float) =
      (.error (.chain "a" (.link "b" (.branching (.chain "b" (.unresolved (.cycle ["c", "c"])))))),
        {}) := by cbv
  obtain ⟨handler, w', he⟩ | ⟨e, w', he, hr⟩ := stackBranches_sound h .terminal ({} : World Float)
  · cases hs.symm.trans he
  · cases hs.symm.trans he
    exact ⟨h, _, _, hs, rfl, hr⟩

end ConditionalGateway.Config
