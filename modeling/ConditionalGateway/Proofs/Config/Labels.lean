import ConditionalGateway.Config.Validation
import ConditionalGateway.Proofs.Pipeline.Registration
import Mathlib

/-!
# The names that routers count under

The branches of a configuration without problems have names of their own. A
router in a table counts under its name in that table, which may be the name of
a branch or of a router in another table, and a chain may name it twice. So the
routers count apart if and only if the names in the tables are apart from each
other and from those of the branches (`labels_nodup_iff`).
-/

namespace ConditionalGateway.Config

open Pipeline

-- ---------------------------------------------------------------------------
-- Names of branches
-- ---------------------------------------------------------------------------

theorem nameProblems_eq_nil (h : nameProblems index before name = []) : name ∉ before := by
  unfold nameProblems at h
  split at h
  · cases h
  · simpa [problemIf] using h

theorem branchProblems_names {branches : List Branch}
    (h : branchProblems index before branches = []) :
    (∀ b ∈ branches, b.name ∉ before) ∧ (branches.map Branch.name).Nodup := by
  induction branches generalizing index before with
  | nil => simp
  | cons b rest ih =>
    simp only [branchProblems, List.append_eq_nil_iff] at h
    obtain ⟨⟨hn, -⟩, hr⟩ := h
    obtain ⟨hb, hd⟩ := ih hr
    simp only [List.mem_cons, not_or] at hb
    refine ⟨List.forall_mem_cons.mpr ⟨nameProblems_eq_nil hn, fun b' hb' => (hb b' hb').2⟩, ?_⟩
    rw [List.map_cons, List.nodup_cons]
    refine ⟨?_, hd⟩
    rintro hm
    obtain ⟨b', hb', he⟩ := List.mem_map.mp hm
    exact (hb b' hb').1 he

theorem names_nodup {c : Config} (h : c.problems = []) : (c.branches.map Branch.name).Nodup := by
  simp only [problems, List.append_eq_nil_iff] at h
  exact (branchProblems_names h.2).2

-- ---------------------------------------------------------------------------
-- Names of routers
-- ---------------------------------------------------------------------------

/-- The names of the routers that the tables of the branches make, one for each that is made. -/
def nestedRouters (c : Config) : List String :=
  c.branches.flatMap fun b => Pipeline.nestedRouters b.spec

theorem stackRouters_perm (c : Config) :
    (stackRouters c.branches).Perm (c.nestedRouters ++ c.branches.map Branch.name) := by
  rw [nestedRouters, stackRouters, List.map_eq_flatMap]
  refine List.Perm.trans ?_ (List.flatMap_append_perm _ _ _).symm
  exact (List.reverse_perm _).flatMap_right _

theorem stackRouters_nodup {c : Config} (h : c.problems = []) :
    (stackRouters c.branches).Nodup ↔
      c.nestedRouters.Nodup ∧ ∀ b ∈ c.branches, b.name ∉ c.nestedRouters := by
  rw [(stackRouters_perm c).nodup_iff, List.nodup_append']
  constructor
  · rintro ⟨hn, -, hd⟩
    exact ⟨hn, fun b hb hm => hd hm (List.mem_map_of_mem hb)⟩
  · rintro ⟨hn, hd⟩
    refine ⟨hn, names_nodup h, fun name hm hb => ?_⟩
    obtain ⟨b, hmem, rfl⟩ := List.mem_map.mp hb
    exact hd b hmem hm

-- ---------------------------------------------------------------------------
-- Counts
-- ---------------------------------------------------------------------------

variable {Q : Type} [RateLimit.Amount Q]

/-- The routers of a stack count under their names. They count apart, so that the decisions of a
name are those of one router, if and only if the names in the tables are apart. -/
theorem labels_nodup_iff {c : Config} {w w' : World Q} {handler : Handler Builtin}
    (hp : c.problems = [])
    (hs : stackBranches makeLink c.branches .terminal w = (.ok handler, w')) :
    ∃ js, (∀ js', Creates .terminal handler js' ↔ js' = js) ∧
      w'.counters = (js.map Junction.label).foldl Counters.registerRouter w.counters ∧
      ((js.map Junction.label).Nodup ↔
        c.nestedRouters.Nodup ∧ ∀ b ∈ c.branches, b.name ∉ c.nestedRouters) ∧
      ∀ terminal events,
        (∀ name, (handler.run terminal events w').counters.decisions name =
          w.counters.decisions name + ((js.filter fun j => j.label = name).map fun j =>
            (handler.reaching terminal j.handler events w').length).sum) ∧
        ((js.map Junction.label).Nodup → ∀ j ∈ js,
          (handler.run terminal events w').counters.decisions j.label =
            w.counters.decisions j.label +
              (handler.reaching terminal j.handler events w').length) := by
  obtain ⟨js, hc, hn, hw⟩ := stackBranches_registers _ _ _ _ _ hs
  have hsum : ∀ terminal events name, (handler.run terminal events w').counters.decisions name =
      w.counters.decisions name + ((js.filter fun j => j.label = name).map fun j =>
        (handler.reaching terminal j.handler events w').length).sum := by
    intro terminal events name
    rw [hc.decisions_run, hw, Counters.decisions_registered]
  refine ⟨js, fun js' => ⟨fun hc' => hc'.unique hc, by rintro rfl; exact hc⟩, by rw [hn, hw], ?_,
    fun terminal events => ⟨hsum terminal events, fun hd j hj => ?_⟩⟩
  · rw [hn, stackRouters_nodup hp]
  · rw [hsum, filter_label hd hj, List.map_singleton, List.sum_singleton]

/-- A branch with one router in its table. -/
def routerWithin (inner : String) : Config where
  originUrl := "http://[::1]"
  branches := [⟨"a", "true", none, [(inner, .branching ⟨"true", none, []⟩)]⟩]

theorem labels_nodup_iff_apart : (routerWithin "b").problems = [] ∧ ∃ handler w' js,
    stackBranches makeLink (routerWithin "b").branches .terminal ({} : World Float) =
      (.ok handler, w') ∧
    Creates .terminal handler js ∧ (js.map Junction.label).Nodup := by
  have hp : (routerWithin "b").problems = [] := by cbv
  obtain ⟨handler, w', hs⟩ : ∃ handler w',
      stackBranches makeLink (routerWithin "b").branches .terminal ({} : World Float) =
        (.ok handler, w') := ⟨_, _, by cbv⟩
  obtain ⟨js, hjs, -, hiff, -⟩ := labels_nodup_iff hp hs
  let inner : BranchSpec Descriptor := ⟨"true", none, []⟩
  let outer : BranchSpec Descriptor := ⟨"true", none, [("b", .branching inner)]⟩
  have hinner : resolve Descriptor.members? inner.middlewares inner.order = .ok [] := by cbv
  have houter : resolve Descriptor.members? outer.middlewares outer.order =
      .ok [("b", .branching inner)] := by cbv
  have hnested : (routerWithin "b").nestedRouters = ["b"] := by
    change Pipeline.nestedRouters outer ++ [] = ["b"]
    simp [nestedRouters_eq houter, Descriptor.routers, nestedRouters_eq hinner]
  refine ⟨hp, handler, w', js, hs, (hjs js).mpr rfl, hiff.mpr ?_⟩
  rw [hnested]
  decide

theorem labels_shared_within : (routerWithin "a").problems = [] ∧ ∃ handler w' inner outer,
    stackBranches makeLink (routerWithin "a").branches .terminal ({} : World Float) =
      (.ok handler, w') ∧
    Creates .terminal handler [inner, outer] ∧ inner.label = outer.label ∧
    ∀ terminal r, (handler.run terminal [.call r] w').counters.decisions outer.label = 2 ∧
      handler.reaching terminal outer.handler [.call r] w' = [r] := by
  have hp : (routerWithin "a").problems = [] := by cbv
  let inner : Junction := ⟨⟨"a", "true", .const true⟩, .terminal, .terminal⟩
  let outer : Junction := ⟨⟨"a", "true", .const true⟩, inner.handler, .terminal⟩
  obtain ⟨w', hs⟩ : ∃ w',
      stackBranches makeLink (routerWithin "a").branches .terminal ({} : World Float) =
        (.ok outer.handler, w') := ⟨_, by cbv⟩
  have hc : Creates .terminal outer.handler [inner, outer] :=
    .router _ (.refl _) (.router _ (.refl _) (.refl _))
  have hvisits : ∀ r, outer.handler.visits r w' =
      [(outer.handler, r), (inner.handler, r), (.terminal, r)] := fun r => rfl
  obtain ⟨_, -, -, hw⟩ := stackBranches_registers _ _ _ _ _ hs
  refine ⟨hp, outer.handler, w', inner, outer, hs, hc, rfl, fun terminal r => ⟨?_, ?_⟩⟩
  · rw [Handler.decisions_run, hw, Counters.decisions_registered, Handler.watch, Handler.watch,
      hvisits]
    rfl
  · rw [Handler.reaching, Handler.watch, Handler.watch, hvisits]
    simp [arrivals, outer, inner, Junction.handler]

end ConditionalGateway.Config
