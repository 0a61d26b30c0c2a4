import ConditionalGateway.Proofs.Pipeline.Registration

/-!
# What a failed construction leaves behind

Branches are made from the last to the first. So it is the last branch that
cannot be made which is to blame when a stack cannot be made, and the error is
its own: whether something can be made, and why not, does not depend on the
handler that it is made in front of (`Settled`).

What was made before the failure stays registered (`stackBranches_blames`): the
routers of the branches behind, and those that the branch itself abandons
(`RouterAbandons`). These are the routers of the links to the right of the one
that failed, and if that one is a router too, those that it abandons in turn.
-/

namespace ConditionalGateway.Pipeline

open RateLimit

variable {Q : Type}

-- ---------------------------------------------------------------------------
-- Success and failure
-- ---------------------------------------------------------------------------

def Succeeds (make : Handler Builtin → Build (World Q) ε (Handler Builtin)) : Prop :=
  ∀ next w, ∃ h w', make next w = (.ok h, w')

def FailsWith (make : Handler Builtin → Build (World Q) ε (Handler Builtin)) (err : ε) : Prop :=
  ∀ next w, ∃ w', make next w = (.error err, w')

/-- Whether a construction succeeds, and with what error it fails, does not depend on what it is
given. -/
def Settled (make : Handler Builtin → Build (World Q) ε (Handler Builtin)) : Prop :=
  Succeeds make ∨ ∃ err, FailsWith make err

section
variable {make : Handler Builtin → Build (World Q) ε (Handler Builtin)}

theorem Succeeds.not_error (hs : Succeeds make) : make next w ≠ (.error err, w') := by
  intro he
  obtain ⟨_, _, ho⟩ := hs next w
  cases ho.symm.trans he

theorem Settled.succeeds (hm : Settled make) (ho : make next w = (.ok h, w')) : Succeeds make := by
  obtain hs | ⟨_, hf⟩ := hm
  · exact hs
  · obtain ⟨_, he⟩ := hf next w
    cases he.symm.trans ho

theorem Settled.failsWith (hm : Settled make) (he : make next w = (.error err, w')) :
    FailsWith make err := by
  obtain hs | ⟨_, hf⟩ := hm
  · exact absurd he hs.not_error
  · obtain ⟨_, he'⟩ := hf next w
    cases he'.symm.trans he
    exact hf

end

theorem linkChecked_settled (check : Except LinkError Builtin) :
    Settled (linkChecked (Q := Q) check) := by
  cases check with
  | error e => exact .inr ⟨e, fun _ w => ⟨w, rfl⟩⟩
  | ok l => exact .inl fun _ _ => ⟨_, _, rfl⟩

theorem asLink_settled
    {make : Handler Builtin → Build (World Q) (RouterError LinkError) (Handler Builtin)}
    (hm : Settled make) : Settled fun next => asLink (make next) := by
  obtain hs | ⟨err, hf⟩ := hm
  · refine .inl fun next w => ?_
    obtain ⟨h, w', ho⟩ := hs next w
    exact ⟨h, w', by simp only [asLink, ho]⟩
  · refine .inr ⟨.branching err, fun next w => ?_⟩
    obtain ⟨w', he⟩ := hf next w
    exact ⟨w', by simp only [asLink, he]⟩

theorem makeLinks_settled {factory : LinkFactory Q Builtin δ ε} {links : List (String × δ)}
    (hf : ∀ e ∈ links, Settled (factory e.1 e.2)) : Settled (makeLinks factory links) := by
  induction links with
  | nil => exact .inl fun next w => ⟨next, w, rfl⟩
  | cons e rest ih =>
    obtain ⟨hfirst, hrest⟩ := List.forall_mem_cons.mp hf
    obtain hs | ⟨err, hr⟩ := ih hrest
    · obtain hl | ⟨err, hl⟩ := hfirst
      · refine .inl fun next w => ?_
        obtain ⟨inner, v, hi⟩ := hs next w
        obtain ⟨h, w', ho⟩ := hl inner v
        exact ⟨h, w', by simp only [makeLinks, hi, ho]⟩
      · refine .inr ⟨.link e.1 err, fun next w => ?_⟩
        obtain ⟨inner, v, hi⟩ := hs next w
        obtain ⟨w', he⟩ := hl inner v
        exact ⟨w', by simp only [makeLinks, hi, he]⟩
    · refine .inr ⟨err, fun next w => ?_⟩
      obtain ⟨w', he⟩ := hr next w
      exact ⟨w', by simp only [makeLinks, he]⟩

theorem buildChain_settled {members : δ → Option (List String)}
    {factory : LinkFactory Q Builtin δ ε} {table : List (String × δ)}
    (hf : ∀ e ∈ table, Settled (factory e.1 e.2)) :
    Settled (buildChain members factory table names) := by
  cases hr : resolve members table names with
  | error e => exact .inr ⟨.unresolved e, fun _ w => ⟨w, by simp only [buildChain, hr]⟩⟩
  | ok links =>
    have hlinks : Settled (makeLinks factory links) :=
      makeLinks_settled fun e he => hf e (mem_of_lookup (resolve_ok hr he).2.1)
    have hbuild : buildChain members factory table names = makeLinks factory links := by
      funext next w
      simp only [buildChain, hr]
    rwa [hbuild]

theorem makeRouter_settled {members : δ → Option (List String)}
    {factory : LinkFactory Q Builtin δ ε} {spec : BranchSpec δ}
    (hf : ∀ e ∈ spec.middlewares, Settled (factory e.1 e.2)) :
    Settled (makeRouter members factory name spec) := by
  cases hp : Predicate.compile spec.condition with
  | error e =>
    exact .inr ⟨.compile name spec.condition e, fun _ w => ⟨w, by simp only [makeRouter, hp]⟩⟩
  | ok p =>
    have hchain : Settled (buildChain members factory spec.middlewares spec.order) :=
      buildChain_settled hf
    obtain hs | ⟨err, hb⟩ := hchain
    · refine .inl fun next w => ?_
      obtain ⟨branch, v, ho⟩ := hs next w
      exact ⟨_, _, by simp only [makeRouter, hp, ho]; rfl⟩
    · refine .inr ⟨.chain name err, fun next w => ?_⟩
      obtain ⟨w', he⟩ := hb next w
      exact ⟨w', by simp only [makeRouter, hp, he]⟩

section
variable [Amount Q]

theorem makeRateLimit_settled (name : String) (settings : Settings) :
    Settled (makeRateLimit (Q := Q) name settings) := by
  cases hc : checkLimits settings with
  | error e => exact .inr ⟨e, fun _ w => ⟨w, by simp only [makeRateLimit, hc]⟩⟩
  | ok limits => exact .inl fun _ _ => ⟨_, _, by simp only [makeRateLimit, hc]; rfl⟩

theorem makeLink_settled (d : Descriptor) : ∀ name, Settled (makeLink (Q := Q) name d) := by
  -- only a branch makes a router of its own, from a table of smaller descriptors
  induction d using Descriptor.nested with
  | step d ih =>
    intro name
    cases d with
    | rateLimit settings => exact makeRateLimit_settled name settings
    | chain => exact .inr ⟨.unsupported .chain, fun _ w => ⟨w, rfl⟩⟩
    | branching spec =>
      rw [funext (makeLink_branching name spec)]
      exact asLink_settled (makeRouter_settled fun e he => ih spec rfl e he e.1)
    | _ => exact linkChecked_settled _

def Branch.make (b : Branch) :
    Handler Builtin → Build (World Q) (RouterError LinkError) (Handler Builtin) :=
  makeRouter Descriptor.members? makeLink b.name b.spec

theorem Branch.make_settled (b : Branch) : Settled (b.make (Q := Q)) :=
  makeRouter_settled fun e _ => makeLink_settled e.2 e.1

theorem stackBranches_cons (b : Branch) (rest : List Branch) (next : Handler Builtin)
    (w : World Q) : stackBranches makeLink (b :: rest) next w =
      match stackBranches makeLink rest next w with
      | (.error e, w) => (.error e, w)
      | (.ok inner, w) => b.make inner w := by
  rw [stackBranches]
  cases stackBranches makeLink rest next w with
  | mk result w => cases result <;> rfl

/-- Where a stack cannot be made, the branches behind one of them have been made, and that one
cannot be made in front of them. -/
theorem stackBranches_split {branches : List Branch} {w : World Q}
    (he : stackBranches makeLink branches next w = (.error err, w')) :
    ∃ front b back inner v, branches = front ++ b :: back ∧
      stackBranches makeLink back next w = (.ok inner, v) ∧
      b.make inner v = (.error err, w') := by
  induction branches with
  | nil => cases he
  | cons b rest ih =>
    rw [stackBranches_cons] at he
    split at he
    · rename_i hr
      cases he
      obtain ⟨front, b', back, inner, v, rfl, hback, hb'⟩ := ih hr
      exact ⟨b :: front, b', back, inner, v, rfl, hback, hb'⟩
    · rename_i inner v hr
      exact ⟨[], b, rest, inner, v, rfl, hr, he⟩

theorem stackBranches_made {branches : List Branch} {w : World Q}
    (ho : stackBranches makeLink branches next w = (.ok h, w')) :
    ∀ b ∈ branches, Succeeds (b.make (Q := Q)) := by
  induction branches generalizing h w' with
  | nil => nofun
  | cons b rest ih =>
    rw [stackBranches_cons] at ho
    split at ho
    · cases ho
    · rename_i hr
      exact List.forall_mem_cons.mpr ⟨b.make_settled.succeeds ho, ih hr⟩

-- ---------------------------------------------------------------------------
-- What is abandoned
-- ---------------------------------------------------------------------------

mutual

/-- A link cannot be made in front of a handler. The routers that were made for it are abandoned. -/
inductive LinkAbandons :
    String → Descriptor → Handler Builtin → World Q → LinkError → List Junction → Prop
  | plain : (∀ spec, d ≠ .branching spec) → makeLink name d next w = (.error err, w') →
      LinkAbandons name d next w err []
  | branching : RouterAbandons name spec next w err js →
      LinkAbandons name (.branching spec) next w (.branching err) js

/-- A router cannot be made in front of a handler. The routers that were made for it are abandoned:
those of the links to the right of the one that failed, and those that this one abandons. -/
inductive RouterAbandons : String → BranchSpec Descriptor → Handler Builtin → World Q →
    RouterError LinkError → List Junction → Prop
  | condition : Predicate.compile spec.condition = .error err →
      RouterAbandons name spec next w (.compile name spec.condition err) []
  | names : Predicate.compile spec.condition = .ok p →
      resolve Descriptor.members? spec.middlewares spec.order = .error err →
      RouterAbandons name spec next w (.chain name (.unresolved err)) []
  | link : Predicate.compile spec.condition = .ok p →
      resolve Descriptor.members? spec.middlewares spec.order = .ok (left ++ (n, d) :: right) →
      makeLinks makeLink right next w = (.ok h, v) → Creates next h js →
      LinkAbandons n d h v err js' →
      RouterAbandons name spec next w (.chain name (.link n err)) (js ++ js')

end

/-- What cannot be made, and is no router, does nothing. -/
theorem makeLink_unchanged {w : World Q} (hd : ∀ spec, d ≠ .branching spec)
    (he : makeLink name d next w = (.error err, w')) : w' = w := by
  have hchecked : ∀ check, linkChecked check next w = (.error err, w') → w' = w := by
    intro check he
    unfold linkChecked at he
    split at he
    · cases he
      rfl
    · cases he
  cases d with
  | branching spec => exact absurd rfl (hd spec)
  | rateLimit settings =>
    replace he : makeRateLimit name settings next w = (.error err, w') := he
    unfold makeRateLimit at he
    split at he
    · cases he
      rfl
    · cases he
  | chain =>
    cases he
    rfl
  | _ => exact hchecked _ he

theorem makeRouter_abandons {spec : BranchSpec Descriptor} {w : World Q}
    (hf : ∀ e ∈ spec.middlewares, ∀ next (w : World Q) err w',
      makeLink e.1 e.2 next w = (.error err, w') → ∃ js,
        LinkAbandons e.1 e.2 next w err js ∧
        w'.counters = (js.map Junction.label).foldl Counters.registerRouter w.counters)
    (he : makeRouter Descriptor.members? makeLink name spec next w = (.error err, w')) : ∃ js,
      RouterAbandons name spec next w err js ∧
      w'.counters = (js.map Junction.label).foldl Counters.registerRouter w.counters := by
  unfold makeRouter at he
  split at he
  · rename_i hp
    cases he
    exact ⟨[], .condition hp, rfl⟩
  · rename_i p hp
    split at he
    · rename_i hb
      cases he
      unfold buildChain at hb
      split at hb
      · rename_i hr
        cases hb
        exact ⟨[], .names hp hr, rfl⟩
      · rename_i links hr
        obtain ⟨left, n, d, right, inner, v, err', rfl, hright, hd, rfl⟩ := makeLinks_split hb
        have hmem : (n, d) ∈ spec.middlewares :=
          mem_of_lookup (resolve_ok hr (List.mem_append_right left List.mem_cons_self)).2.1
        obtain ⟨js, hc, hn, hv⟩ :=
          makeLinks_registers (fun e _ => makeLink_registers e.2 e.1) _ _ _ _ hright
        obtain ⟨js', ha, hw⟩ := hf (n, d) hmem _ _ _ _ hd
        exact ⟨js ++ js', .link hp hr hright hc ha, by simp [hw, hv, hn]⟩
    · cases he

theorem makeLink_abandons (d : Descriptor) : ∀ name next (w : World Q) err w',
    makeLink name d next w = (.error err, w') → ∃ js, LinkAbandons name d next w err js ∧
      w'.counters = (js.map Junction.label).foldl Counters.registerRouter w.counters := by
  induction d using Descriptor.nested with
  | step d ih =>
    intro name next w err w' he
    by_cases hd : ∃ spec, d = .branching spec
    · obtain ⟨spec, rfl⟩ := hd
      rw [makeLink_branching] at he
      unfold asLink at he
      split at he
      · rename_i hb
        cases he
        obtain ⟨js, ha, hw⟩ := makeRouter_abandons (fun e hm => ih spec rfl e hm e.1) hb
        exact ⟨js, .branching ha, hw⟩
      · cases he
    · rw [not_exists] at hd
      rw [makeLink_unchanged hd he]
      exact ⟨[], .plain hd he, rfl⟩

end

-- ---------------------------------------------------------------------------
-- Stacks
-- ---------------------------------------------------------------------------

section
variable [Amount Q]

/-- A stack cannot be made exactly if one of its branches cannot be made alone. Then the counters
that it has taken into use, all at zero, are those of the routers behind that branch and of those
that the branch abandons. -/
theorem stackBranches_blames (branches : List Branch) (next : Handler Builtin) (w : World Q) :
    ((∃ err w', stackBranches makeLink branches next w = (.error err, w')) ↔
      ∃ b ∈ branches, ∃ next' err, ∃ v v' : World Q, b.make next' v = (.error err, v')) ∧
    ∀ err w', stackBranches makeLink branches next w = (.error err, w') →
      ∃ front b back h v js js', branches = front ++ b :: back ∧
        -- The last branch that cannot be made is to blame, with an error of its own.
        (∀ b' ∈ back, Succeeds (b'.make (Q := Q))) ∧ FailsWith (b.make (Q := Q)) err ∧
        -- It is tried after the branches behind it, and nothing is made after that.
        stackBranches makeLink back next w = (.ok h, v) ∧ b.make h v = (.error err, w') ∧
        -- The routers of those are in use, and the ones that it abandons.
        Creates next h js ∧ js.map Junction.label = stackRouters back ∧
        RouterAbandons b.name b.spec h v err js' ∧
        ∀ c n, w'.counters.lookup c = some n ↔ w.counters.lookup c = some n ∨
          w.counters.lookup c = none ∧ n = 0 ∧
            ∃ j ∈ js ++ js', ∃ outcome, c = .decision j.label outcome := by
  refine ⟨⟨?_, ?_⟩, fun err w' he => ?_⟩
  · rintro ⟨err, w', he⟩
    obtain ⟨front, b, back, h, v, rfl, -, hb⟩ := stackBranches_split he
    exact ⟨b, by simp, h, err, v, w', hb⟩
  · rintro ⟨b, hm, next', err, v, v', hb⟩
    cases hs : stackBranches makeLink branches next w with
    | mk result w' =>
      cases result with
      | error err => exact ⟨err, w', rfl⟩
      | ok h => exact absurd hb (stackBranches_made hs b hm).not_error
  · obtain ⟨front, b, back, h, v, rfl, hback, hb⟩ := stackBranches_split he
    obtain ⟨js, hc, hn, hv⟩ := stackBranches_registers _ _ _ _ _ hback
    obtain ⟨js', ha, hw⟩ := makeRouter_abandons (fun e _ => makeLink_abandons e.2 e.1) hb
    refine ⟨front, b, back, h, v, js, js', rfl, stackBranches_made hback,
      b.make_settled.failsWith hb, hback, hb, hc, hn, ha, fun c n => ?_⟩
    rw [hw, hv, ← hn, ← List.foldl_append, ← List.map_append, Counters.lookup_registered]
    simp only [List.mem_map, exists_exists_and_eq_and]

end

/-- The branch "b" has, in a table inside a table, a prefix without a slash. To the right of it in
those tables, and behind the branch, stand routers that can be made. -/
def unslashed : List Branch :=
  let always : Table → BranchSpec Descriptor := fun table => ⟨"true", none, table⟩
  let nested := always [("bad", .addPrefix "v1"), ("kept", .branching (always []))]
  let outer := always [("nested", .branching nested), ("last", .branching (always []))]
  [⟨"a", always []⟩, ⟨"b", outer⟩, ⟨"c", always []⟩]

theorem stackBranches_blames_unslashed : ∃ err w',
    stackBranches makeLink unslashed .terminal ({} : World Float) = (.error err, w') ∧
      (∃ b ∈ unslashed, FailsWith (b.make (Q := Float)) err) ∧
      w'.counters = ["c", "last", "kept"].flatMap fun name =>
        Outcome.all.map fun outcome => (.decision name outcome, 0) := by
  have hcounters : (stackBranches makeLink unslashed .terminal ({} : World Float)).2.counters =
      ["c", "last", "kept"].flatMap fun name =>
        Outcome.all.map fun outcome => (.decision name outcome, 0) := by cbv
  have hrefused :
      (stackBranches makeLink unslashed .terminal ({} : World Float)).1.isOk = false := by cbv
  rcases hs : stackBranches makeLink unslashed .terminal ({} : World Float) with ⟨err | h, w'⟩
  · rw [hs] at hcounters
    obtain ⟨front, b, back, -, -, -, -, hb, -, hfails, -⟩ :=
      (stackBranches_blames unslashed .terminal ({} : World Float)).2 err w' hs
    exact ⟨err, w', rfl, ⟨b, by simp [hb], hfails⟩, hcounters⟩
  · rw [hs] at hrefused
    cases hrefused

end ConditionalGateway.Pipeline
