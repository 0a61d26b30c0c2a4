import ConditionalGateway.Pipeline.Factory
import ConditionalGateway.Proofs.ExceptLaws
import ConditionalGateway.Proofs.Pipeline.Resolution

/-!
# Why routers cannot be made

What goes wrong when a router is made from a condition that compiles and names
that all have a descriptor: a cycle, too many links, or a value that a link
refuses (`RouterError.Residual`). Routers lie in the tables of other routers, so
`makeRouter_residual` asks the same of the descriptors in its table.
-/

namespace ConditionalGateway.Pipeline

open Http RateLimit

mutual

/-- Why a link cannot be made, other than for its kind or for a router of its own that has a bad
condition or a name for nothing. -/
inductive LinkError.Residual : LinkError → Prop
  | header (name : String) (problem : HeaderProblem) :
      LinkError.Residual (.invalidHeader name problem)
  | path (path : String) (problem : PathProblem) : LinkError.Residual (.invalidPath path problem)
  | rate (problem : RateProblem) : LinkError.Residual (.invalidRate problem)
  | branching : RouterError.Residual e → LinkError.Residual (.branching e)

/-- Why a router cannot be made, other than for a bad condition or a name for nothing. -/
inductive RouterError.Residual : RouterError LinkError → Prop
  | cycle (router : String) (path : List String) :
      RouterError.Residual (.chain router (.unresolved (.cycle path)))
  | tooLong (router : String) (limit : Nat) :
      RouterError.Residual (.chain router (.unresolved (.tooLong limit)))
  | link (router name : String) :
      LinkError.Residual e → RouterError.Residual (.chain router (.link name e))

end

-- ---------------------------------------------------------------------------
-- Links
-- ---------------------------------------------------------------------------

theorem HeaderRule.ofEntry_error (h : ofEntry entry = .error e) : e.Residual := by
  unfold ofEntry at h
  split at h
  · cases h
    exact .header _ _
  · split at h
    · cases h
    · split at h
      · cases h
        exact .header _ _
      · cases h

theorem checkHeaders_error (h : checkHeaders request response = .error e) : e.Residual := by
  obtain h | ⟨_, -, h⟩ := bind_eq_error.mp h
  · obtain ⟨_, -, h⟩ := mapM_eq_error h
    exact HeaderRule.ofEntry_error h
  · obtain h | ⟨_, -, h⟩ := bind_eq_error.mp h
    · obtain ⟨_, -, h⟩ := mapM_eq_error h
      exact HeaderRule.ofEntry_error h
    · cases h

theorem checkRooted_error (h : checkRooted path = .error e) : e.Residual := by
  unfold checkRooted at h
  split at h
  · cases h
  · cases h
    exact .path _ _

theorem checkStrip_error (h : checkStrip prefixes = .error e) : e.Residual := by
  unfold checkStrip at h
  split at h
  · cases h
    exact .path _ _
  · obtain h | ⟨_, -, h⟩ := bind_eq_error.mp h
    · obtain ⟨_, -, h⟩ := forM_eq_error h
      exact checkRooted_error h
    · cases h

theorem checkAdd_error (h : checkAdd pre = .error e) : e.Residual := by
  obtain h | ⟨_, -, h⟩ := bind_eq_error.mp h
  · exact checkRooted_error h
  · cases h

theorem checkReplace_error (h : checkReplace path = .error e) : e.Residual := by
  obtain h | ⟨_, -, h⟩ := bind_eq_error.mp h
  · exact checkRooted_error h
  · split at h
    · cases h
    · cases h
      exact .path _ _

theorem checkLimits_error (h : checkLimits settings = .error e) : e.Residual := by
  unfold checkLimits at h
  split at h
  · cases h
  · cases h
    exact .rate _
  · cases h
    exact .rate _
  · cases h
    exact .header _ _

/-- A construction fails for reasons of one kind only. -/
def FailsOnly (R : ε → Prop) (build : Build σ ε H) : Prop :=
  ∀ s e s', build s = (.error e, s') → R e

section
variable {Q : Type}

theorem linkChecked_residual (hc : ∀ e, check = .error e → e.Residual) :
    FailsOnly LinkError.Residual (linkChecked (Q := Q) check next) := by
  intro w e w' h
  unfold linkChecked at h
  split at h
  · cases h
    exact hc _ rfl
  · cases h

theorem asLink_residual {build : Build (World Q) (RouterError LinkError) (Handler Builtin)}
    (hb : FailsOnly RouterError.Residual build) : FailsOnly LinkError.Residual (asLink build) := by
  intro w e w' h
  unfold asLink at h
  split at h
  · rename_i he
    cases h
    exact .branching (hb _ _ _ he)
  · cases h

variable [Amount Q]

theorem makeRateLimit_residual :
    FailsOnly LinkError.Residual (makeRateLimit (Q := Q) name settings next) := by
  intro w e w' h
  unfold makeRateLimit at h
  split at h
  · rename_i hc
    cases h
    exact checkLimits_error hc
  · cases h

theorem makeLink_plain (hd : d.members? = none) (hb : ∀ spec, d ≠ .branching spec) :
    FailsOnly LinkError.Residual (makeLink (Q := Q) name d next) := by
  cases d with
  | headers => exact linkChecked_residual fun _ => checkHeaders_error
  | stripPrefix => exact linkChecked_residual fun _ => checkStrip_error
  | addPrefix => exact linkChecked_residual fun _ => checkAdd_error
  | replacePath => exact linkChecked_residual fun _ => checkReplace_error
  | rateLimit => exact makeRateLimit_residual
  | chain => cases hd
  | branching spec => exact absurd rfl (hb spec)

end

-- ---------------------------------------------------------------------------
-- Routers
-- ---------------------------------------------------------------------------

/-- What holds of a descriptor whenever it holds of all in its table, holds of every descriptor. -/
theorem Descriptor.nested {P : Descriptor → Prop}
    (step : ∀ d, (∀ spec, d = .branching spec → ∀ e ∈ spec.middlewares, P e.2) → P d)
    (d : Descriptor) : P d := by
  apply step
  rintro ⟨condition, chain, middlewares⟩ hd ⟨name, inner⟩ he
  have hlt := List.sizeOf_lt_of_mem he
  exact nested step inner
termination_by sizeOf d
decreasing_by
  subst hd
  simp only [Descriptor.branching.sizeOf_spec, BranchSpec.mk.sizeOf_spec, Prod.mk.sizeOf_spec]
    at hlt ⊢
  omega

/-- A router whose condition compiles and whose names all have a descriptor fails where one of its
links does. -/
theorem makeRouter_residual {members : δ → Option (List String)}
    {factory : LinkFactory Q α δ LinkError} {spec : BranchSpec δ}
    (hc : ∃ p, Predicate.compile spec.condition = .ok p)
    (hn : ∀ n, Reaches members spec.middlewares spec.order n →
      (spec.middlewares.lookup n).isSome = true)
    (hf : ∀ e ∈ spec.middlewares, members e.2 = none →
      ∀ next, FailsOnly LinkError.Residual (factory e.1 e.2 next)) :
    FailsOnly RouterError.Residual (makeRouter members factory name spec next) := by
  intro w err w' h
  obtain ⟨p, hp⟩ := hc
  simp only [makeRouter, hp] at h
  split at h
  · rename_i e _ hb
    cases h
    obtain ⟨e', hr, rfl⟩ | ⟨n, d, err', next', t, t', -, hl, hd, hm, rfl⟩ := buildChain_error hb
    · obtain ⟨path, rfl⟩ | rfl | ⟨m, ms, rfl, hm, hl⟩ := resolve_error hr
      · exact .cycle _ _
      · exact .tooLong _ _
      · have hs := hn m hm
        simp [hl] at hs
    · exact .link _ _ (hf (n, d) (mem_of_lookup hl) hd _ _ _ _ hm)
  · cases h

theorem stackBranches_residual {factory : LinkFactory Q α Descriptor ε} {branches : List Branch}
    (hb : ∀ b ∈ branches, ∀ inner,
      FailsOnly R (makeRouter Descriptor.members? factory b.name b.spec inner)) :
    FailsOnly R (stackBranches factory branches next) := by
  intro w err w' h
  induction branches generalizing err w' with
  | nil => cases h
  | cons b rest ih =>
    unfold stackBranches at h
    split at h
    · rename_i hr
      cases h
      exact ih (fun b' hm => hb b' (List.mem_cons_of_mem _ hm)) _ _ hr
    · exact hb b List.mem_cons_self _ _ _ _ h

end ConditionalGateway.Pipeline
