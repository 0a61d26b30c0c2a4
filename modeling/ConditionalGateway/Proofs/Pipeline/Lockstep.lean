import ConditionalGateway.Proofs.Pipeline.Construction
import ConditionalGateway.Proofs.Pipeline.CounterLaws

/-!
# Construction in two worlds

Links are checked by their descriptors alone. So what can be made in front of
one handler can be made in front of any other, in any world, and by the same
steps (`Lockstep`): the two results differ in what they were made in front of
and in the numbers of the limiters that were made on the way.
-/

namespace ConditionalGateway.Pipeline

open RateLimit

variable {Q : Type}

def Builtin.slot? : Builtin → Option Nat
  | .rateLimit _ _ slot => some slot
  | _ => none

/-- A handler, and the world that it was made in. -/
abbrev Made (Q : Type) : Type := Handler Builtin × World Q

section
variable [Amount Q]

/-- The same steps lead from one handler to a second one, and from another to a fourth. -/
inductive Lockstep : Made Q → Made Q → Made Q → Made Q → Prop
  | refl (x y : Made Q) : Lockstep x y x y
  | link : l.slot? = none → Lockstep x y (f, v) (g, u) →
      Lockstep x y (.link l f, v) (.link l g, u)
  | limiter (name : String) (limits : Limits) : Lockstep x y (f, v) (g, u) →
      Lockstep x y (.link (.rateLimit name limits v.limiters.length) f, (v.addLimiter limits).2)
        (.link (.rateLimit name limits u.limiters.length) g, (u.addLimiter limits).2)
  | router (rt : Router) : Lockstep x y (f, v) (g, u) → Lockstep (f, v) (g, u) (b, v') (c, u') →
      Lockstep x y
        (.router rt b f, { v' with counters := v'.counters.registerRouter rt.name })
        (.router rt c g, { u' with counters := u'.counters.registerRouter rt.name })

theorem Lockstep.trans {x y p q s t : Made Q} (h : Lockstep x y p q) (h' : Lockstep p q s t) :
    Lockstep x y s t := by
  induction h' with
  | refl => exact h
  | link hl _ ih => exact .link hl (ih h)
  | limiter name limits _ ih => exact .limiter name limits (ih h)
  | router rt _ hb ih _ => exact .router rt (ih h) hb

/-- What can be made in front of one handler can be made by the same steps in front of another. -/
def InStep (make : Handler Builtin → Build (World Q) ε (Handler Builtin)) : Prop :=
  ∀ f w h v, make f w = (.ok h, v) → ∀ g u, ∃ h' u', make g u = (.ok h', u') ∧
    Lockstep (f, w) (g, u) (h, v) (h', u')

-- ---------------------------------------------------------------------------
-- Links
-- ---------------------------------------------------------------------------

theorem linkChecked_inStep (hc : ∀ l, check = .ok l → l.slot? = none) :
    InStep (linkChecked (Q := Q) check) := by
  intro f w h v hm g u
  cases check with
  | error e => cases hm
  | ok l =>
    cases hm
    exact ⟨_, _, rfl, .link (hc l rfl) (.refl _ _)⟩

theorem checkHeaders_slot (h : checkHeaders request response = .ok l) : l.slot? = none := by
  obtain ⟨_, -, h⟩ := bind_eq_ok.mp h
  obtain ⟨_, -, h⟩ := bind_eq_ok.mp h
  cases h
  rfl

theorem checkStrip_slot (h : checkStrip prefixes = .ok l) : l.slot? = none := by
  unfold checkStrip at h
  split at h
  · cases h
  · obtain ⟨_, -, h⟩ := bind_eq_ok.mp h
    cases h
    rfl

theorem checkAdd_slot (h : checkAdd pre = .ok l) : l.slot? = none := by
  obtain ⟨_, -, h⟩ := bind_eq_ok.mp h
  cases h
  rfl

theorem checkReplace_slot (h : checkReplace path = .ok l) : l.slot? = none := by
  obtain ⟨_, -, h⟩ := bind_eq_ok.mp h
  split at h
  · cases h
    rfl
  · cases h

theorem makeRateLimit_inStep (name : String) (settings : Settings) :
    InStep (makeRateLimit (Q := Q) name settings) := by
  intro f w h v hm g u
  unfold makeRateLimit at hm ⊢
  cases hc : checkLimits settings with
  | error e =>
    rw [hc] at hm
    cases hm
  | ok limits =>
    rw [hc] at hm
    cases hm
    exact ⟨_, _, rfl, .limiter name limits (.refl _ _)⟩

theorem asLink_inStep
    {make : Handler Builtin → Build (World Q) (RouterError LinkError) (Handler Builtin)}
    (hm : InStep make) : InStep fun next => asLink (make next) := by
  intro f w h v ha g u
  simp only [asLink] at ha
  split at ha
  · cases ha
  · rename_i h' v' hb
    cases ha
    obtain ⟨h', u', hb', hs⟩ := hm f w h v hb g u
    exact ⟨h', u', by simp [asLink, hb'], hs⟩

-- ---------------------------------------------------------------------------
-- Chains and routers
-- ---------------------------------------------------------------------------

theorem makeLinks_inStep {factory : LinkFactory Q Builtin δ ε} {links : List (String × δ)}
    (hf : ∀ e ∈ links, InStep (factory e.1 e.2)) : InStep (makeLinks factory links) := by
  intro f w h v hm g u
  induction links generalizing h v with
  | nil =>
    cases hm
    exact ⟨g, u, rfl, .refl _ _⟩
  | cons e rest ih =>
    obtain ⟨name, d⟩ := e
    unfold makeLinks at hm
    split at hm
    · cases hm
    · rename_i inner v' hr
      split at hm
      · cases hm
      · rename_i h' v'' hl
        cases hm
        obtain ⟨inner', u', hr', hs⟩ :=
          ih (fun e he => hf e (List.mem_cons_of_mem _ he)) inner v' hr
        obtain ⟨h', u'', hl', hs'⟩ := hf (name, d) List.mem_cons_self inner v' h v hl inner' u'
        exact ⟨h', u'', by simp [makeLinks, hr', hl'], hs.trans hs'⟩

theorem buildChain_inStep {members : δ → Option (List String)}
    {factory : LinkFactory Q Builtin δ ε} {table : List (String × δ)}
    (hf : ∀ e ∈ table, InStep (factory e.1 e.2)) :
    InStep (buildChain members factory table names) := by
  intro f w h v hm g u
  unfold buildChain at hm ⊢
  cases hr : resolve members table names with
  | error e =>
    rw [hr] at hm
    cases hm
  | ok links =>
    rw [hr] at hm
    exact makeLinks_inStep (fun e he => hf e (mem_of_lookup (resolve_ok hr he).2.1)) f w h v hm g u

theorem makeRouter_inStep {members : δ → Option (List String)}
    {factory : LinkFactory Q Builtin δ ε} {spec : BranchSpec δ}
    (hf : ∀ e ∈ spec.middlewares, InStep (factory e.1 e.2)) :
    InStep (makeRouter members factory name spec) := by
  intro f w h v hm g u
  unfold makeRouter at hm ⊢
  cases hp : Predicate.compile spec.condition with
  | error e =>
    rw [hp] at hm
    cases hm
  | ok p =>
    simp only [hp] at hm
    split at hm
    · cases hm
    · rename_i b v' hb
      cases hm
      obtain ⟨b', u', hb', hs⟩ := buildChain_inStep hf f w b v' hb g u
      exact ⟨_, _, by simp only [hb'], .router ⟨name, p⟩ (.refl _ _) hs⟩

theorem makeLink_inStep (d : Descriptor) : ∀ name, InStep (makeLink (Q := Q) name d) := by
  -- only a branch makes a router of its own, from a table of smaller descriptors
  induction d using Descriptor.nested with
  | step d ih =>
    intro name
    cases d with
    | headers => exact linkChecked_inStep fun _ => checkHeaders_slot
    | stripPrefix => exact linkChecked_inStep fun _ => checkStrip_slot
    | addPrefix => exact linkChecked_inStep fun _ => checkAdd_slot
    | replacePath => exact linkChecked_inStep fun _ => checkReplace_slot
    | rateLimit settings => exact makeRateLimit_inStep name settings
    | chain =>
      intro f w h v hm
      cases hm
    | branching spec =>
      rw [funext (makeLink_branching name spec)]
      exact asLink_inStep (makeRouter_inStep fun e he => ih spec rfl e he e.1)

theorem stackBranches_inStep (branches : List Branch) :
    InStep (stackBranches (makeLink (Q := Q)) branches) := by
  intro f w h v hm g u
  induction branches generalizing h v with
  | nil =>
    cases hm
    exact ⟨g, u, rfl, .refl _ _⟩
  | cons b rest ih =>
    unfold stackBranches at hm
    split at hm
    · cases hm
    · rename_i inner v' hr
      obtain ⟨inner', u', hr', hs⟩ := ih inner v' hr
      obtain ⟨h', u'', hb, hs'⟩ :=
        makeRouter_inStep (fun e _ => makeLink_inStep e.2 e.1) inner v' h v hm inner' u'
      exact ⟨h', u'', by simp only [stackBranches, hr', hb], hs.trans hs'⟩

end

theorem stackBranches_append_ok {factory : LinkFactory Q α Descriptor ε}
    {front back : List Branch} :
    stackBranches factory (front ++ back) next w = (.ok h, v) ↔ ∃ inner u,
      stackBranches factory back next w = (.ok inner, u) ∧
      stackBranches factory front inner u = (.ok h, v) := by
  induction front generalizing h v with
  | nil =>
    constructor
    · exact fun hs => ⟨h, v, hs, rfl⟩
    · rintro ⟨inner, u, hs, hf⟩
      cases hf
      exact hs
  | cons b front ih =>
    constructor
    · intro hs
      rw [List.cons_append, stackBranches] at hs
      split at hs
      · cases hs
      · rename_i h' v' hr
        obtain ⟨inner, u, hb, hf⟩ := ih.mp hr
        exact ⟨inner, u, hb, by rw [stackBranches, hf]; exact hs⟩
    · rintro ⟨inner, u, hb, hf⟩
      rw [stackBranches] at hf
      split at hf
      · cases hf
      · rename_i h' v' hr
        rw [List.cons_append, stackBranches, ih.mpr ⟨inner, u, hb, hr⟩]
        exact hf

theorem makeRouter_ok {factory : LinkFactory Q α δ ε} {spec : BranchSpec δ}
    (h : makeRouter members factory name spec next w = (.ok handler, v)) : ∃ p branch,
      Predicate.compile spec.condition = .ok p ∧ handler = .router ⟨name, p⟩ branch next := by
  unfold makeRouter at h
  split at h
  · cases h
  · rename_i p hp
    split at h
    · cases h
    · rename_i branch _ _
      cases h
      exact ⟨p, branch, hp, rfl⟩

-- ---------------------------------------------------------------------------
-- What construction leaves alone
-- ---------------------------------------------------------------------------

/-- Limiters were made, and nothing else happened that counts. -/
structure Grows (w v : World Q) : Prop where
  now : v.now = w.now
  delivered : v.delivered = w.delivered
  limiters : w.limiters <+: v.limiters
  counts : ∀ c, v.counters.count c = w.counters.count c

theorem Grows.refl (w : World Q) : Grows w w := ⟨rfl, rfl, List.prefix_rfl, fun _ => rfl⟩

theorem Grows.trans (h : Grows w v) (h' : Grows v u) : Grows w u :=
  ⟨h'.now.trans h.now, h'.delivered.trans h.delivered, h.limiters.trans h'.limiters,
    fun c => (h'.counts c).trans (h.counts c)⟩

theorem count_registerRouter (cs : Counters) (name : String) (c : Counter) :
    (cs.registerRouter name).count c = cs.count c := by
  simp [Counters.registerRouter, Outcome.all, Counters.count_register]

def Handler.Fits (n : Nat) : Handler Builtin → Prop
  | .terminal => True
  | .link l next => (∀ slot, l.slot? = some slot → slot < n) ∧ next.Fits n
  | .router _ branch next => branch.Fits n ∧ next.Fits n

theorem Handler.Fits.mono (hnm : n ≤ m) {h : Handler Builtin} (hf : h.Fits n) : h.Fits m := by
  induction h with
  | terminal => trivial
  | link l next ih => exact ⟨fun slot hs => (hf.1 slot hs).trans_le hnm, ih hf.2⟩
  | router rt branch next ihb ihn => exact ⟨ihb hf.1, ihn hf.2⟩

variable [Amount Q]

theorem Lockstep.grows {x y p q : Made Q} (h : Lockstep x y p q) : Grows x.2 p.2 := by
  induction h with
  | refl => exact .refl _
  | link _ _ ih => exact ih
  | limiter name limits _ ih => exact ih.trans ⟨rfl, rfl, List.prefix_append _ _, fun _ => rfl⟩
  | router rt _ _ ih ih' =>
    exact (ih.trans ih').trans ⟨rfl, rfl, List.prefix_rfl, count_registerRouter _ rt.name⟩

theorem Lockstep.fits {x y p q : Made Q} (h : Lockstep x y p q)
    (hx : x.1.Fits x.2.limiters.length) : p.1.Fits p.2.limiters.length := by
  induction h with
  | refl => exact hx
  | link hl _ ih => exact ⟨fun slot hs => (nomatch hl.symm.trans hs), ih hx⟩
  | @limiter x y f v g u name limits _ ih =>
    have hlen : (v.addLimiter limits).2.limiters.length = v.limiters.length + 1 := by
      simp [World.addLimiter]
    rw [hlen]
    refine ⟨fun slot hs => ?_, (ih hx).mono (Nat.le_succ _)⟩
    cases hs
    exact Nat.lt_succ_self _
  | router rt _ hb ih ih' => exact ⟨ih' (ih hx), (ih hx).mono hb.grows.limiters.length_le⟩

end ConditionalGateway.Pipeline
