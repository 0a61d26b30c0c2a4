import ConditionalGateway.Proofs.Pipeline.Delivery
import ConditionalGateway.Proofs.Pipeline.Lockstep

/-!
# A router that never branches is transparent

`stackBranches_without`: take a branch out of a stack, and run both stacks on the
same calls. As long as the condition of that branch holds for no request that
reaches its router, nothing tells the two apart but the counts of that router.

Without the branch, limiters that were made later have lower numbers, so worlds
are compared up to a move of numbers (`Alike`) and handlers up to the same move
and up to the router (`Bypasses`).
-/

namespace ConditionalGateway.Pipeline

open Http RateLimit

variable {Q : Type}

-- ---------------------------------------------------------------------------
-- What is seen of calls
-- ---------------------------------------------------------------------------

/-- The handlers that a call comes to, each with the request that it is called with. The first is
the handler that is called; the others are parts of it. -/
def Handler.visits {α : Type} [Link Q α] :
    Handler α → Request → World Q → List (Handler α × Request)
  | .terminal, r, _ => [(.terminal, r)]
  | .link l next, r, w =>
    (.link l next, r) ::
      match Link.receive l r w with
      | (.answer _, _) => []
      | (.pass r _, w) => next.visits r w
  | .router rt branch next, r, w =>
    (.router rt branch next, r) ::
      match rt.decide r w with
      | (.branch, w) => branch.visits r w
      | (_, w) => next.visits r w

open scoped Classical in
noncomputable def arrivals (part : Handler Builtin) (visits : List (Handler Builtin × Request)) :
    List Request :=
  visits.filterMap fun v => if v.1 = part then some v.2 else none

def Router.counter (rt : Router) (r : Request) : Counter :=
  .decision rt.name (Decision.ofValue (rt.predicate.evaluate r)).outcome

/-- What a limiter said about a request. -/
structure Admission where
  slot : Nat
  request : Request
  admitted : Bool

section
variable [Amount Q]

def Builtin.asked (l : Builtin) (r : Request) (w : World Q) : List Admission :=
  match l with
  | .rateLimit _ limits slot => [⟨slot, r, (w.allow limits slot r).1⟩]
  | _ => []

def Handler.admissions : Handler Builtin → Request → World Q → List Admission
  | .terminal, _, _ => []
  | .link l next, r, w =>
    l.asked r w ++
      match l.receive r w with
      | (.answer _, _) => []
      | (.pass r _, w) => next.admissions r w
  | .router rt branch next, r, w =>
    match rt.decide r w with
    | (.branch, w) => branch.admissions r w
    | (_, w) => next.admissions r w

def Handler.watch (terminal : Terminal) (h : Handler Builtin)
    (see : Request → World Q → List β) : List Event → World Q → List β
  | [], _ => []
  | .call r :: events, w => see r w ++ h.watch terminal see events (h.call terminal r w).2
  | .advance duration :: events, w => h.watch terminal see events (w.advance duration)

/-- The requests that a part of a handler is called with in a run. A router of a stack is told from
the other handlers by being itself: it is a part of those in front of it, and those behind it are
parts of it. -/
noncomputable def Handler.reaching (terminal : Terminal) (h part : Handler Builtin)
    (events : List Event) (w : World Q) : List Request :=
  arrivals part (h.watch terminal h.visits events w)

def Handler.responses (terminal : Terminal) (h : Handler Builtin) : List Event → World Q →
    List Response :=
  h.watch terminal fun r w => [(h.call terminal r w).1]

end

@[simp] theorem arrivals_append (part : Handler Builtin)
    (vs vs' : List (Handler Builtin × Request)) :
    arrivals part (vs ++ vs') = arrivals part vs ++ arrivals part vs' :=
  List.filterMap_append

@[simp] theorem arrivals_cons_self (part : Handler Builtin) (r : Request)
    (vs : List (Handler Builtin × Request)) :
    arrivals part ((part, r) :: vs) = r :: arrivals part vs := by
  simp [arrivals]

theorem arrivals_cons_ne (hne : h ≠ part) (r : Request) (vs : List (Handler Builtin × Request)) :
    arrivals part ((h, r) :: vs) = arrivals part vs := by
  simp [arrivals, hne]

-- ---------------------------------------------------------------------------
-- Worlds with limiters between others
-- ---------------------------------------------------------------------------

/-- The number of a limiter once `k` others are put behind the first `n`. -/
def moved (n k slot : Nat) : Nat := if slot < n then slot else slot + k

theorem moved_injective (h : moved n k a = moved n k b) : a = b := by
  unfold moved at h
  grind

theorem moved_lt (h : n ≤ m) : moved n k slot < m + k ↔ slot < m := by
  unfold moved
  split <;> omega

def Admission.moved (n k : Nat) (a : Admission) : Admission :=
  { a with slot := Pipeline.moved n k a.slot }

def Builtin.moved (n k : Nat) : Builtin → Builtin
  | .rateLimit name limits slot => .rateLimit name limits (Pipeline.moved n k slot)
  | l => l

theorem Builtin.moved_eq_self {l : Builtin} (h : ∀ slot, l.slot? = some slot → slot < n) :
    l.moved n k = l := by
  cases l with
  | rateLimit name limits slot => simp [moved, Pipeline.moved, h slot rfl]
  | _ => rfl

/-- The first world has `k` more limiters behind its first `n`, and counts that much more. -/
structure Alike (n k : Nat) (extra : Counter → Nat) (w v : World Q) : Prop where
  now : w.now = v.now
  delivered : w.delivered = v.delivered
  first : n ≤ v.limiters.length
  length : w.limiters.length = v.limiters.length + k
  limiters : ∀ slot, w.limiters[moved n k slot]? = v.limiters[slot]?
  counts : ∀ c, w.counters.count c = v.counters.count c + extra c

section
variable {w v : World Q} {extra : Counter → Nat}

theorem Grows.alike (h : Grows v w) : Alike v.limiters.length
    (w.limiters.length - v.limiters.length) (fun _ => 0) w v := by
  obtain ⟨more, hmore⟩ := h.limiters
  refine ⟨h.now, h.delivered, le_rfl, ?_, fun slot => ?_, h.counts⟩
  · simp [← hmore]
  · unfold moved
    split
    · rename_i hs
      rw [← hmore, List.getElem?_append_left hs]
    · rename_i hs
      rw [List.getElem?_eq_none (Nat.le_of_not_lt hs), List.getElem?_eq_none]
      simp only [← hmore, List.length_append]
      omega

theorem Alike.congr (h : Alike n k extra w v) (he : ∀ c, extra c = extra' c) :
    Alike n k extra' w v :=
  funext he ▸ h

theorem Alike.advance (h : Alike n k extra w v) (duration : Nat) :
    Alike n k extra (w.advance duration) (v.advance duration) :=
  { h with now := congrArg (· + duration) h.now }

theorem Alike.deliver (h : Alike n k extra w v) (r : Request) :
    Alike n k extra { w with delivered := w.delivered ++ [r] }
      { v with delivered := v.delivered ++ [r] } :=
  { h with delivered := congrArg (· ++ [r]) h.delivered }

theorem Alike.count (h : Alike n k extra w v) (c : Counter) :
    Alike n k extra (w.count c) (v.count c) := by
  refine { h with counts := fun c' => ?_ }
  simp only [World.count, Counters.count_bump, h.counts]
  omega

theorem Alike.count_extra (h : Alike n k extra w v) (c : Counter) :
    Alike n k (fun c' => extra c' + if c' = c then 1 else 0) (w.count c) v := by
  refine { h with counts := fun c' => ?_ }
  simp only [World.count, Counters.count_bump, h.counts, Nat.add_assoc]

theorem Alike.moved_length (h : Alike n k extra w v) :
    moved n k v.limiters.length = w.limiters.length := by
  have hfirst := h.first
  rw [h.length, moved, if_neg (by omega)]

variable [Amount Q]

theorem Alike.addLimiter (h : Alike n k extra w v) (limits : Limits) :
    Alike n k extra (w.addLimiter limits).2 (v.addLimiter limits).2 := by
  have hlen := h.length
  refine { h with first := ?_, length := ?_, limiters := fun slot => ?_ }
  · exact h.first.trans (by simp [World.addLimiter])
  · simp [World.addLimiter, hlen]
    omega
  · have hfirst := h.first
    have hold := h.limiters slot
    simp only [World.addLimiter, List.getElem?_append, hlen, h.now, ← hold]
    unfold moved
    grind

theorem Alike.allow (h : Alike n k extra w v) (limits : Limits) (slot : Nat) (r : Request) :
    (w.allow limits (moved n k slot) r).1 = (v.allow limits slot r).1 ∧
      Alike n k extra (w.allow limits (moved n k slot) r).2 (v.allow limits slot r).2 := by
  have hl : w.limiter limits (moved n k slot) = v.limiter limits slot := by
    simp only [World.limiter, h.limiters, h.now]
  simp only [World.allow, hl, h.now]
  refine ⟨trivial, { h with first := ?_, length := ?_, limiters := fun slot' => ?_ }⟩
  · simpa [World.setLimiter] using h.first
  · simpa [World.setLimiter] using h.length
  · simp only [World.setLimiter, List.getElem?_set, h.limiters, h.length, moved_lt h.first]
    by_cases hs : slot = slot'
    · simp [hs]
    · have hm : moved n k slot ≠ moved n k slot' := fun he => hs (moved_injective he)
      simp [hs, hm]

-- ---------------------------------------------------------------------------
-- Calls
-- ---------------------------------------------------------------------------

def Router.goes (rt : Router) (r : Request) (branch next : Handler Builtin) : Handler Builtin :=
  match Decision.ofValue (rt.predicate.evaluate r) with
  | .branch => branch
  | _ => next

theorem Router.goes_cases (rt : Router) (r : Request) :
    (∀ branch next, rt.goes r branch next = branch) ∨
      ∀ branch next, rt.goes r branch next = next := by
  unfold goes
  cases Decision.ofValue (rt.predicate.evaluate r) <;> simp

theorem Router.goes_next (rt : Router) (h : rt.predicate.evaluate r ≠ .ok true) :
    rt.goes r branch next = next := by
  unfold goes
  split
  · rename_i hd
    unfold Decision.ofValue at hd
    split at hd
    · contradiction
    · cases hd
    · cases hd
  · rfl

theorem Handler.call_router (terminal : Terminal) (rt : Router) (branch next : Handler Builtin)
    (r : Request) (w : World Q) : (Handler.router rt branch next).call terminal r w =
      (rt.goes r branch next).call terminal r (w.count (rt.counter r)) := by
  simp only [call, Router.decide, Router.goes, Router.counter]
  cases Decision.ofValue (rt.predicate.evaluate r) <;> rfl

theorem Handler.visits_router (rt : Router) (branch next : Handler Builtin) (r : Request)
    (w : World Q) : (Handler.router rt branch next).visits r w =
      (.router rt branch next, r) :: (rt.goes r branch next).visits r (w.count (rt.counter r)) := by
  simp only [visits, Router.decide, Router.goes, Router.counter]
  cases Decision.ofValue (rt.predicate.evaluate r) <;> rfl

theorem Handler.admissions_router (rt : Router) (branch next : Handler Builtin) (r : Request)
    (w : World Q) : (Handler.router rt branch next).admissions r w =
      (rt.goes r branch next).admissions r (w.count (rt.counter r)) := by
  simp only [admissions, Router.decide, Router.goes, Router.counter]
  cases Decision.ofValue (rt.predicate.evaluate r) <;> rfl

theorem Builtin.receive_alike (l : Builtin) (r : Request) (h : Alike n k extra w v) :
    ((l.moved n k).receive r w).1 = (l.receive r v).1 ∧
      Alike n k extra ((l.moved n k).receive r w).2 (l.receive r v).2 ∧
      (l.moved n k).asked r w = (l.asked r v).map (Admission.moved n k) := by
  cases l with
  | rateLimit name limits slot =>
    obtain ⟨hb, hw⟩ := h.allow limits slot r
    simp only [moved, receive, asked, List.map_cons, List.map_nil, Admission.moved, hb]
    generalize w.allow limits (Pipeline.moved n k slot) r = p at hb hw
    generalize v.allow limits slot r = q at hb hw
    obtain ⟨b, w'⟩ := p
    obtain ⟨b', v'⟩ := q
    obtain rfl : b = b' := hb
    cases b with
    | true => exact ⟨rfl, hw, trivial⟩
    | false => exact ⟨rfl, hw.count _, trivial⟩
  | _ => exact ⟨rfl, h, rfl⟩

section
variable (n k : Nat) (rt : Router) (branch next : Handler Builtin)

/-- The second handler is the first one without a certain router: where the first goes to the
router, the second goes on with what is behind it. -/
inductive Bypasses : Handler Builtin → Handler Builtin → Prop
  | terminal : Bypasses .terminal .terminal
  | skip : Bypasses next g → Bypasses (.router rt branch next) g
  | link (l : Builtin) : Bypasses f g → Bypasses (.link (l.moved n k) f) (.link l g)
  | router : Handler.router rt' b f ≠ .router rt branch next → Bypasses b c → Bypasses f g →
      Bypasses (.router rt' b f) (.router rt' c g)

end

variable {rt : Router} {branch next f g : Handler Builtin}

/-- As long as the router does not branch, a call of either handler has the same outcome. -/
theorem Bypasses.call (hb : Bypasses n k rt branch next f g) (terminal : Terminal) (r : Request)
    (hw : Alike n k extra w v)
    (hd : ∀ r' ∈ arrivals (.router rt branch next) (f.visits r w),
      rt.predicate.evaluate r' ≠ .ok true) :
    (f.call terminal r w).1 = (g.call terminal r v).1 ∧
      f.admissions r w = (g.admissions r v).map (Admission.moved n k) ∧
      Alike n k (fun c => extra c +
          ((arrivals (.router rt branch next) (f.visits r w)).map rt.counter).count c)
        (f.call terminal r w).2 (g.call terminal r v).2 := by
  induction hb generalizing r w v extra with
  | terminal =>
    have hne : Handler.terminal ≠ .router rt branch next := by simp
    simp only [Handler.call, Handler.admissions, Handler.visits, arrivals_cons_ne hne]
    exact ⟨by rw [hw.delivered], rfl, hw.deliver r⟩
  | @skip g hb ih =>
    simp only [Handler.visits_router, arrivals_cons_self, List.forall_mem_cons] at hd
    obtain ⟨hr, hd⟩ := hd
    simp only [Handler.visits_router, Handler.call_router, Handler.admissions_router,
      arrivals_cons_self, rt.goes_next hr] at hd ⊢
    obtain ⟨hs, ha, hw'⟩ := ih r (hw.count_extra (rt.counter r)) hd
    refine ⟨hs, ha, hw'.congr fun c => ?_⟩
    simp only [List.map_cons, List.count_cons, beq_iff_eq, eq_comm (a := c)]
    omega
  | @link f g l hb ih =>
    have hne : Handler.link (l.moved n k) f ≠ .router rt branch next := by simp
    obtain ⟨hp, hw', ha⟩ := l.receive_alike r hw
    simp only [Handler.call, Handler.admissions, Handler.visits, arrivals_cons_ne hne,
      Link.receive, ha, List.map_append] at hd ⊢
    generalize (l.moved n k).receive r w = p at hp hw' hd
    generalize l.receive r v = q at hp hw'
    obtain ⟨p, w'⟩ := p
    obtain ⟨q, v'⟩ := q
    obtain rfl : p = q := hp
    cases p with
    | pass r' edit =>
      obtain ⟨hs, ha', hw''⟩ := ih r' hw' hd
      exact ⟨congrArg edit hs, congrArg _ ha', hw''⟩
    | answer s => exact ⟨rfl, rfl, hw'⟩
  | @router rt' b f c g hne hb hf ihb ihf =>
    simp only [Handler.visits_router, Handler.call_router, Handler.admissions_router,
      arrivals_cons_ne hne] at hd ⊢
    obtain hg | hg := rt'.goes_cases r
    · simp only [hg] at hd ⊢
      exact ihb r (hw.count _) hd
    · simp only [hg] at hd ⊢
      exact ihf r (hw.count _) hd

-- ---------------------------------------------------------------------------
-- Runs
-- ---------------------------------------------------------------------------

theorem Bypasses.run (hb : Bypasses n k rt branch next f g) (terminal : Terminal)
    (events : List Event) (hw : Alike n k extra w v)
    (hd : ∀ r ∈ f.reaching terminal (.router rt branch next) events w,
      rt.predicate.evaluate r ≠ .ok true) :
    f.responses terminal events w = g.responses terminal events v ∧
      f.watch terminal f.admissions events w =
        (g.watch terminal g.admissions events v).map (Admission.moved n k) ∧
      Alike n k (fun c => extra c +
          ((f.reaching terminal (.router rt branch next) events w).map rt.counter).count c)
        (f.run terminal events w) (g.run terminal events v) := by
  induction events generalizing w v extra with
  | nil => exact ⟨rfl, rfl, hw⟩
  | cons event events ih =>
    cases event with
    | call r =>
      simp only [Handler.responses, Handler.reaching, Handler.watch, Handler.run, arrivals_append,
        List.forall_mem_append, List.map_append, List.count_append] at hd ih ⊢
      obtain ⟨hs, ha, hw'⟩ := hb.call terminal r hw hd.1
      obtain ⟨hss, has, hws⟩ := ih hw' hd.2
      rw [hs, hss, ha, has]
      exact ⟨rfl, rfl, hws.congr fun c => Nat.add_assoc ..⟩
    | advance duration => exact ih (hw.advance duration) hd

-- ---------------------------------------------------------------------------
-- Stacks
-- ---------------------------------------------------------------------------

theorem Handler.sizeOf_next_lt (rt : Router) (branch next : Handler Builtin) :
    sizeOf next < sizeOf (Handler.router rt branch next) := by
  simp only [Handler.router.sizeOf_spec]
  omega

theorem Bypasses.behind (hf : h.Fits n)
    (hs : sizeOf h < sizeOf (Handler.router rt branch next)) : Bypasses n k rt branch next h h := by
  induction h with
  | terminal => exact .terminal
  | link l f ih =>
    have hlt : sizeOf f < sizeOf (Handler.link l f) := by simp
    have hl := Bypasses.link l (ih hf.2 (hlt.trans hs))
    rwa [l.moved_eq_self hf.1] at hl
  | router rt' b f ihb ihf =>
    have hlt : sizeOf b < sizeOf (Handler.router rt' b f) := by
      simp only [Handler.router.sizeOf_spec]
      omega
    refine .router (fun he => ?_) (ihb hf.1 (hlt.trans hs))
      (ihf hf.2 ((Handler.sizeOf_next_lt ..).trans hs))
    exact absurd (congrArg sizeOf he) hs.ne

/-- What is made in front of both handlers by the same steps keeps them alike. -/
theorem Lockstep.bypasses {x y p q : Made Q} (h : Lockstep x y p q)
    (hb : Bypasses n k rt branch next x.1 y.1)
    (hs : sizeOf (Handler.router rt branch next) ≤ sizeOf x.1) (hw : Alike n k extra x.2 y.2) :
    Bypasses n k rt branch next p.1 q.1 ∧ sizeOf (Handler.router rt branch next) ≤ sizeOf p.1 ∧
      Alike n k extra p.2 q.2 := by
  induction h with
  | refl => exact ⟨hb, hs, hw⟩
  | @link x y f v g u l hl _ ih =>
    obtain ⟨hb, hs, hw⟩ := ih hb hs hw
    have hl : l.moved n k = l := l.moved_eq_self fun slot h => nomatch hl.symm.trans h
    refine ⟨?_, hs.trans ?_, hw⟩
    · have := Bypasses.link l hb
      rwa [hl] at this
    · simp
  | @limiter x y f v g u name limits _ ih =>
    obtain ⟨hb, hs, hw⟩ := ih hb hs hw
    refine ⟨?_, hs.trans ?_, hw.addLimiter limits⟩
    · have := Bypasses.link (.rateLimit name limits u.limiters.length) hb
      rwa [Builtin.moved, hw.moved_length] at this
    · simp
  | @router x y f v g u b v' c u' rt' _ _ ih ih' =>
    obtain ⟨hf, hs, hw⟩ := ih hb hs hw
    obtain ⟨hb, -, hw⟩ := ih' hf hs hw
    have hlt := Handler.sizeOf_next_lt rt' b f
    refine ⟨.router (fun he => ?_) hb hf, hs.trans hlt.le, { hw with counts := fun c => ?_ }⟩
    · exact absurd (congrArg sizeOf he) (hs.trans_lt hlt).ne'
    · rw [count_registerRouter, count_registerRouter, hw.counts]

/-- Take a branch out of a stack whose condition holds for no request that reaches its router. Then
every call gets the same response, the same requests are delivered, and the limiters that are left
say the same. The counts are the same but for what that router counts. -/
theorem stackBranches_without {before behind : List Branch} {b : Branch} {w w₁ : World Q}
    {full : Handler Builtin}
    (h : stackBranches makeLink (before ++ b :: behind) .terminal w = (.ok full, w₁)) :
    ∃ p branch next v v', Predicate.compile b.spec.condition = .ok p ∧
      stackBranches makeLink behind .terminal w = (.ok next, v) ∧
      makeRouter Descriptor.members? makeLink b.name b.spec next v =
        (.ok (.router ⟨b.name, p⟩ branch next), v') ∧
      ∃ reduced w₂,
        stackBranches makeLink (before ++ behind) .terminal w = (.ok reduced, w₂) ∧
        ∀ (terminal : Terminal) (events : List Event),
          (∀ r ∈ full.reaching terminal (.router ⟨b.name, p⟩ branch next) events w₁,
            p.evaluate r ≠ .ok true) →
          full.responses terminal events w₁ = reduced.responses terminal events w₂ ∧
          (full.run terminal events w₁).delivered = (reduced.run terminal events w₂).delivered ∧
          full.watch terminal full.admissions events w₁ =
            (reduced.watch terminal reduced.admissions events w₂).map
              (Admission.moved v.limiters.length (v'.limiters.length - v.limiters.length)) ∧
          ∀ c, (full.run terminal events w₁).counters.count c =
            (reduced.run terminal events w₂).counters.count c +
              ((full.reaching terminal (.router ⟨b.name, p⟩ branch next) events w₁).map
                (Router.counter ⟨b.name, p⟩)).count c := by
  obtain ⟨mid, v', hmid, hfull⟩ := stackBranches_append_ok.mp h
  rw [stackBranches] at hmid
  split at hmid
  · cases hmid
  · rename_i next v hnext
    obtain ⟨p, branch, hp, rfl⟩ := makeRouter_ok hmid
    obtain ⟨reduced, w₂, hreduced, hlock⟩ := stackBranches_inStep before _ v' full w₁ hfull next v
    refine ⟨p, branch, next, v, v', hp, hnext, hmid, reduced, w₂,
      stackBranches_append_ok.mpr ⟨next, v, hnext, hreduced⟩, ?_⟩
    have hgrows : Grows v v' := by
      obtain ⟨_, _, _, hs⟩ :=
        makeRouter_inStep (fun e _ => makeLink_inStep e.2 e.1) next v _ v' hmid next v
      exact hs.grows
    have hfits : next.Fits v.limiters.length := by
      obtain ⟨_, _, _, hs⟩ := stackBranches_inStep behind .terminal w next v hnext .terminal w
      exact hs.fits trivial
    obtain ⟨hb, -, hw⟩ := hlock.bypasses
      (.skip (.behind hfits (Handler.sizeOf_next_lt ..))) le_rfl hgrows.alike
    intro terminal events hd
    obtain ⟨hs, ha, hw⟩ := hb.run terminal events hw hd
    exact ⟨hs, hw.delivered, ha, fun c => by rw [hw.counts, Nat.zero_add]⟩

def limitedWhen (condition name : String) : Branch :=
  ⟨name, condition, none, [(name, .rateLimit ⟨1, none, none⟩)]⟩

theorem stackBranches_without_never : ∃ full w₁ reduced w₂,
    stackBranches makeLink [limitedWhen "true" "a", limitedWhen "false" "b"] .terminal
      ({} : World Float) = (.ok full, w₁) ∧
    stackBranches makeLink [limitedWhen "true" "a"] .terminal ({} : World Float) =
      (.ok reduced, w₂) ∧
    ∀ terminal events,
      full.responses terminal events w₁ = reduced.responses terminal events w₂ := by
  have ht : Predicate.compile "true" = .ok ⟨"true", .const true⟩ := by cbv
  have hf : Predicate.compile "false" = .ok ⟨"false", .const false⟩ := by cbv
  have ha : resolve Descriptor.members? [("a", .rateLimit ⟨1, none, none⟩)] ["a"] =
      .ok [("a", .rateLimit ⟨1, none, none⟩)] := by cbv
  have hb : resolve Descriptor.members? [("b", .rateLimit ⟨1, none, none⟩)] ["b"] =
      .ok [("b", .rateLimit ⟨1, none, none⟩)] := by cbv
  obtain ⟨full, w₁, h⟩ : ∃ full w₁,
      stackBranches makeLink ([limitedWhen "true" "a"] ++ limitedWhen "false" "b" :: []) .terminal
        ({} : World Float) = (.ok full, w₁) := by
    simp [stackBranches, limitedWhen, makeRouter, ht, hf, buildChain, ha, hb, BranchSpec.order,
      makeLinks, makeLink, Descriptor.make, makeRateLimit, checkLimits, Settings.check]
  obtain ⟨p, branch, next, v, v', hp, -, -, reduced, w₂, hreduced, hrun⟩ := stackBranches_without h
  refine ⟨full, w₁, reduced, w₂, h, hreduced, fun terminal events => ?_⟩
  cases hf.symm.trans hp
  refine (hrun terminal events fun r _ he => ?_).1
  cases he

end

end ConditionalGateway.Pipeline
