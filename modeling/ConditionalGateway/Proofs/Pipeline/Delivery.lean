import ConditionalGateway.Pipeline.Builtin
import ConditionalGateway.Proofs.Pipeline.CounterLaws

/-!
# Deliveries and rejections balance

`exactly_once`: a call of a handler of built-in links delivers one request, or a
rate limiter rejects it, and the counters tell which. Every router on the way
counts its verdict. Over a run, the deliveries and the rejections add up to the
calls.

A handler is a tree in which both arms of a router end in the same handler, so
the proofs are by induction on the tree: a link or a router either ends the call
or leaves the books as they were (`Unsettled`) for the rest of it.
-/

namespace ConditionalGateway.Pipeline

open Http RateLimit

variable {Q : Type}

-- ---------------------------------------------------------------------------
-- Calls
-- ---------------------------------------------------------------------------

/-- One request was delivered, none was rejected, and the response is the one to it. -/
structure Delivers (terminal : Terminal) (w : World Q) (res : Response × World Q) : Prop where
  arrival : ∃ r, res.2.delivered = w.delivered ++ [r] ∧
    res.1.status = (terminal w.delivered r).status ∧ res.1.body = (terminal w.delivered r).body
  rejections : ∀ name,
    res.2.counters.count (.rateLimited name) = w.counters.count (.rateLimited name)

/-- Nothing was delivered, and one rate limiter rejected once. -/
structure Rejects (w : World Q) (res : Response × World Q) : Prop where
  delivered : res.2.delivered = w.delivered
  rejection : ∃ limiter, ∀ name, res.2.counters.count (.rateLimited name) =
    w.counters.count (.rateLimited name) + if name = limiter then 1 else 0
  status : res.1.status = 429
  body : res.1.body = Text.encode "Rate limit exceeded"

/-- The routers that a request comes to, each with its verdict. -/
def Handler.verdicts {α : Type} [Link Q α] :
    Handler α → Request → World Q → List (Router × Decision)
  | .terminal, _, _ => []
  | .link l next, r, w =>
    match Link.receive l r w with
    | (.answer _, _) => []
    | (.pass r _, w) => next.verdicts r w
  | .router rt branch next, r, w =>
    match rt.decide r w with
    | (.branch, w) => (rt, .branch) :: branch.verdicts r w
    | (d, w) => (rt, d) :: next.verdicts r w

/-- Between two worlds nothing was delivered and nothing was rejected. -/
structure Unsettled (w w' : World Q) : Prop where
  delivered : w'.delivered = w.delivered
  rejections : ∀ name,
    w'.counters.count (.rateLimited name) = w.counters.count (.rateLimited name)

section
variable {terminal : Terminal} {w w' : World Q} {res : Response × World Q}

theorem Delivers.of_unsettled (h : Unsettled w w') (hd : Delivers terminal w' res) :
    Delivers terminal w res := by
  obtain ⟨harr, hrej⟩ := hd
  rw [h.delivered] at harr
  exact ⟨harr, fun name => (hrej name).trans (h.rejections name)⟩

theorem Rejects.of_unsettled (h : Unsettled w w') (hr : Rejects w' res) : Rejects w res := by
  obtain ⟨hd, ⟨limiter, hl⟩, hs, hb⟩ := hr
  refine ⟨hd.trans h.delivered, ⟨limiter, fun name => ?_⟩, hs, hb⟩
  rw [hl, h.rejections]

theorem Delivers.edited (h : Delivers terminal w res) (hs : s.status = res.1.status)
    (hb : s.body = res.1.body) : Delivers terminal w (s, res.2) := by
  obtain ⟨⟨r, hd, hs', hb'⟩, hrej⟩ := h
  exact ⟨⟨r, hd, hs.trans hs', hb.trans hb'⟩, hrej⟩

theorem Rejects.edited (h : Rejects w res) (hs : s.status = res.1.status)
    (hb : s.body = res.1.body) : Rejects w (s, res.2) :=
  ⟨h.delivered, h.rejection, hs.trans h.status, hb.trans h.body⟩

theorem Delivers.not_rejects (h : Delivers terminal w res) : ¬ Rejects w res := by
  intro hr
  obtain ⟨r, hd, -⟩ := h.arrival
  have hl := congrArg List.length (hd.symm.trans hr.delivered)
  simp at hl

end

-- ---------------------------------------------------------------------------
-- Links and routers
-- ---------------------------------------------------------------------------

theorem Router.decide_unsettled (rt : Router) (r : Request) (w : World Q) :
    Unsettled w (rt.decide r w).2 := by
  refine ⟨rfl, fun name => ?_⟩
  simp [decide, World.count, Counters.count_bump]

theorem Router.decide_count (rt : Router) (r : Request) (w : World Q) (name : String)
    (outcome : Outcome) :
    (rt.decide r w).2.counters.count (.decision name outcome) =
      w.counters.count (.decision name outcome) +
        if rt.name = name ∧ (rt.decide r w).1.outcome = outcome then 1 else 0 := by
  simp [decide, World.count, Counters.count_bump, eq_comm]

inductive Handled (w : World Q) : Passage × World Q → Prop
  | passed (r : Request) : w'.delivered = w.delivered → w'.counters = w.counters →
      (∀ s, (edit s).status = s.status ∧ (edit s).body = s.body) → Handled w (.pass r edit, w')
  | rejected (name : String) : w'.delivered = w.delivered →
      w'.counters = w.counters.bump (.rateLimited name) → Handled w (.answer rejection, w')

variable [Amount Q]

theorem World.allow_books (w : World Q) (limits : Limits) (slot : Nat) (r : Request) :
    (w.allow limits slot r).2.delivered = w.delivered ∧
      (w.allow limits slot r).2.counters = w.counters :=
  ⟨rfl, rfl⟩

theorem Builtin.receive_handled (l : Builtin) (r : Request) (w : World Q) :
    Handled w (l.receive r w) := by
  cases l with
  | headers request response => exact .passed _ rfl rfl fun _ => ⟨rfl, rfl⟩
  | stripPrefix prefixes => exact .passed _ rfl rfl fun _ => ⟨rfl, rfl⟩
  | addPrefix pre => exact .passed _ rfl rfl fun _ => ⟨rfl, rfl⟩
  | replacePath path => exact .passed _ rfl rfl fun _ => ⟨rfl, rfl⟩
  | rateLimit name limits slot =>
    obtain ⟨hd, hc⟩ := w.allow_books limits slot r
    simp only [receive]
    split
    · rename_i h
      rw [h] at hd hc
      exact .passed _ hd hc fun _ => ⟨rfl, rfl⟩
    · rename_i h
      rw [h] at hd hc
      exact .rejected name hd (congrArg (Counters.bump · _) hc)

theorem Handler.call_settles (h : Handler Builtin) (terminal : Terminal) (r : Request)
    (w : World Q) : Delivers terminal w (h.call terminal r w) ∨ Rejects w (h.call terminal r w) := by
  -- an answer of a link settles the call; whatever else is on the way leaves it unsettled
  induction h generalizing r w with
  | terminal => exact .inl ⟨⟨r, rfl, rfl, rfl⟩, fun _ => rfl⟩
  | link l next ih =>
    have hl := l.receive_handled r w
    simp only [call, Link.receive]
    generalize l.receive r w = p at hl
    cases hl with
    | @passed edit w' r' hd hc he =>
      have hu : Unsettled w w' := ⟨hd, fun _ => by rw [hc]⟩
      obtain ⟨hs, hb⟩ := he (next.call terminal r' w').1
      obtain h | h := ih r' w'
      · exact .inl (.of_unsettled hu (h.edited hs hb))
      · exact .inr (.of_unsettled hu (h.edited hs hb))
    | @rejected w' name hd hc =>
      refine .inr ⟨hd, ⟨name, fun n => ?_⟩, rfl, rfl⟩
      simp [hc, Counters.count_bump]
  | router rt branch next ihb ihn =>
    have hu := rt.decide_unsettled r w
    simp only [call]
    generalize rt.decide r w = p at hu
    obtain ⟨d, w'⟩ := p
    cases d with
    | branch => exact (ihb r w').imp (.of_unsettled hu) (.of_unsettled hu)
    | default => exact (ihn r w').imp (.of_unsettled hu) (.of_unsettled hu)
    | failOpen e => exact (ihn r w').imp (.of_unsettled hu) (.of_unsettled hu)

theorem Handler.call_decisions (h : Handler Builtin) (terminal : Terminal) (r : Request)
    (w : World Q) (name : String) (outcome : Outcome) :
    (h.call terminal r w).2.counters.count (.decision name outcome) =
      w.counters.count (.decision name outcome) +
        (h.verdicts r w).countP fun v => v.1.name = name ∧ v.2.outcome = outcome := by
  induction h generalizing r w with
  | terminal => rfl
  | link l next ih =>
    have hl := l.receive_handled r w
    simp only [call, verdicts, Link.receive]
    generalize l.receive r w = p at hl
    cases hl with
    | @passed edit w' r' hd hc he => rw [← hc]; exact ih r' w'
    | @rejected w' limiter hd hc => simp [hc, Counters.count_bump]
  | router rt branch next ihb ihn =>
    have hc := rt.decide_count r w name outcome
    simp only [call, verdicts]
    generalize rt.decide r w = p at hc
    obtain ⟨d, w'⟩ := p
    cases d with
    | branch => simp [ihb, hc, List.countP_cons, Nat.add_assoc, Nat.add_comm]
    | default => simp [ihn, hc, List.countP_cons, Nat.add_assoc, Nat.add_comm]
    | failOpen e => simp [ihn, hc, List.countP_cons, Nat.add_assoc, Nat.add_comm]

theorem Handler.call_settled_once (h : Handler Builtin) (terminal : Terminal) (r : Request)
    (w : World Q) :
    (h.call terminal r w).2.delivered.length + (h.call terminal r w).2.counters.rejections =
      w.delivered.length + w.counters.rejections + 1 := by
  obtain ⟨⟨r', hd, -⟩, hr⟩ | ⟨hd, ⟨limiter, hr⟩, -⟩ := h.call_settles terminal r w
  · rw [hd, Counters.rejections_congr hr]
    simp
    omega
  · rw [hd, Counters.rejections_succ hr]
    omega

-- ---------------------------------------------------------------------------
-- Runs
-- ---------------------------------------------------------------------------

/-- What happens to a gateway: it is called, or time passes. -/
inductive Event where
  | call (r : Request)
  | advance (duration : Nat)

def Event.isCall : Event → Bool
  | .call _ => true
  | .advance _ => false

def Handler.run (terminal : Terminal) (h : Handler Builtin) : List Event → World Q → World Q
  | [], w => w
  | .call r :: events, w => h.run terminal events (h.call terminal r w).2
  | .advance duration :: events, w => h.run terminal events (w.advance duration)

theorem Handler.run_settled (h : Handler Builtin) (terminal : Terminal) (events : List Event)
    (w : World Q) :
    (h.run terminal events w).delivered.length + (h.run terminal events w).counters.rejections =
      w.delivered.length + w.counters.rejections + events.countP Event.isCall := by
  induction events generalizing w with
  | nil => rfl
  | cons event events ih =>
    cases event with
    | call r =>
      have hs := h.call_settled_once terminal r w
      rw [run, ih, List.countP_cons_of_pos rfl]
      omega
    | advance duration =>
      rw [run, ih, List.countP_cons_of_neg (by simp [Event.isCall])]
      rfl

/-- A call either delivers one request or is rejected by one rate limiter, and every router on its
way counts its verdict; so the calls of a run are its deliveries and its rejections. -/
theorem exactly_once (h : Handler Builtin) (terminal : Terminal) (w : World Q) :
    (∀ r, Xor (Delivers terminal w (h.call terminal r w)) (Rejects w (h.call terminal r w)) ∧
      ∀ name outcome, (h.call terminal r w).2.counters.count (.decision name outcome) =
        w.counters.count (.decision name outcome) +
          (h.verdicts r w).countP fun v => v.1.name = name ∧ v.2.outcome = outcome) ∧
      ∀ events,
        (h.run terminal events w).delivered.length + (h.run terminal events w).counters.rejections =
          w.delivered.length + w.counters.rejections + events.countP Event.isCall := by
  refine ⟨fun r => ⟨?_, h.call_decisions terminal r w⟩, fun events => h.run_settled terminal events w⟩
  obtain hd | hr := h.call_settles terminal r w
  · exact .inl ⟨hd, hd.not_rejects⟩
  · exact .inr ⟨hr, fun hd => hd.not_rejects hr⟩

end ConditionalGateway.Pipeline
