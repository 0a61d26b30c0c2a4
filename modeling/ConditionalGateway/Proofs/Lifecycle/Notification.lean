import ConditionalGateway.Lifecycle.Shutdown
import Mathlib.Tactic.Common

/-!
# One signal for every subscriber

`signalled_once`: a receiver that subscribed before the first trigger finds the
signal at its first look behind that trigger and at no other look; a receiver
that subscribed later never finds it. It does not matter how many handles there
are, or how often the shutdown is triggered again.

The flag tells how many messages were sent, none or one (`Sound`). So a receiver
is behind by one message or by none, and no message can be lost to it.
-/

namespace ConditionalGateway.Lifecycle

inductive Use where
  | clone
  | drop
  | subscribe
  | trigger
  | receive (receiver : Nat)
  deriving DecidableEq, Repr

def looks (receiver : Nat) (uses : List Use) : Nat := uses.count (.receive receiver)

/-- What a receiver finds if the signal waits for it. -/
def firstOnly : Nat → List Reception
  | 0 => []
  | n + 1 => .received :: List.replicate n .empty

namespace Shutdown

def step (s : Shutdown) : Use → Shutdown
  | .clone => s.clone
  | .drop => s.drop
  | .subscribe => s.subscribe.2
  | .trigger => s.trigger
  | .receive receiver => (s.receive receiver).2

def run (s : Shutdown) (uses : List Use) : Shutdown := uses.foldl step s

/-- The last handle is kept, and nobody looks who has not subscribed. -/
def Allows (s : Shutdown) : Use → Prop
  | .drop => 1 < s.channel.senders
  | .receive receiver => receiver < s.channel.seen.length
  | _ => True

instance (s : Shutdown) (use : Use) : Decidable (s.Allows use) := by
  cases use <;> unfold Allows <;> infer_instance

def Legal : Shutdown → List Use → Prop
  | _, [] => True
  | s, use :: uses => s.Allows use ∧ (s.step use).Legal uses

instance decidableLegal : (s : Shutdown) → (uses : List Use) → Decidable (s.Legal uses)
  | _, [] => .isTrue trivial
  | s, use :: uses =>
    have := decidableLegal (s.step use) uses
    inferInstanceAs (Decidable (s.Allows use ∧ (s.step use).Legal uses))

def receptions (receiver : Nat) : Shutdown → List Use → List Reception
  | _, [] => []
  | s, use :: uses =>
    (if use = .receive receiver then [(s.receive receiver).1] else []) ++
      (s.step use).receptions receiver uses

theorem legal_append {s : Shutdown} :
    s.Legal (uses ++ uses') ↔ s.Legal uses ∧ (s.run uses).Legal uses' := by
  induction uses generalizing s with
  | nil => simp [Legal, run]
  | cons use uses ih => simp [Legal, ih, and_assoc, run]

theorem receptions_append (receiver : Nat) (s : Shutdown) (uses uses' : List Use) :
    s.receptions receiver (uses ++ uses') =
      s.receptions receiver uses ++ (s.run uses).receptions receiver uses' := by
  induction uses generalizing s with
  | nil => rfl
  | cons use uses ih => simp [receptions, ih, List.append_assoc, run]

-- ---------------------------------------------------------------------------
-- Steps
-- ---------------------------------------------------------------------------

/-- At most one message was sent, no receiver is ahead of it, and there is a handle. -/
structure Sound (s : Shutdown) : Prop where
  sent : s.channel.sent = s.triggered.toNat
  seen : ∀ n ∈ s.channel.seen, n ≤ s.channel.sent
  senders : 0 < s.channel.senders

/-- The signal was sent and a receiver has not seen it. -/
def waits (s : Shutdown) (receiver : Nat) : Bool :=
  s.channel.seen[receiver]?.any (· < s.channel.sent)

theorem sound_new : Sound {} := ⟨rfl, by simp, by decide⟩

variable {s : Shutdown}

theorem triggered_step (s : Shutdown) (use : Use) :
    (s.step use).triggered = (s.triggered || decide (use = .trigger)) := by
  cases use with
  | trigger => cases h : s.triggered <;> simp [step, trigger, h]
  | _ => simp [step, clone, drop, subscribe, receive]

theorem length_seen_step (s : Shutdown) (use : Use) :
    (s.step use).channel.seen.length =
      s.channel.seen.length + if use = .subscribe then 1 else 0 := by
  cases use with
  | trigger => cases h : s.triggered <;> simp [step, trigger, h, Broadcast.send]
  | subscribe => simp [step, subscribe, Broadcast.subscribe]
  | receive receiver =>
    have hn : Use.receive receiver ≠ .subscribe := nofun
    simp only [step, receive, Broadcast.receive, if_neg hn]
    repeat' split
    all_goals simp
  | _ => rfl

theorem Sound.receive (h : s.Sound) (hr : receiver < s.channel.seen.length) :
    s.receive receiver =
      if s.waits receiver then
        (.received, { s with channel.seen := s.channel.seen.set receiver s.channel.sent })
      else (.empty, s) := by
  have hsent : s.channel.sent ≤ 1 := h.sent ▸ Bool.toNat_le s.triggered
  have hopen : s.channel.senders ≠ 0 := Nat.pos_iff_ne_zero.mp h.senders
  simp only [Shutdown.receive, Broadcast.receive, waits, List.getElem?_eq_getElem hr,
    Option.any_some, decide_eq_true_eq]
  generalize s.channel.seen[receiver] = n
  by_cases hn : n < s.channel.sent
  · have hnext : n + 1 = s.channel.sent := by omega
    simp [hn, Nat.not_le.mpr hn, hnext]
  · simp [hn, Nat.le_of_not_lt hn, hopen]

theorem Sound.step (h : s.Sound) (ha : s.Allows use) : (s.step use).Sound := by
  cases use with
  | clone => exact ⟨h.sent, h.seen, Nat.succ_pos _⟩
  | drop => exact ⟨h.sent, h.seen, Nat.sub_pos_of_lt ha⟩
  | subscribe =>
    refine ⟨h.sent, fun n hn => ?_, h.senders⟩
    obtain hn | hn := List.mem_append.mp hn
    · exact h.seen n hn
    · exact Nat.le_of_eq (List.mem_singleton.mp hn)
  | trigger =>
    simp only [Shutdown.step, trigger]
    split
    · exact h
    · rename_i hf
      refine ⟨?_, fun n hn => Nat.le_succ_of_le (h.seen n hn), h.senders⟩
      simp [Broadcast.send, h.sent, hf]
  | receive receiver =>
    simp only [Shutdown.step, h.receive ha]
    split
    · refine ⟨h.sent, fun n hn => ?_, h.senders⟩
      obtain hn | rfl := List.mem_or_eq_of_mem_set hn
      · exact h.seen n hn
      · exact Nat.le_refl _
    · exact h

theorem Sound.waits_step (h : s.Sound) (ha : s.Allows use)
    (hu : s.triggered = true ∨ use ≠ .trigger) (receiver : Nat) :
    (s.step use).waits receiver = (s.waits receiver && decide (use ≠ .receive receiver)) := by
  cases use with
  | clone => exact (Bool.and_true _).symm
  | drop => exact (Bool.and_true _).symm
  | subscribe =>
    simp only [Shutdown.step, subscribe, waits, Broadcast.subscribe, List.getElem?_append]
    grind
  | trigger => simp [Shutdown.step, trigger, hu.resolve_right (by simp)]
  | receive looking =>
    simp only [Shutdown.step, h.receive ha]
    by_cases hl : looking = receiver
    · subst hl
      cases hw : s.waits looking
      · simp [hw]
      · simp [waits, List.getElem?_set_self ha]
    · cases hw : s.waits looking
      · simp [hl]
      · simp [waits, hl]

-- ---------------------------------------------------------------------------
-- Runs
-- ---------------------------------------------------------------------------

theorem Sound.run (h : s.Sound) (hl : s.Legal uses) : (s.run uses).Sound := by
  induction uses generalizing s with
  | nil => exact h
  | cons use uses ih => exact ih (h.step hl.1) hl.2

theorem triggered_run (s : Shutdown) (uses : List Use) :
    (s.run uses).triggered = (s.triggered || decide (.trigger ∈ uses)) := by
  induction uses generalizing s with
  | nil => simp [run]
  | cons use uses ih =>
    have hr : s.run (use :: uses) = (s.step use).run uses := rfl
    rw [hr, ih, triggered_step]
    simp [eq_comm, Bool.or_assoc]

theorem length_seen_run (s : Shutdown) (uses : List Use) :
    (s.run uses).channel.seen.length = s.channel.seen.length + uses.count .subscribe := by
  induction uses generalizing s with
  | nil => rfl
  | cons use uses ih =>
    have hr : s.run (use :: uses) = (s.step use).run uses := rfl
    rw [hr, ih, length_seen_step, List.count_cons]
    simp only [beq_iff_eq]
    omega

/-- Once the shutdown is triggered, or as long as it is not, a receiver finds the signal if it
waits, and that at its first look. -/
theorem Sound.receptions (h : s.Sound) (hl : s.Legal uses)
    (hu : s.triggered = true ∨ .trigger ∉ uses) (receiver : Nat) :
    s.receptions receiver uses =
      if s.waits receiver then firstOnly (looks receiver uses)
      else List.replicate (looks receiver uses) .empty := by
  induction uses generalizing s with
  | nil => cases s.waits receiver <;> rfl
  | cons use uses ih =>
    obtain ⟨ha, hl⟩ := hl
    have hu' : (s.step use).triggered = true ∨ .trigger ∉ uses := by
      rw [triggered_step]
      grind
    have hw := h.waits_step ha (hu.imp_right fun hn he => hn (by simp [he])) receiver
    rw [Shutdown.receptions, ih (h.step ha) hl hu', hw]
    by_cases hr : use = .receive receiver
    · subst hr
      simp only [if_true, h.receive ha, looks, List.count_cons_self]
      cases s.waits receiver <;> simp [firstOnly, List.replicate_succ]
    · simp [hr, looks, List.count_cons_of_ne hr]

theorem Sound.waits_trigger (h : s.Sound) (hf : s.triggered = false) (receiver : Nat) :
    s.trigger.waits receiver = decide (receiver < s.channel.seen.length) := by
  have hsent : s.channel.sent = 0 := by simp [h.sent, hf]
  have hseen : ∀ n ∈ s.channel.seen, n = 0 := fun n hn =>
    Nat.le_zero.mp (hsent ▸ h.seen n hn)
  simp only [trigger, hf, waits, Broadcast.send, hsent]
  by_cases hr : receiver < s.channel.seen.length
  · simp [hr, hseen _ (List.getElem_mem hr)]
  · simp [hr]

theorem Sound.not_waits (h : s.Sound) (hf : s.triggered = false) (receiver : Nat) :
    s.waits receiver = false := by
  have hsent : s.channel.sent = 0 := by simp [h.sent, hf]
  simp [waits, hsent]

theorem receptions_untriggered (h : Legal {} uses) (hn : .trigger ∉ uses) (receiver : Nat) :
    ({} : Shutdown).receptions receiver uses = List.replicate (looks receiver uses) .empty := by
  simpa [sound_new.not_waits rfl] using sound_new.receptions h (.inr hn) receiver

theorem receptions_triggered (h : Legal {} (before ++ .trigger :: behind)) (hn : .trigger ∉ before)
    (receiver : Nat) :
    ({} : Shutdown).receptions receiver (before ++ .trigger :: behind) =
      List.replicate (looks receiver before) .empty ++
        if receiver < before.count .subscribe then firstOnly (looks receiver behind)
        else List.replicate (looks receiver behind) .empty := by
  obtain ⟨hbefore, hallowed, hbehind⟩ := legal_append.mp h
  have hs := sound_new.run hbefore
  have hf : (run {} before).triggered = false := by simp [triggered_run, hn]
  have ht : (run {} before).trigger.triggered = true := by simp [trigger, hf]
  have hlen : (run {} before).channel.seen.length = before.count .subscribe := by
    simp [length_seen_run]
  have hnext := (hs.step hallowed).receptions hbehind (.inl ht) receiver
  simp only [step, hs.waits_trigger hf, hlen] at hnext
  rw [receptions_append, receptions_untriggered hbefore hn]
  simpa [receptions, step] using hnext

theorem mem_firstOnly (h : found ∈ firstOnly n) : found = .received ∨ found = .empty := by
  cases n with
  | zero => cases h
  | succ n => exact (List.mem_cons.mp h).imp_right List.eq_of_mem_replicate

theorem mem_receptions (h : Legal {} uses) (hf : found ∈ ({} : Shutdown).receptions receiver uses) :
    found = .received ∨ found = .empty := by
  by_cases ht : .trigger ∈ uses
  · obtain ⟨before, behind, rfl, hn⟩ := List.eq_append_cons_of_mem ht
    rw [receptions_triggered h hn, List.mem_append] at hf
    obtain hf | hf := hf
    · exact .inr (List.eq_of_mem_replicate hf)
    · split at hf
      · exact mem_firstOnly hf
      · exact .inr (List.eq_of_mem_replicate hf)
  · rw [receptions_untriggered h ht] at hf
    exact .inr (List.eq_of_mem_replicate hf)

/-- In every run that keeps a handle, the flag tells whether there was a trigger. What a receiver
finds up to the first trigger is nothing; behind it, a receiver that subscribed before finds the
signal at its first look and nothing later, and every other receiver finds nothing. -/
theorem signalled_once (h : Legal {} uses) :
    (∀ before, before <+: uses → (run {} before).triggered = decide (.trigger ∈ before)) ∧
    ∀ receiver,
      (∀ found ∈ ({} : Shutdown).receptions receiver uses, found = .received ∨ found = .empty) ∧
      (.trigger ∉ uses → ({} : Shutdown).receptions receiver uses =
        List.replicate (looks receiver uses) .empty) ∧
      ∀ before behind, uses = before ++ .trigger :: behind → .trigger ∉ before →
        ({} : Shutdown).receptions receiver uses =
          List.replicate (looks receiver before) .empty ++
            if receiver < before.count .subscribe then firstOnly (looks receiver behind)
            else List.replicate (looks receiver behind) .empty := by
  refine ⟨fun before _ => by simp [triggered_run], fun receiver => ⟨?_, ?_, ?_⟩⟩
  · exact fun found => mem_receptions h
  · exact fun hn => receptions_untriggered h hn receiver
  · rintro before behind rfl hn
    exact receptions_triggered h hn receiver

/-- One receiver from the start and one too late, with two handles and two triggers. -/
def earlyAndLate : List Use :=
  [.subscribe, .receive 0, .clone, .trigger, .subscribe, .drop, .trigger, .receive 1, .receive 0,
    .receive 0]

theorem signalled_once_earlyAndLate :
    Legal {} earlyAndLate ∧
      ({} : Shutdown).receptions 0 earlyAndLate = [.empty, .received, .empty] ∧
      ({} : Shutdown).receptions 1 earlyAndLate = [.empty] := by
  have h : Legal {} earlyAndLate := by decide
  have hn : .trigger ∉ [Use.subscribe, .receive 0, .clone] := by decide
  obtain ⟨-, hr⟩ := signalled_once h
  exact ⟨h, (hr 0).2.2 [.subscribe, .receive 0, .clone] _ rfl hn,
    (hr 1).2.2 [.subscribe, .receive 0, .clone] _ rfl hn⟩

end Shutdown
end ConditionalGateway.Lifecycle
