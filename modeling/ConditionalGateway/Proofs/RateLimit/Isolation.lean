import ConditionalGateway.Proofs.RateLimit.Exact
import ConditionalGateway.Proofs.RateLimit.LimiterLaws

/-!
# Clients do not disturb each other

Clients are isolated if each hears what a bucket of its own would say, whatever
other clients send and whenever there is a sweep (`Limits.Isolated`). They are
if a bucket that a sweep can drop is as good as a full one
(`Limits.Refills.isolated`).

Counted without rounding, clients are isolated exactly if the idle time is no
shorter than a whole refill (`isolated_iff`). The idle time is a whole number of
nanoseconds, so it can be too short by a part of one; then a client that comes
back at a sweep is admitted too early.
-/

namespace ConditionalGateway.RateLimit

variable {Q : Type} [Amount Q] {l : Limits}

variable (Q) in
/-- Each client hears in every run what a bucket of its own would say, which is full at the
client's first request and is never dropped. -/
def Limits.Isolated (l : Limits) : Prop :=
  ∀ start run key, Chronological start run →
    (Limiter.start l start : Limiter Q).verdictsFor l key run =
      (Bucket.full l ((timesOf key run).headD 0) : Bucket Q).verdicts l (timesOf key run)

variable (Q) in
/-- A bucket that a sweep can drop is as good as a full one. -/
def Limits.Refills (l : Limits) : Prop :=
  ∀ (b : Bucket Q) now, b.Reachable l → b.updated < now → l.idleAfter Q ≤ now - b.updated →
    b.take l now = (Bucket.full l now).take l now

-- ---------------------------------------------------------------------------
-- One client
-- ---------------------------------------------------------------------------

inductive Stands (l : Limits) (now : Nat) : Option (Bucket Q) → Option (Bucket Q) → Prop
  | unseen : Stands l now none none
  | kept : b.Reachable l → Stands l now (some b) (some b)
  | dropped : b.Reachable l → b.updated < now → l.idleAfter Q ≤ now - b.updated →
      Stands l now none (some b)

/-- A limiter is right about a client, whose own bucket would be `own` by now. -/
structure Tracks (l : Limits) (now : Nat) (s : Limiter Q) (key : String)
    (own : Option (Bucket Q)) : Prop where
  nodup : s.KeysNodup
  stands : Stands l now (s.stored key) own
  due : ∀ b ∈ own, b.updated ≤ now ∧ b.updated < s.nextSweep

variable {s : Limiter Q} {own stored : Option (Bucket Q)}

theorem tracks_start (l : Limits) (now : Nat) (key : String) :
    Tracks l now (Limiter.start l now : Limiter Q) key none :=
  ⟨List.nodup_nil, .unseen, by simp⟩

theorem Stands.mono (h : Stands l now stored own) (ht : now ≤ t) : Stands l t stored own := by
  cases h with
  | unseen => exact .unseen
  | kept hb => exact .kept hb
  | dropped hb hu hi => exact .dropped hb (by omega) (by omega)

theorem Tracks.sweep (h : Tracks l now s key own) (ht : now ≤ t) :
    Tracks l t (s.sweep l t) key own := by
  refine ⟨h.nodup.sweep, ?_, ?_⟩
  · have hs := h.stands.mono ht
    by_cases hd : t < s.nextSweep
    · rwa [Limiter.sweep_early hd]
    · have hd : s.nextSweep ≤ t := Nat.le_of_not_lt hd
      rw [Limiter.stored_sweep h.nodup hd]
      generalize s.stored key = stored at hs
      cases hs with
      | unseen => exact .unseen
      | @kept b hb =>
        have hu := (h.due b rfl).2
        by_cases hi : t - b.updated < l.idleAfter Q
        · rw [Option.filter_some_pos (by simpa using hi)]
          exact .kept hb
        · rw [Option.filter_some_neg (by simpa using hi)]
          exact .dropped hb (by omega) (by omega)
      | dropped hb hu hi => exact .dropped hb hu hi
  · intro b hb
    have hu := h.due b hb
    have hn := s.nextSweep_le l t
    exact ⟨by omega, by omega⟩

/-- What is stored is as good as the client's own bucket. -/
theorem Stands.take_eq (h : Stands l now stored own) (hr : l.Refills Q) :
    (stored.getD (.full l now)).take l now = (own.getD (.full l now)).take l now := by
  cases h with
  | unseen => rfl
  | kept hb => rfl
  | dropped hb hu hi => exact (hr _ _ hb hu hi).symm

theorem Stands.reachable (h : Stands l now stored own) :
    (own.getD (.full l now)).Reachable l := by
  cases h with
  | unseen => exact .full _
  | kept hb => exact hb
  | dropped hb _ _ => exact hb

theorem Tracks.allow (h : Tracks l now s key own) (hr : l.Refills Q) (ht : now ≤ t) :
    (s.allow l t key).1 = ((own.getD (.full l t)).take l t).1 ∧
      Tracks l t (s.allow l t key).2 key (some ((own.getD (.full l t)).take l t).2) := by
  have hs := h.sweep ht
  have he := hs.stands.take_eq hr
  refine ⟨by rw [Limiter.allow_fst, he], hs.nodup.put _ _, ?_, ?_⟩
  · rw [Limiter.stored_allow, if_pos rfl, he]
    refine .kept (hs.stands.reachable.take ?_)
    cases own with
    | none => exact le_rfl
    | some b => exact (hs.due b rfl).1
  · intro b hb
    cases hb
    have hn := s.lt_nextSweep l t
    rw [Bucket.take_updated, Limiter.nextSweep_allow]
    exact ⟨le_rfl, hn⟩

theorem Tracks.allow_other (h : Tracks l now s key own) (ht : now ≤ t) (hk : key ≠ k) :
    Tracks l t (s.allow l t k).2 key own := by
  have hs := h.sweep ht
  refine ⟨hs.nodup.put _ _, ?_, hs.due⟩
  rw [Limiter.stored_allow, if_neg hk]
  exact hs.stands

-- ---------------------------------------------------------------------------
-- Runs
-- ---------------------------------------------------------------------------

theorem Tracks.verdicts (h : Tracks l now s key own) (hr : l.Refills Q)
    (hc : Chronological now run) :
    s.verdictsFor l key run =
      (own.getD (.full l ((timesOf key run).headD 0))).verdicts l (timesOf key run) := by
  induction run generalizing now s own with
  | nil => rfl
  | cons a run ih =>
    obtain ⟨ht, hc⟩ := hc
    by_cases hk : a.key = key
    · have hts : timesOf key (a :: run) = a.time :: timesOf key run := by simp [timesOf, hk]
      obtain ⟨hv, hn⟩ := h.allow hr ht
      rw [verdictsFor_self s hk, hts, hk, hv, ih hn hc]
      rfl
    · have hts : timesOf key (a :: run) = timesOf key run := by simp [timesOf, hk]
      rw [verdictsFor_other s hk, hts, ih (h.allow_other ht (Ne.symm hk)) hc]

theorem Limits.Refills.isolated (hr : l.Refills Q) : l.Isolated Q := fun start _ key hc =>
  (tracks_start l start key).verdicts hr hc

-- ---------------------------------------------------------------------------
-- Whole refills
-- ---------------------------------------------------------------------------

theorem verdictsFor_twice (l : Limits) (n : Nat) (key : String) (idle : Nat) (hpos : 0 < idle)
    (hi : l.idleAfter Q ≤ idle) (ht : idle ≤ l.sweepInterval Q) :
    (Limiter.start l 0 : Limiter Q).verdictsFor l key
        (List.replicate (n + 1) ⟨l.sweepInterval Q - idle, key⟩ ++
          List.replicate (n + 1) ⟨l.sweepInterval Q, key⟩) =
      (Bucket.full l (l.sweepInterval Q - idle) : Bucket Q).verdicts l
          (List.replicate (n + 1) (l.sweepInterval Q - idle)) ++
        (Bucket.full l (l.sweepInterval Q) : Bucket Q).verdicts l
          (List.replicate (n + 1) (l.sweepInterval Q)) := by
  have hdue : (Limiter.start l 0 : Limiter Q).nextSweep = l.sweepInterval Q := Nat.zero_add _
  generalize l.sweepInterval Q = t at ht hdue ⊢
  have hstart := (tracks_start l 0 key : Tracks l 0 (Limiter.start l 0 : Limiter Q) key none)
  -- the first requests come before the sweep, the others with it
  obtain ⟨s, hs, hn, hb, hv⟩ := verdictsFor_replicate (l := l) hstart.nodup (t - idle) key n
  rw [Limiter.sweep_early (by omega)] at hn hb hv
  have hdrop : (s.sweep l t).stored key = none := by
    rw [Limiter.stored_sweep hs (by omega), hb, Option.filter_some_neg]
    have : l.idleAfter Q ≤ t - (t - idle) := by omega
    simpa [Bucket.after_updated] using this
  obtain ⟨s', -, -, -, hv'⟩ := verdictsFor_replicate (l := l) hs t key n
  rw [hdrop] at hv'
  have hv' := hv' []
  rw [List.append_nil] at hv'
  rw [hv, hv']
  simp [Limiter.verdictsFor, Limiter.stored, Limiter.start]

section
variable {refill : Nat → Nat → Nat}

/-- A sweep drops no bucket in the nanosecond of its last request, so an idle time of less than
one nanosecond counts as one. -/
theorem refills_of_le (h : l.burst * second ≤ l.average * max 1 (l.idleAfter (Exact refill))) :
    l.Refills (Exact refill) := by
  intro b now hb hu hi
  have hm : max 1 (l.idleAfter (Exact refill)) ≤ now - b.updated := by omega
  have hfull : (Bucket.full l now : Bucket (Exact refill)).refilled l now =
      Amount.ofNat l.burst := Exact.ext (refilled_now rfl le_rfl)
  apply Bucket.take_congr
  rw [hfull]
  exact refilled_eq_burst hb.bounds.1 (h.trans (Nat.mul_le_mul_left _ hm))

theorem verdicts_full (l : Limits) (t : Nat) :
    (Bucket.full l t : Bucket (Exact refill)).verdicts l (List.replicate l.burst t) =
      List.replicate l.burst true :=
  (verdicts_replicate rfl le_rfl (Nat.cast_nonneg _)).mpr le_rfl

theorem le_of_verdicts
    (h : ((Bucket.full l t : Bucket (Exact refill)).after l (List.replicate l.burst t)).verdicts l
      (List.replicate l.burst t') = List.replicate l.burst true) :
    l.burst * second ≤ l.average * (t' - t) := by
  obtain ⟨hu, hv⟩ := after_replicate (b := (Bucket.full l t : Bucket (Exact refill))) (t := t)
    (l := l) (n := l.burst) rfl le_rfl le_rfl
  generalize (Bucket.full l t : Bucket (Exact refill)).after l (List.replicate l.burst t) = b
    at h hu hv
  have hv : b.tokens.value = 0 := hv.trans (sub_self _)
  rw [verdicts_refilled, verdicts_replicate (b := ⟨b.refilled l t', t'⟩) rfl (refilled_le b t')
    (refilled_nonneg hv.ge t')] at h
  have hr : (l.burst : ℚ) ≤ (b.refilled l t').value := h
  rw [value_refilled, hv, hu, zero_add] at hr
  have hle := (le_min_iff.mp hr).1
  have hs : (0 : ℚ) < second := by norm_num [second]
  rw [div_mul_eq_mul_div, le_div_iff₀ hs] at hle
  have : (l.burst : ℚ) * second ≤ l.average * ((t' - t : ℕ) : ℚ) := by linarith
  exact_mod_cast this

theorem le_of_isolated (h : l.Isolated (Exact refill)) :
    l.burst * second ≤ l.average * max 1 (l.idleAfter (Exact refill)) := by
  cases hburst : l.burst with
  | zero => simp
  | succ n =>
    have key : String := sharedKey
    generalize hi : max 1 (l.idleAfter (Exact refill)) = idle
    have ht : idle ≤ l.sweepInterval (Exact refill) := by
      have : 1 ≤ second := by decide
      simp only [Limits.sweepInterval]
      omega
    have htwice := verdictsFor_twice (Q := Exact refill) l n key idle (by omega) (by omega) ht
    generalize l.sweepInterval (Exact refill) = t at ht htwice
    have hown := h 0 (List.replicate (n + 1) ⟨t - idle, key⟩ ++
      List.replicate (n + 1) ⟨t, key⟩) key ?_
    · rw [htwice] at hown
      have htimes : timesOf key (List.replicate (n + 1) ⟨t - idle, key⟩ ++
          List.replicate (n + 1) ⟨t, key⟩) =
            List.replicate (n + 1) (t - idle) ++ List.replicate (n + 1) t := by
        simp [timesOf]
      have hhead : (List.replicate (n + 1) (t - idle) ++ List.replicate (n + 1) t).headD 0 =
          t - idle := rfl
      rw [htimes, hhead, Bucket.verdicts_append, ← hburst, verdicts_full, verdicts_full,
        List.append_cancel_left_eq] at hown
      have hle := le_of_verdicts hown.symm
      rw [Nat.sub_sub_self ht, hburst] at hle
      exact hle
    · have hend : Chronological (t - idle) (List.replicate (n + 1) ⟨t, key⟩ ++ []) :=
        chronological_replicate (Nat.sub_le t idle) trivial
      rw [List.append_nil] at hend
      exact chronological_replicate (Nat.zero_le _) hend

/-- Counted without rounding, each client hears what a bucket of its own would say, in every run,
exactly if the idle time, taken as no less than a nanosecond, is no shorter than the time in which
a whole burst refills. -/
theorem isolated_iff (l : Limits) (refill : Nat → Nat → Nat) :
    l.Isolated (Exact refill) ↔
      l.burst * second ≤ l.average * max 1 (refill l.burst l.average) :=
  ⟨le_of_isolated, fun h => (refills_of_le h).isolated⟩

/-- Three requests per second: a third of a second is more than 333333333 nanoseconds. -/
def thirds : Settings := ⟨3, some 1, none⟩

theorem thirds_not_isolated :
    ∃ l, thirds.check = .ok l ∧ ¬ l.Isolated Float ∧
      ¬ l.Isolated (Exact (Amount.refillTime Float)) := by
  have hc : Chronological 0 [⟨666666667, sharedKey⟩, ⟨1000000000, sharedKey⟩] :=
    ⟨by decide, by decide, trivial⟩
  refine ⟨⟨3, 1, none⟩, rfl, fun h => ?_, fun h => ?_⟩
  · exact absurd (h 0 _ sharedKey hc) (by decide +kernel)
  · exact absurd ((isolated_iff _ _).mp h) (by decide +kernel)

end

end ConditionalGateway.RateLimit
