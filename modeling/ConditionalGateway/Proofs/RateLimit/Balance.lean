import ConditionalGateway.Proofs.RateLimit.Exact

/-!
# What a client has to spend

`Limiter.balance` is what the bucket of a client holds at a moment, or would
hold if there were one. It grows with time up to the burst (`balance_later`), a
sweep does not lower it (`le_balance_sweep`), and a request of the client takes
one token from it if it is admitted (`balance_allow`). A sweep that comes before
a bucket is full gives tokens away, as many as the idle time is short of a whole
refill (`balance_sweep_le`).
-/

namespace ConditionalGateway.RateLimit

variable {refill : Nat → Nat → Nat} {l : Limits} {s : Limiter (Exact refill)}

def Limits.gain (l : Limits) (now t : Nat) : ℚ := l.average * (((t : ℚ) - now) / second)

/-- The tokens that a client has at a moment. -/
def Limiter.balance (l : Limits) (s : Limiter (Exact refill)) (now : Nat) (key : String) : ℚ :=
  ((s.bucket l now key).refilled l now).value

/-- What a limiter stores for a client makes sense by now: no debts, and no use in the future. -/
structure Limiter.Sound (now : Nat) (s : Limiter (Exact refill)) (key : String) : Prop where
  nodup : s.KeysNodup
  bucket : ∀ b, s.stored key = some b → 0 ≤ b.tokens.value ∧ b.updated ≤ now

theorem Limits.gain_nonneg (l : Limits) (h : now ≤ t) : 0 ≤ l.gain now t := by
  have ht : (now : ℚ) ≤ t := Nat.cast_le.mpr h
  have hd : (0 : ℚ) ≤ (t - now) / second := div_nonneg (sub_nonneg.mpr ht) (Nat.cast_nonneg _)
  exact mul_nonneg (Nat.cast_nonneg _) hd

theorem Limits.gain_add (l : Limits) (a b c : Nat) : l.gain a b + l.gain b c = l.gain a c := by
  unfold gain
  ring

-- ---------------------------------------------------------------------------
-- Balances
-- ---------------------------------------------------------------------------

theorem Limiter.balance_of_none (h : s.stored key = none) (now : Nat) :
    s.balance l now key = l.burst := by
  have hb : s.bucket l now key = .full l now := by
    unfold bucket
    rw [show s.buckets.lookup key = none from h]
    rfl
  rw [balance, hb]
  exact refilled_now rfl le_rfl

theorem Limiter.balance_of_some (h : s.stored key = some b) (hu : b.updated ≤ now) :
    s.balance l now key = min (b.tokens.value + l.gain b.updated now) l.burst := by
  have hb : s.bucket l now key = b := by
    unfold bucket
    rw [show s.buckets.lookup key = some b from h]
    rfl
  rw [balance, hb, value_refilled, Nat.cast_sub hu, Limits.gain, mul_comm]

theorem Limiter.balance_congr {s' : Limiter (Exact refill)} (h : s'.stored key = s.stored key) :
    s'.balance l now key = s.balance l now key := by
  unfold balance bucket
  rw [show s'.buckets.lookup key = s.buckets.lookup key from h]

theorem Limiter.balance_le (l : Limits) (s : Limiter (Exact refill)) (now : Nat) (key : String) :
    s.balance l now key ≤ l.burst :=
  refilled_le _ _

theorem Limiter.Sound.balance_nonneg (h : s.Sound now key) : 0 ≤ s.balance l now key := by
  cases hs : s.stored key with
  | none =>
    rw [balance_of_none hs]
    exact Nat.cast_nonneg _
  | some b =>
    obtain ⟨ht, hu⟩ := h.bucket b hs
    rw [balance_of_some hs hu]
    exact le_min (add_nonneg ht (l.gain_nonneg hu)) (Nat.cast_nonneg _)

theorem Limiter.Sound.balance_later (h : s.Sound now key) (ht : now ≤ t) :
    s.balance l t key = min (s.balance l now key + l.gain now t) l.burst := by
  have hg := l.gain_nonneg ht
  cases hs : s.stored key with
  | none =>
    rw [balance_of_none hs, balance_of_none hs, min_eq_right]
    linarith
  | some b =>
    have hu := (h.bucket b hs).2
    have hcap : min (l.burst + l.gain now t) l.burst = l.burst := min_eq_right (by linarith)
    rw [balance_of_some hs hu, balance_of_some hs (hu.trans ht), ← l.gain_add b.updated now t,
      ← add_assoc, ← min_add_add_right, min_assoc, hcap]

theorem Limiter.Sound.mono (h : s.Sound now key) (ht : now ≤ t) : s.Sound t key :=
  ⟨h.nodup, fun b hb => ⟨(h.bucket b hb).1, (h.bucket b hb).2.trans ht⟩⟩

theorem Limiter.sound_start (l : Limits) (now : Nat) (key : String) :
    (Limiter.start l now : Limiter (Exact refill)).Sound now key :=
  ⟨List.nodup_nil, fun _ h => nomatch h⟩

-- ---------------------------------------------------------------------------
-- Sweeps
-- ---------------------------------------------------------------------------

theorem Limiter.Sound.stored_sweep_cases (h : s.Sound t key) :
    (s.sweep l t).stored key = s.stored key ∨
      (s.sweep l t).stored key = none ∧ s.nextSweep ≤ t ∧
        ∀ b, s.stored key = some b → l.idleAfter (Exact refill) ≤ t - b.updated := by
  by_cases hd : t < s.nextSweep
  · exact .inl (congrArg (Limiter.stored · key) (sweep_early hd))
  · have hd := Nat.le_of_not_lt hd
    rw [stored_sweep h.nodup hd]
    cases hs : s.stored key with
    | none => exact .inl rfl
    | some b =>
      by_cases hi : t - b.updated < l.idleAfter (Exact refill)
      · exact .inl (Option.filter_some_pos (by simpa using hi))
      · refine .inr ⟨Option.filter_some_neg (by simpa using hi), hd, ?_⟩
        rintro _ ⟨⟩
        exact Nat.le_of_not_lt hi

theorem Limiter.Sound.sweep (h : s.Sound t key) : (s.sweep l t).Sound t key := by
  refine ⟨h.nodup.sweep, fun b hb => ?_⟩
  obtain hs | ⟨hs, -⟩ := h.stored_sweep_cases (l := l)
  · exact h.bucket b (hs ▸ hb)
  · cases hs.symm.trans hb

theorem Limiter.Sound.le_balance_sweep (h : s.Sound t key) :
    s.balance l t key ≤ (s.sweep l t).balance l t key := by
  obtain hs | ⟨hs, -⟩ := h.stored_sweep_cases (l := l)
  · exact (balance_congr hs).ge
  · rw [balance_of_none hs]
    exact s.balance_le l t key

/-- What a sweep gives away is what an idle bucket still lacks. -/
theorem Limiter.Sound.balance_sweep_le (h : s.Sound t key) (hx : 0 ≤ excess)
    (hi : l.burst ≤ l.gain 0 (l.idleAfter (Exact refill)) + excess) :
    (s.sweep l t).balance l t key ≤
      s.balance l t key + if s.nextSweep ≤ t then excess else 0 := by
  obtain hs | ⟨hs, hd, hidle⟩ := h.stored_sweep_cases (l := l)
  · rw [balance_congr hs]
    split <;> linarith
  · rw [balance_of_none hs, if_pos hd]
    cases hb : s.stored key with
    | none =>
      rw [balance_of_none hb]
      linarith
    | some b =>
      obtain ⟨htokens, hu⟩ := h.bucket b hb
      have hlong : l.gain 0 (l.idleAfter (Exact refill)) ≤ l.gain b.updated t := by
        have hle : (l.idleAfter (Exact refill) : ℚ) - (0 : ℕ) ≤ t - b.updated := by
          rw [Nat.cast_zero, sub_zero, ← Nat.cast_sub hu]
          exact Nat.cast_le.mpr (hidle b hb)
        exact mul_le_mul_of_nonneg_left (div_le_div_of_nonneg_right hle (Nat.cast_nonneg _))
          (Nat.cast_nonneg _)
      rw [balance_of_some hb hu, ← min_add_add_right]
      exact le_min (by linarith) (by linarith)

-- ---------------------------------------------------------------------------
-- Requests
-- ---------------------------------------------------------------------------

theorem Limiter.allow_admitted (s : Limiter (Exact refill)) (k : String) :
    (s.allow l t k).1 = true ↔ 1 ≤ (s.sweep l t).balance l t k :=
  take_admitted

/-- A request that is admitted takes a token from its client, and from no other. -/
theorem Limiter.balance_allow (s : Limiter (Exact refill)) (k key : String) :
    (s.allow l t k).2.balance l t key = (s.sweep l t).balance l t key -
      if k = key ∧ (s.allow l t k).1 = true then 1 else 0 := by
  by_cases hk : key = k
  · subst hk
    have hs : (s.allow l t key).2.stored key =
        some (((s.sweep l t).bucket l t key).take l t).2 := by
      rw [stored_allow, if_pos rfl]
      rfl
    have hg : l.gain t t = 0 := by simp [Limits.gain]
    rw [balance_of_some hs (Bucket.take_updated _).le, Bucket.take_updated, hg, add_zero,
      min_eq_left (value_take_le _ _), value_take]
    simp only [allow_admitted, true_and]
    rfl
  · have hs : (s.allow l t k).2.stored key = (s.sweep l t).stored key := by
      rw [stored_allow, if_neg hk]
    rw [balance_congr hs, if_neg (fun h => hk h.1.symm), sub_zero]

theorem Limiter.Sound.allow (h : s.Sound t key) (k : String) : (s.allow l t k).2.Sound t key := by
  refine ⟨h.nodup.allow, fun b hb => ?_⟩
  rw [stored_allow] at hb
  split at hb
  · rename_i hk
    subst hk
    cases hb
    refine ⟨value_take_nonneg ?_, (Bucket.take_updated _).le⟩
    cases hs : (s.sweep l t).stored key with
    | none => exact Nat.cast_nonneg _
    | some b => exact (h.sweep.bucket b hs).1
  · exact h.sweep.bucket b hb

end ConditionalGateway.RateLimit
