import ConditionalGateway.Proofs.RateLimit.LimiterLaws

/-!
# Buckets without rounding

Amounts of tokens as fractions. What a bucket holds stays between nothing and
the burst (`Bucket.Reachable.bounds`), and `n` requests at one moment are all
admitted exactly if the bucket holds `n` tokens then (`verdicts_replicate`). How
long a whole refill is taken to last stays open, for it may have been worked out
with rounding.
-/

namespace ConditionalGateway.RateLimit

/-- Fractions of tokens and seconds, with a rule for the time of a whole refill. -/
@[ext] structure Exact (refillTime : Nat → Nat → Nat) where
  value : ℚ

section
variable {refill : Nat → Nat → Nat}

instance : Amount (Exact refill) where
  add a b := ⟨a.value + b.value⟩
  sub a b := ⟨a.value - b.value⟩
  mul a b := ⟨a.value * b.value⟩
  ofNat n := ⟨n⟩
  seconds d := ⟨d / second⟩
  le a b := decide (a.value ≤ b.value)
  refillTime := refill

namespace Exact

@[simp] theorem value_add (a b : Exact refill) : (a + b).value = a.value + b.value := rfl
@[simp] theorem value_sub (a b : Exact refill) : (a - b).value = a.value - b.value := rfl
@[simp] theorem value_mul (a b : Exact refill) : (a * b).value = a.value * b.value := rfl
@[simp] theorem value_ofNat (n : Nat) : (Amount.ofNat n : Exact refill).value = n := rfl
@[simp] theorem value_seconds (d : Nat) :
    (Amount.seconds d : Exact refill).value = d / second := rfl
@[simp] theorem le_iff (a b : Exact refill) : Amount.le a b = true ↔ a.value ≤ b.value :=
  decide_eq_true_iff

@[simp] theorem value_min (a b : Exact refill) :
    (Amount.min a b).value = min a.value b.value := by
  unfold Amount.min
  split
  · rename_i h
    rw [min_eq_left ((le_iff a b).mp h)]
  · rename_i h
    rw [min_eq_right (le_of_not_ge fun hab => h ((le_iff a b).mpr hab))]

end Exact

-- ---------------------------------------------------------------------------
-- Buckets
-- ---------------------------------------------------------------------------

variable {l : Limits} {b : Bucket (Exact refill)}

theorem value_refilled (b : Bucket (Exact refill)) (now : Nat) :
    (b.refilled l now).value =
      min (b.tokens.value + ((now - b.updated : ℕ) : ℚ) / second * l.average) l.burst := by
  simp [Bucket.refilled]

theorem take_admitted :
    (b.take l now).1 = true ↔ 1 ≤ (b.refilled l now).value := by
  unfold Bucket.take
  simp only
  split
  · rename_i h
    simpa using h
  · rename_i h
    simpa using h

theorem value_take : (b.take l now).2.tokens.value =
    (b.refilled l now).value - if 1 ≤ (b.refilled l now).value then 1 else 0 := by
  unfold Bucket.take
  simp only
  split
  · rename_i h
    rw [if_pos (by simpa using h)]
    rfl
  · rename_i h
    rw [if_neg (by simpa using h), sub_zero]

theorem refilled_le (b : Bucket (Exact refill)) (now : Nat) :
    (b.refilled l now).value ≤ l.burst := by
  rw [value_refilled]
  exact min_le_right _ _

theorem refilled_nonneg (h : 0 ≤ b.tokens.value) (now : Nat) : 0 ≤ (b.refilled l now).value := by
  rw [value_refilled]
  positivity

theorem value_take_nonneg (h : 0 ≤ b.tokens.value) : 0 ≤ (b.take l now).2.tokens.value := by
  have hr := refilled_nonneg (l := l) h now
  rw [value_take]
  split <;> linarith

theorem value_take_le (b : Bucket (Exact refill)) (now : Nat) :
    (b.take l now).2.tokens.value ≤ l.burst := by
  have hr := refilled_le (l := l) b now
  rw [value_take]
  split <;> linarith

theorem Bucket.Reachable.bounds (h : b.Reachable l) :
    0 ≤ b.tokens.value ∧ b.tokens.value ≤ l.burst := by
  induction h with
  | full now => exact ⟨Nat.cast_nonneg _, le_rfl⟩
  | take _ _ ih => exact ⟨value_take_nonneg ih.1, value_take_le _ _⟩

theorem refilled_eq_burst (h : 0 ≤ b.tokens.value)
    (he : l.burst * second ≤ l.average * (now - b.updated)) :
    b.refilled l now = Amount.ofNat l.burst := by
  have hs : (0 : ℚ) < second := by norm_num [second]
  have he' : (l.burst : ℚ) * second ≤ l.average * ((now - b.updated : ℕ) : ℚ) := by
    exact_mod_cast he
  have hd : (l.burst : ℚ) ≤ ((now - b.updated : ℕ) : ℚ) / second * l.average := by
    rw [div_mul_eq_mul_div, le_div_iff₀ hs]
    linarith
  ext
  rw [value_refilled, min_eq_right (by linarith)]
  rfl

-- ---------------------------------------------------------------------------
-- Requests at one moment
-- ---------------------------------------------------------------------------

theorem refilled_now (hu : b.updated = t) (hb : b.tokens.value ≤ l.burst) :
    (b.refilled l t).value = b.tokens.value := by
  rw [value_refilled, hu, Nat.sub_self]
  simpa using hb

theorem verdicts_replicate (hu : b.updated = t) (hb : b.tokens.value ≤ l.burst)
    (h : 0 ≤ b.tokens.value) :
    b.verdicts l (List.replicate n t) = List.replicate n true ↔ (n : ℚ) ≤ b.tokens.value := by
  induction n generalizing b with
  | zero => simpa [Bucket.verdicts] using h
  | succ n ih =>
    have hr := refilled_now hu hb
    have htake := ih (b.take_updated) (value_take_le b t) (value_take_nonneg h)
    simp only [List.replicate_succ, Bucket.verdicts, List.cons.injEq, htake]
    rw [value_take, take_admitted, hr]
    push_cast
    constructor
    · rintro ⟨hone, hn⟩
      rw [if_pos hone] at hn
      linarith
    · intro hn
      have hone : (1 : ℚ) ≤ b.tokens.value := by
        have : (0 : ℚ) ≤ n := Nat.cast_nonneg n
        linarith
      rw [if_pos hone]
      exact ⟨hone, by linarith⟩

theorem after_replicate {n : Nat} (hu : b.updated = t) (hb : b.tokens.value ≤ l.burst)
    (hn : (n : ℚ) ≤ b.tokens.value) :
    (b.after l (List.replicate n t)).updated = t ∧
      (b.after l (List.replicate n t)).tokens.value = b.tokens.value - n := by
  induction n generalizing b with
  | zero => simp [Bucket.after, hu]
  | succ n ih =>
    push_cast at hn
    have hone : (1 : ℚ) ≤ b.tokens.value := by
      have : (0 : ℚ) ≤ n := Nat.cast_nonneg n
      linarith
    have hv : (b.take l t).2.tokens.value = b.tokens.value - 1 := by
      rw [value_take, refilled_now hu hb, if_pos hone]
    obtain ⟨hu', hv'⟩ := ih (b.take_updated) (value_take_le b t) (by linarith)
    refine ⟨hu', ?_⟩
    rw [List.replicate_succ]
    refine hv'.trans ?_
    push_cast
    linarith

/-- At one moment it is the same whether a bucket refilled before or refills now. -/
theorem verdicts_refilled (b : Bucket (Exact refill)) :
    b.verdicts l (List.replicate n t) =
      (⟨b.refilled l t, t⟩ : Bucket (Exact refill)).verdicts l (List.replicate n t) := by
  cases n with
  | zero => rfl
  | succ n =>
    have hr : b.refilled l t = (⟨b.refilled l t, t⟩ : Bucket (Exact refill)).refilled l t :=
      Exact.ext (refilled_now (b := ⟨b.refilled l t, t⟩) rfl (refilled_le b t)).symm
    have ht := Bucket.take_congr hr
    simp only [List.replicate_succ, Bucket.verdicts, ht]

end

end ConditionalGateway.RateLimit
