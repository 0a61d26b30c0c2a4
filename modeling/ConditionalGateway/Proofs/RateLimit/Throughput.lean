import ConditionalGateway.Proofs.RateLimit.Balance

/-!
# How much a client can get

`admitted_le`: in no span of time are more requests of a client admitted than
its burst, what refills meanwhile, and a little more. The little more is there
because a sweep can drop a bucket up to half a nanosecond too early, which
gives its client the tokens that were still missing.

The bound is a potential, `Limiter.credit`: what the client has, what it will
earn until the end of the span, and what the sweeps can give away that still fit
into it. A request moves what it takes from the credit to the count
(`Limiter.Sound.credit_allow`).
-/

namespace ConditionalGateway.RateLimit

-- ---------------------------------------------------------------------------
-- The time of a whole refill
-- ---------------------------------------------------------------------------

/-- A rule for the time of a whole refill that rounds to the nearest nanosecond. A half may go
either way. -/
def Nearest (refill : Nat → Nat → Nat) : Prop :=
  ∀ tokens rate : Nat, 0 < rate → |(refill tokens rate : ℚ) - tokens / rate * second| ≤ 1 / 2

def halfEvenRefill (tokens rate : Nat) : Nat := Decimal.roundHalfEven (tokens * second) rate

theorem roundHalfEven_near (num : Nat) (h : 0 < den) :
    2 * (den * Decimal.roundHalfEven num den) ≤ 2 * num + den ∧
      2 * num ≤ 2 * (den * Decimal.roundHalfEven num den) + den := by
  have hnum := Nat.div_add_mod num den
  have hlt := Nat.mod_lt num h
  unfold Decimal.roundHalfEven
  simp only
  split
  · rename_i hup
    have hup : den ≤ 2 * (num % den) := by
      simp only [Bool.or_eq_true, Bool.and_eq_true, decide_eq_true_eq, beq_iff_eq] at hup
      omega
    rw [Nat.mul_succ]
    omega
  · rename_i hdown
    have hdown : 2 * (num % den) ≤ den := by
      simp only [Bool.or_eq_true, decide_eq_true_eq, not_or] at hdown
      omega
    omega

theorem nearest_halfEvenRefill : Nearest halfEvenRefill := by
  intro tokens rate h
  have hrate : (0 : ℚ) < rate := Nat.cast_pos.mpr h
  obtain ⟨hle, hge⟩ := roundHalfEven_near (tokens * second) h
  have hle : 2 * (rate * (halfEvenRefill tokens rate : ℚ)) ≤ 2 * (tokens * second) + rate := by
    exact_mod_cast hle
  have hge : 2 * ((tokens : ℚ) * second) ≤ 2 * (rate * halfEvenRefill tokens rate) + rate := by
    exact_mod_cast hge
  have hd : (halfEvenRefill tokens rate : ℚ) - tokens / rate * second =
      (rate * halfEvenRefill tokens rate - tokens * second) / rate := by
    field_simp
  rw [hd, abs_le, le_div_iff₀ hrate, div_le_iff₀ hrate]
  constructor <;> linarith

variable {Q : Type} {refill : Nat → Nat → Nat} {l : Limits} {s : Limiter (Exact refill)}
  {now t : Nat} {last : ℚ}

/-- What a client can gain by having its bucket dropped. -/
def Limits.excess (l : Limits) : ℚ := l.average / (2 * second)

theorem Limits.excess_nonneg (l : Limits) : 0 ≤ l.excess := by
  unfold excess
  positivity

theorem Nearest.burst_le (h : Nearest refill) (ha : 0 < l.average) :
    l.burst ≤ l.gain 0 (l.idleAfter (Exact refill)) + l.excess := by
  have hs : (0 : ℚ) < second := by norm_num [second]
  have ha' : (0 : ℚ) < l.average := Nat.cast_pos.mpr ha
  have hidle : (l.burst : ℚ) / l.average * second ≤ l.idleAfter (Exact refill) + 1 / 2 := by
    have := (abs_le.mp (h l.burst l.average ha)).1
    change _ ≤ (refill l.burst l.average : ℚ) + 1 / 2
    linarith
  calc (l.burst : ℚ)
      = l.average * ((l.burst / l.average * second) / second) := by field_simp
    _ ≤ l.average * ((l.idleAfter (Exact refill) + 1 / 2) / second) := by gcongr
    _ = l.gain 0 (l.idleAfter (Exact refill)) + l.excess := by
        unfold Limits.gain Limits.excess
        push_cast
        ring

-- ---------------------------------------------------------------------------
-- Sweeps that are left
-- ---------------------------------------------------------------------------

/-- No more sweeps can come from now to some last moment in seconds, with a second between any
two. -/
def Limiter.sweepsLeft (s : Limiter Q) (now : Nat) (last : ℚ) : ℚ :=
  max 0 (last - (max s.nextSweep now : ℕ) / second + 1)

theorem Limiter.sweepsLeft_nonneg (s : Limiter Q) (now : Nat) (last : ℚ) :
    0 ≤ s.sweepsLeft now last :=
  le_max_left _ _

theorem Limiter.sweepsLeft_le (s : Limiter Q) (hl : (now : ℚ) / second ≤ last) :
    s.sweepsLeft now last ≤ last - now / second + 1 := by
  have hmax : (now : ℚ) / second ≤ (max s.nextSweep now : ℕ) / second := by
    gcongr
    exact Nat.le_max_right _ _
  exact max_le (by linarith) (by linarith)

theorem Limiter.sweepsLeft_sweep [Amount Q] (s : Limiter Q) (ht : now ≤ t)
    (hl : (t : ℚ) / second ≤ last) :
    (s.sweep l t).sweepsLeft t last + (if s.nextSweep ≤ t then 1 else 0) ≤
      s.sweepsLeft now last := by
  by_cases hd : s.nextSweep ≤ t
  · have hfar : (t : ℚ) / second + 1 ≤ (max (s.sweep l t).nextSweep t : ℕ) / second := by
      rw [le_div_iff₀ (by norm_num [second]), add_mul, div_mul_cancel₀ _ (by norm_num [second]),
        one_mul]
      have : t + second ≤ max (s.sweep l t).nextSweep t := by
        rw [nextSweep_sweep hd]
        simp only [Limits.sweepInterval]
        omega
      exact_mod_cast this
    have hnear : ((max s.nextSweep now : ℕ) : ℚ) / second ≤ t / second := by
      gcongr
      exact max_le hd ht
    rw [if_pos hd]
    have hafter : (s.sweep l t).sweepsLeft t last ≤ last - t / second :=
      max_le (by linarith) (by linarith)
    have hbefore : last - t / second + 1 ≤ s.sweepsLeft now last :=
      le_max_of_le_right (by linarith)
    linarith
  · rw [if_neg hd, sweep_early (Nat.lt_of_not_le hd), add_zero]
    unfold sweepsLeft
    gcongr

-- ---------------------------------------------------------------------------
-- Credit
-- ---------------------------------------------------------------------------

/-- What a client can have admitted from now to some last moment in seconds: its tokens, those it
earns, and those it gets by sweeps. -/
def Limiter.credit (l : Limits) (s : Limiter (Exact refill)) (now : Nat) (key : String)
    (last : ℚ) : ℚ :=
  s.balance l now key + l.average * (last - now / second) + s.sweepsLeft now last * l.excess

theorem Limiter.Sound.credit_nonneg (h : s.Sound now key) (hl : (now : ℚ) / second ≤ last) :
    0 ≤ s.credit l now key last := by
  have hb := h.balance_nonneg (l := l)
  have hearned : (0 : ℚ) ≤ l.average * (last - now / second) :=
    mul_nonneg (Nat.cast_nonneg _) (sub_nonneg.mpr hl)
  have hswept := mul_nonneg (s.sweepsLeft_nonneg now last) l.excess_nonneg
  unfold credit
  linarith

theorem Limiter.credit_le (s : Limiter (Exact refill)) (key : String)
    (hl : (now : ℚ) / second ≤ last) :
    s.credit l now key last ≤
      l.burst + l.average * (last - now / second) + (last - now / second + 1) * l.excess := by
  unfold credit
  gcongr
  · exact s.balance_le l now key
  · exact l.excess_nonneg
  · exact s.sweepsLeft_le hl

/-- A request that is admitted is paid for out of the credit of its client. -/
theorem Limiter.Sound.credit_allow (h : s.Sound now key) (hr : Nearest refill)
    (ha : 0 < l.average) (ht : now ≤ t) (hl : (t : ℚ) / second ≤ last) (k : String) :
    (s.allow l t k).2.credit l t key last +
        (if k = key ∧ (s.allow l t k).1 = true then 1 else 0) ≤ s.credit l now key last := by
  have hbalance := s.balance_allow (l := l) (t := t) k key
  have hsweep := (h.mono ht).balance_sweep_le l.excess_nonneg (hr.burst_le ha)
  have hlater : s.balance l t key ≤ s.balance l now key + l.gain now t := by
    rw [h.balance_later ht]
    exact min_le_left _ _
  have hgain : l.gain now t = l.average * (last - now / second) - l.average * (last - t / second) := by
    unfold Limits.gain
    ring
  have hleft := mul_le_mul_of_nonneg_right (s.sweepsLeft_sweep (l := l) ht hl) l.excess_nonneg
  have hnext : (s.allow l t k).2.sweepsLeft t last = (s.sweep l t).sweepsLeft t last := rfl
  have hgiven : ((if s.nextSweep ≤ t then 1 else 0 : ℚ)) * l.excess =
      if s.nextSweep ≤ t then l.excess else 0 := by
    split <;> ring
  rw [add_mul, hgiven] at hleft
  unfold credit
  rw [hnext]
  linarith

-- ---------------------------------------------------------------------------
-- Runs
-- ---------------------------------------------------------------------------

def Limiter.admitted [Amount Q] (l : Limits) : Limiter Q → List Arrival → List Arrival
  | _, [] => []
  | s, a :: rest =>
    let (admitted, s) := s.allow l a.time a.key
    if admitted then a :: s.admitted l rest else s.admitted l rest

theorem Limiter.admitted_cons [Amount Q] (s : Limiter Q) (a : Arrival) (run : List Arrival) :
    s.admitted l (a :: run) =
      (if (s.allow l a.time a.key).1 = true then [a] else []) ++
        (s.allow l a.time a.key).2.admitted l run := by
  rw [admitted]
  simp only
  split <;> rfl

theorem Limiter.admitted_sublist [Amount Q] (s : Limiter Q) (run : List Arrival) :
    (s.admitted l run).Sublist run := by
  induction run generalizing s with
  | nil => exact List.Sublist.slnil
  | cons a run ih =>
    rw [admitted_cons]
    split
    · exact (ih _).cons_cons a
    · exact (ih _).cons a

theorem Limiter.countP_admitted_cons [Amount Q] (s : Limiter Q) (a : Arrival) (run : List Arrival)
    (p : Arrival → Bool) : (s.admitted l (a :: run)).countP p =
      (if p a = true ∧ (s.allow l a.time a.key).1 = true then 1 else 0) +
        ((s.allow l a.time a.key).2.admitted l run).countP p := by
  rw [admitted_cons, List.countP_append]
  by_cases hadm : (s.allow l a.time a.key).1 = true <;> simp [hadm, List.countP_cons]

theorem countP_admitted_late [Amount Q] (s : Limiter Q) (hc : Chronological now run)
    (hl : last < (now : ℚ) / second) (hp : ∀ a, p a = true → (a.time : ℚ) / second ≤ last) :
    (s.admitted l run).countP p = 0 := by
  rw [List.countP_eq_zero]
  intro a ha hpa
  have hle : (now : ℚ) / second ≤ a.time / second := by
    gcongr
    exact hc.le ((s.admitted_sublist run).subset ha)
  linarith [hp a hpa]

theorem Limiter.Sound.countP_admitted_le (h : s.Sound now key) (hr : Nearest refill)
    (ha : 0 < l.average) (hc : Chronological now run) (hl : (now : ℚ) / second ≤ last) :
    (((s.admitted l run).countP fun a => a.key = key ∧ (a.time : ℚ) / second ≤ last : ℕ) : ℚ) ≤
      s.credit l now key last := by
  induction run generalizing s now with
  | nil => simpa [admitted] using h.credit_nonneg hl
  | cons a run ih =>
    obtain ⟨ht, hrun⟩ := hc
    by_cases hlast : (a.time : ℚ) / second ≤ last
    · have hstep := h.credit_allow (l := l) hr ha ht hlast a.key
      have hrest := ih ((h.mono ht).allow (l := l) a.key) hrun hlast
      rw [countP_admitted_cons, Nat.cast_add, Nat.cast_ite, Nat.cast_one, Nat.cast_zero]
      simp only [decide_eq_true_eq, hlast, and_true]
      linarith
    · have hlate : Chronological a.time (a :: run) := ⟨le_rfl, hrun⟩
      rw [countP_admitted_late s hlate (lt_of_not_ge hlast) fun b hb => ?_, Nat.cast_zero]
      · exact h.credit_nonneg hl
      · exact (of_decide_eq_true hb).2

theorem Limiter.Sound.countP_begun_le (h : s.Sound now key) (hr : Nearest refill)
    (ha : 0 < l.average) (hc : Chronological now run) (hb : begin ≤ (now : ℚ) / second)
    (hd : 0 ≤ d) :
    (((s.admitted l run).countP fun a =>
        a.key = key ∧ begin ≤ (a.time : ℚ) / second ∧ (a.time : ℚ) / second ≤ begin + d : ℕ) : ℚ) ≤
      l.burst + l.average * d + (d + 1) * l.excess := by
  have hx := l.excess_nonneg
  by_cases hlast : (now : ℚ) / second ≤ begin + d
  · have hmono : ((s.admitted l run).countP fun a => a.key = key ∧
        begin ≤ (a.time : ℚ) / second ∧ (a.time : ℚ) / second ≤ begin + d) ≤
          (s.admitted l run).countP fun a => a.key = key ∧ (a.time : ℚ) / second ≤ begin + d := by
      refine List.countP_mono_left fun b _ hb => ?_
      obtain ⟨hk, -, hb⟩ := of_decide_eq_true hb
      exact decide_eq_true ⟨hk, hb⟩
    have hspan : begin + d - (now : ℚ) / second ≤ d := by linarith
    calc _ ≤ _ := Nat.cast_le.mpr hmono
      _ ≤ _ := h.countP_admitted_le hr ha hc hlast
      _ ≤ _ := s.credit_le key hlast
      _ ≤ _ := by gcongr
  · rw [countP_admitted_late s hc (lt_of_not_ge hlast) fun b hb => ?_, Nat.cast_zero]
    · positivity
    · exact (of_decide_eq_true hb).2.2

/-- From any state the requests of a client in a span of time are bounded by its burst, by what it
earns in the span, and by the sweeps that fit into it. -/
theorem Limiter.Sound.countP_span_le (h : s.Sound now key) (hr : Nearest refill)
    (ha : 0 < l.average) (hc : Chronological now run) (begin : ℚ) (hd : 0 ≤ d) :
    (((s.admitted l run).countP fun a =>
        a.key = key ∧ begin ≤ (a.time : ℚ) / second ∧ (a.time : ℚ) / second ≤ begin + d : ℕ) : ℚ) ≤
      l.burst + l.average * d + (d + 1) * l.excess := by
  -- the span begins with the first request that is not before it
  induction run generalizing s now with
  | nil =>
    have := l.excess_nonneg
    simp only [admitted, List.countP_nil, Nat.cast_zero]
    positivity
  | cons a run ih =>
    have hfrom : Chronological a.time (a :: run) := ⟨le_rfl, hc.2⟩
    obtain ⟨ht, hrun⟩ := hc
    by_cases hbegin : (a.time : ℚ) / second < begin
    · have hrest := ih ((h.mono ht).allow (l := l) a.key) hrun
      rw [countP_admitted_cons, if_neg, Nat.zero_add]
      · exact hrest
      · rintro ⟨hp, -⟩
        exact absurd (of_decide_eq_true hp).2.1 (not_le.mpr hbegin)
    · exact (h.mono ht).countP_begun_le hr ha hfrom (le_of_not_gt hbegin) hd

theorem Settings.check_average {settings : Settings} (h : settings.check = .ok l) :
    0 < l.average := by
  unfold check at h
  simp only at h
  split at h
  · cases h
  · rename_i ha
    have ha := Nat.pos_of_ne_zero ha
    split at h
    · cases h
    · split at h
      · cases h
        exact ha
      · split at h
        · cases h
          exact ha
        · cases h

/-- Counted without rounding, but with an idle time in whole nanoseconds: whatever the requests of
all clients are, and whenever there is a sweep, in `d` seconds from any moment on no more requests
of one client are admitted than the burst, what refills in that time, and what half a nanosecond
refills for every second that begins. -/
theorem admitted_le {settings : Settings} (hr : Nearest refill) (hs : settings.check = .ok l)
    (hc : Chronological start run) (key : String) (begin : ℚ) (hd : 0 ≤ d) :
    ((((Limiter.start l start : Limiter (Exact refill)).admitted l run).countP fun a =>
        a.key = key ∧ begin ≤ (a.time : ℚ) / second ∧ (a.time : ℚ) / second ≤ begin + d : ℕ) : ℚ) ≤
      l.burst + l.average * d + (d + 1) * l.average / (2 * 10 ^ 9) := by
  have hsound : (Limiter.start l start : Limiter (Exact refill)).Sound start key :=
    Limiter.sound_start l start key
  have hle := hsound.countP_span_le hr (Settings.check_average hs) hc begin hd
  have hexcess : (d + 1) * l.average / (2 * 10 ^ 9) = (d + 1) * l.excess := by
    rw [Limits.excess, mul_div_assoc]
    norm_num [second]
  rw [hexcess]
  exact hle

/-- Two requests that are a little less than a third of a second apart, with three tokens a second.
The bucket is dropped in between, so both are admitted; what a nanosecond's half refills is needed
for the bound. -/
theorem admitted_le_thirds :
    (⟨3, some 1, none⟩ : Settings).check = .ok ⟨3, 1, none⟩ ∧
    ((Limiter.start ⟨3, 1, none⟩ 0 : Limiter (Exact halfEvenRefill)).admitted ⟨3, 1, none⟩
        [⟨666666667, sharedKey⟩, ⟨1000000000, sharedKey⟩]).countP (fun a => a.key = sharedKey ∧
          (666666667 / 10 ^ 9 : ℚ) ≤ (a.time : ℚ) / second ∧
          (a.time : ℚ) / second ≤ 666666667 / 10 ^ 9 + 333333333 / 10 ^ 9) = 2 ∧
    (1 : ℚ) + 3 * (333333333 / 10 ^ 9) < 2 ∧
    (2 : ℚ) ≤ 1 + 3 * (333333333 / 10 ^ 9) + (333333333 / 10 ^ 9 + 1) * 3 / (2 * 10 ^ 9) := by
  have hcount : ((Limiter.start ⟨3, 1, none⟩ 0 : Limiter (Exact halfEvenRefill)).admitted
      ⟨3, 1, none⟩ [⟨666666667, sharedKey⟩, ⟨1000000000, sharedKey⟩]).countP (fun a =>
        a.key = sharedKey ∧ (666666667 / 10 ^ 9 : ℚ) ≤ (a.time : ℚ) / second ∧
        (a.time : ℚ) / second ≤ 666666667 / 10 ^ 9 + 333333333 / 10 ^ 9) = 2 := by
    decide +kernel
  have hc : Chronological 0 [⟨666666667, sharedKey⟩, ⟨1000000000, sharedKey⟩] :=
    ⟨by decide, by decide, trivial⟩
  have hs : (⟨3, some 1, none⟩ : Settings).check = .ok ⟨3, 1, none⟩ := rfl
  have hd : (0 : ℚ) ≤ 333333333 / 10 ^ 9 := by norm_num
  have hle := admitted_le nearest_halfEvenRefill hs hc sharedKey (666666667 / 10 ^ 9) hd
  rw [hcount] at hle
  exact ⟨hs, hcount, by norm_num, by simpa using hle⟩

end ConditionalGateway.RateLimit
