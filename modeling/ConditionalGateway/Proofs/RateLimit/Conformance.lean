import ConditionalGateway.Proofs.RateLimit.Balance

/-!
# Clients that keep to their limits

A client keeps to its limits if in no span of time it sends more than its burst
and what refills meanwhile (`Limits.Conforms`). Such a client is never rejected
(`conforming_admitted`), whatever the others send and whenever there is a sweep,
and whatever the time of a whole refill is taken to be.

What the client has is enough for all that it is still going to send
(`Limits.Covers`): a full bucket is enough for it because it keeps to its limits,
and less than a full one because it was enough before.
-/

namespace ConditionalGateway.RateLimit

variable {refill : Nat → Nat → Nat} {l : Limits} {times : List Nat} {now t : Nat} {v : ℚ}

/-- Requests keep to limits if any of them in a row, from the `i`th to the `j`th, are no more than
the burst and what refills from the first to the last of them. -/
def Limits.Conforms (l : Limits) (times : List Nat) : Prop :=
  ∀ (i j : Nat) (_ : i ≤ j) (_ : j < times.length),
    ((j - i + 1 : ℕ) : ℚ) ≤ l.burst + l.average * (((times[j] : ℚ) - times[i]) / second)

/-- Some tokens, with what refills, are enough for requests to come. -/
def Limits.Covers (l : Limits) (v : ℚ) (now : Nat) (times : List Nat) : Prop :=
  ∀ (j : Nat) (_ : j < times.length), (j : ℚ) + 1 ≤ v + l.gain now times[j]

theorem Limits.Conforms.tail (h : l.Conforms (t :: times)) : l.Conforms times := by
  intro i j hij hj
  have hle := h (i + 1) (j + 1) (Nat.succ_le_succ hij) (Nat.succ_lt_succ hj)
  rwa [Nat.add_sub_add_right] at hle

theorem Limits.Conforms.covers_burst (h : l.Conforms times) (hn : ∀ t ∈ times, now ≤ t) :
    l.Covers l.burst now times := by
  intro j hj
  have hpos : 0 < times.length := Nat.zero_lt_of_lt hj
  have hle : ((j - 0 + 1 : ℕ) : ℚ) ≤ l.burst + l.gain times[0] times[j] := h 0 j (Nat.zero_le j) hj
  have hgain := l.gain_nonneg (hn times[0] (List.getElem_mem hpos))
  rw [← l.gain_add now times[0] times[j]]
  rw [Nat.sub_zero, Nat.cast_succ] at hle
  linarith

theorem Limits.Covers.mono (h : l.Covers v now times) (hv : v ≤ v') : l.Covers v' now times :=
  fun j hj => (h j hj).trans (by linarith)

theorem Limits.Covers.min (h : l.Covers v now times) (h' : l.Covers v' now times) :
    l.Covers (min v v') now times := by
  intro j hj
  rw [← min_add_add_right]
  exact le_min (h j hj) (h' j hj)

theorem Limits.Covers.later (h : l.Covers v now times) (t : Nat) :
    l.Covers (v + l.gain now t) t times := by
  intro j hj
  rw [add_assoc, l.gain_add]
  exact h j hj

theorem Limits.Covers.head (h : l.Covers v t (t :: times)) : 1 ≤ v := by
  have hle := h 0 (Nat.succ_pos _)
  have hgain : l.gain t t = 0 := by simp [gain]
  simpa [hgain] using hle

theorem Limits.Covers.tail (h : l.Covers v now (t :: times)) : l.Covers (v - 1) now times := by
  intro j hj
  have hle := h (j + 1) (Nat.succ_lt_succ hj)
  push_cast [List.getElem_cons_succ] at hle
  linarith

-- ---------------------------------------------------------------------------
-- Runs
-- ---------------------------------------------------------------------------

variable {s : Limiter (Exact refill)}

theorem mem_timesOf (h : t ∈ timesOf key run) : ∃ a ∈ run, a.time = t := by
  obtain ⟨a, ha, ht⟩ := List.mem_map.mp h
  exact ⟨a, (List.mem_filter.mp ha).1, ht⟩

theorem Limiter.Sound.covers_sweep (h : s.Sound now key) (ht : now ≤ t)
    (hf : l.Conforms times) (hn : ∀ t' ∈ times, t ≤ t')
    (hv : l.Covers (s.balance l now key) now times) :
    l.Covers ((s.sweep l t).balance l t key) t times := by
  have hcovers := (hv.later t).min (hf.covers_burst hn)
  rw [← h.balance_later ht] at hcovers
  exact hcovers.mono (h.mono ht).le_balance_sweep

theorem Limiter.Sound.verdictsFor_eq (h : s.Sound now key) (hc : Chronological now run)
    (hf : l.Conforms (timesOf key run))
    (hv : l.Covers (s.balance l now key) now (timesOf key run)) :
    s.verdictsFor l key run = List.replicate (timesOf key run).length true := by
  induction run generalizing s now with
  | nil => rfl
  | cons a run ih =>
    have hn : ∀ t ∈ timesOf key (a :: run), a.time ≤ t := by
      intro t ht
      obtain ⟨b, hb, rfl⟩ := mem_timesOf ht
      have hfrom : Chronological a.time (a :: run) := ⟨le_rfl, hc.2⟩
      exact hfrom.le hb
    obtain ⟨ht, hrun⟩ := hc
    have hswept := h.covers_sweep ht hf hn hv
    have hsound := (h.mono ht).allow (l := l) a.key
    have hbalance := s.balance_allow (l := l) (t := a.time) a.key key
    by_cases hk : a.key = key
    · have htimes : timesOf key (a :: run) = a.time :: timesOf key run := by simp [timesOf, hk]
      rw [htimes] at hf hswept ⊢
      have hadm : (s.allow l a.time a.key).1 = true := by
        rw [allow_admitted, hk]
        exact hswept.head
      rw [if_pos ⟨hk, hadm⟩] at hbalance
      rw [verdictsFor_self s hk, hadm, List.length_cons, List.replicate_succ]
      refine congrArg _ (ih hsound hrun hf.tail ?_)
      rw [hbalance]
      exact hswept.tail
    · have htimes : timesOf key (a :: run) = timesOf key run := by simp [timesOf, hk]
      rw [htimes] at hf hswept ⊢
      rw [if_neg fun hb => hk hb.1, sub_zero] at hbalance
      rw [verdictsFor_other s hk]
      refine ih hsound hrun hf ?_
      rw [hbalance]
      exact hswept

/-- Counted without rounding, a client whose requests keep to the limits has every one of them
admitted, in every run. -/
theorem conforming_admitted (hc : Chronological start run) (hf : l.Conforms (timesOf key run)) :
    (Limiter.start l start : Limiter (Exact refill)).verdictsFor l key run =
      List.replicate (timesOf key run).length true := by
  refine (Limiter.sound_start l start key).verdictsFor_eq hc hf ?_
  rw [Limiter.balance_of_none rfl]
  refine hf.covers_burst fun t ht => ?_
  obtain ⟨a, ha, rfl⟩ := mem_timesOf ht
  exact hc.le ha

/-- One client comes back as soon as its one token is back, which is when its bucket is dropped;
another one sends more than it may. -/
theorem conforming_admitted_twoClients :
    (Limiter.start ⟨1, 1, none⟩ 0 : Limiter (Exact (Amount.refillTime Float))).verdictsFor
      ⟨1, 1, none⟩ "a" [⟨0, "a"⟩, ⟨0, "b"⟩, ⟨0, "b"⟩, ⟨1000000000, "a"⟩] = [true, true] := by
  have hc : Chronological 0 [⟨0, "a"⟩, ⟨0, "b"⟩, ⟨0, "b"⟩, ⟨1000000000, "a"⟩] :=
    ⟨by decide, by decide, by decide, by decide, trivial⟩
  have htimes : timesOf "a" [⟨0, "a"⟩, ⟨0, "b"⟩, ⟨0, "b"⟩, ⟨1000000000, "a"⟩] = [0, 1000000000] := by
    decide
  have hf : Limits.Conforms ⟨1, 1, none⟩ [0, 1000000000] := by
    intro i j hij hj
    have hlen : j < 2 := hj
    interval_cases j <;> interval_cases i <;> norm_num [second]
  rw [← htimes] at hf
  exact conforming_admitted hc hf

end ConditionalGateway.RateLimit
