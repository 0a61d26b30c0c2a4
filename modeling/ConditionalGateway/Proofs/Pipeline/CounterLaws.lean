import ConditionalGateway.Pipeline.Counter
import Mathlib

/-!
# Laws of counters

Taking a counter into use changes no count (`lookup_registered` tells the ones
that routers take into use), and counting changes one count by one. What was
rejected in all is the sum over the counters of the rate limiters.
-/

namespace ConditionalGateway.Pipeline

theorem Outcome.mem_all (outcome : Outcome) : outcome ∈ all := by
  cases outcome <;> decide

namespace Counters

theorem lookup_register (cs : Counters) (c c' : Counter) :
    (cs.register c).lookup c' = (cs.lookup c').or (if c' = c then some 0 else none) := by
  unfold register
  split
  · rename_i h
    split
    · rename_i hc
      obtain ⟨n, hn⟩ := Option.isSome_iff_exists.mp h
      simp [hc, hn]
    · simp
  · rw [List.lookup_append]
    split
    · rename_i hc
      simp [hc]
    · rename_i hc
      have hc' : (c' == c) = false := by simpa using hc
      simp [List.lookup, hc']

theorem count_register (cs : Counters) (c c' : Counter) :
    (cs.register c).count c' = cs.count c' := by
  rw [count, count, lookup_register]
  cases cs.lookup c' with
  | some n => rfl
  | none => split <;> rfl

theorem lookup_register_self (cs : Counters) (c : Counter) :
    ((cs.register c).lookup c).isSome = true := by
  simp [lookup_register]

theorem lookup_registerAll (cs : Counters) (more : List Counter) (c : Counter) :
    (more.foldl register cs).lookup c =
      (cs.lookup c).or (if c ∈ more then some 0 else none) := by
  induction more generalizing cs with
  | nil => simp
  | cons c' more ih =>
    rw [List.foldl_cons, ih, lookup_register, Option.or_assoc]
    congr 1
    by_cases hc : c = c' <;> simp [hc]

theorem lookup_registered (cs : Counters) (names : List String) (c : Counter) :
    (names.foldl registerRouter cs).lookup c = some n ↔ cs.lookup c = some n ∨
      cs.lookup c = none ∧ n = 0 ∧ ∃ name ∈ names, ∃ outcome, c = .decision name outcome := by
  have hall : names.foldl registerRouter cs =
      (names.flatMap fun name => Outcome.all.map (Counter.decision name)).foldl register cs := by
    simp only [List.foldl_flatMap, List.foldl_map]
    rfl
  have hmem : c ∈ (names.flatMap fun name => Outcome.all.map (Counter.decision name)) ↔
      ∃ name ∈ names, ∃ outcome, c = .decision name outcome := by
    simp [Outcome.mem_all, eq_comm]
  rw [hall, lookup_registerAll, Option.or_eq_some_iff, ← hmem]
  split <;> rename_i h <;> simp [h, eq_comm (a := 0)]

theorem lookup_incremented (cs : Counters) (c c' : Counter) :
    (cs.map fun e => if e.1 = c then (e.1, e.2 + 1) else e).lookup c' =
      (cs.lookup c').map fun n => n + if c' = c then 1 else 0 := by
  induction cs with
  | nil => rfl
  | cons e cs ih =>
    obtain ⟨k, n⟩ := e
    by_cases hk : c' = k
    · subst hk
      by_cases hc : c' = c <;> simp [hc]
    · have hk' : (c' == k) = false := by simpa using hk
      have hl : ((k, n) :: cs).lookup c' = cs.lookup c' := by simp [List.lookup, hk']
      rw [List.map_cons, hl, ← ih]
      split <;> simp [List.lookup, hk']

theorem count_bump (cs : Counters) (c c' : Counter) :
    (cs.bump c).count c' = cs.count c' + if c' = c then 1 else 0 := by
  unfold bump
  rw [← count_register cs c c', count, count, lookup_incremented]
  by_cases hc : c' = c
  · obtain ⟨n, hn⟩ := Option.isSome_iff_exists.mp (lookup_register_self cs c)
    simp [hc, hn]
  · cases (cs.register c).lookup c' <;> simp [hc]

end Counters

-- ---------------------------------------------------------------------------
-- Rejections
-- ---------------------------------------------------------------------------

def Counter.limiter? : Counter → Option String
  | .rateLimited name => some name
  | _ => none

namespace Counters

def limiters (cs : Counters) : Finset String := (cs.filterMap fun e => e.1.limiter?).toFinset

def rejections (cs : Counters) : Nat := ∑ name ∈ cs.limiters, cs.count (.rateLimited name)

theorem count_eq_zero {cs : Counters} (h : name ∉ cs.limiters) :
    cs.count (.rateLimited name) = 0 := by
  have hn : cs.lookup (.rateLimited name) = none := by
    rw [List.lookup_eq_none_iff]
    intro e he
    rw [bne_iff_ne]
    intro hk
    exact h (List.mem_toFinset.mpr (List.mem_filterMap.mpr ⟨e, he, by rw [← hk]; rfl⟩))
  rw [count, hn]
  rfl

/-- Counters that are not in use may be counted in. -/
theorem rejections_eq_sum {cs : Counters} (h : cs.limiters ⊆ names) :
    cs.rejections = ∑ name ∈ names, cs.count (.rateLimited name) :=
  Finset.sum_subset h fun _ _ hn => count_eq_zero hn

theorem rejections_congr {cs cs' : Counters}
    (h : ∀ name, cs'.count (.rateLimited name) = cs.count (.rateLimited name)) :
    cs'.rejections = cs.rejections := by
  have hs' : cs'.limiters ⊆ cs'.limiters ∪ cs.limiters := Finset.subset_union_left
  have hs : cs.limiters ⊆ cs'.limiters ∪ cs.limiters := Finset.subset_union_right
  rw [rejections_eq_sum hs', rejections_eq_sum hs]
  exact Finset.sum_congr rfl fun name _ => h name

theorem rejections_succ {cs cs' : Counters}
    (h : ∀ name, cs'.count (.rateLimited name) =
      cs.count (.rateLimited name) + if name = limiter then 1 else 0) :
    cs'.rejections = cs.rejections + 1 := by
  have hl : limiter ∈ insert limiter (cs'.limiters ∪ cs.limiters) := Finset.mem_insert_self _ _
  have hs : cs'.limiters ∪ cs.limiters ⊆ insert limiter (cs'.limiters ∪ cs.limiters) :=
    Finset.subset_insert _ _
  rw [rejections_eq_sum (Finset.subset_union_left.trans hs),
    rejections_eq_sum (Finset.subset_union_right.trans hs), Finset.sum_congr rfl fun n _ => h n,
    Finset.sum_add_distrib, Finset.sum_ite_eq' _ _ _, if_pos hl]

end Counters
end ConditionalGateway.Pipeline
