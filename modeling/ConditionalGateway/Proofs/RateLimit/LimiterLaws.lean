import ConditionalGateway.RateLimit.Limiter
import Mathlib

/-!
# Laws of the limiter

What a limiter stores under a key, after a sweep and after a request. A key is
stored once (`Limiter.KeysNodup`), so dropping entries under other keys leaves
it alone. `Limiter.verdictsFor` is what a client hears in a run of requests from
many, and `Bucket.verdicts` what a bucket says that is its own.
-/

namespace ConditionalGateway.RateLimit

-- ---------------------------------------------------------------------------
-- Lists of pairs
-- ---------------------------------------------------------------------------

theorem lookup_filter_ne {xs : List (String × β)} (h : key ≠ k) :
    (xs.filter fun e => e.1 ≠ k).lookup key = xs.lookup key := by
  induction xs with
  | nil => rfl
  | cons e xs ih =>
    obtain ⟨n, b⟩ := e
    by_cases hn : n = k
    · subst hn
      have hk : (key == n) = false := by simpa using h
      rw [List.filter_cons_of_neg (by simp), ih]
      simp [List.lookup_cons, hk]
    · rw [List.filter_cons_of_pos (by simpa using hn)]
      simp only [List.lookup_cons, ih]

theorem lookup_eq_none_of_notMem {xs : List (String × β)} (h : key ∉ xs.map Prod.fst) :
    xs.lookup key = none := by
  rw [List.lookup_eq_none_iff]
  intro e he
  rw [bne_iff_ne]
  rintro rfl
  exact h (List.mem_map_of_mem he)

theorem lookup_filter {xs : List (String × β)} (h : (xs.map Prod.fst).Nodup)
    (p : String × β → Bool) :
    (xs.filter p).lookup key = (xs.lookup key).filter fun b => p (key, b) := by
  induction xs with
  | nil => rfl
  | cons e xs ih =>
    obtain ⟨n, b⟩ := e
    obtain ⟨hn, hxs⟩ := List.nodup_cons.mp h
    by_cases hk : key = n
    · subst hk
      have hx := lookup_eq_none_of_notMem hn
      cases hp : p (key, b)
      · simp [List.filter_cons_of_neg, hp, ih hxs, hx, Option.filter]
      · simp [List.filter_cons_of_pos, hp, Option.filter]
    · have hk' : (key == n) = false := by simpa using hk
      cases hp : p (n, b)
      · simp [List.filter_cons_of_neg, hp, ih hxs, List.lookup_cons, hk']
      · simp [List.filter_cons_of_pos, hp, ih hxs, List.lookup_cons, hk']

-- ---------------------------------------------------------------------------
-- Limiters
-- ---------------------------------------------------------------------------

variable {Q : Type} {l : Limits}

def Limiter.stored (s : Limiter Q) (key : String) : Option (Bucket Q) := s.buckets.lookup key

def Limiter.KeysNodup (s : Limiter Q) : Prop := (s.buckets.map Prod.fst).Nodup

section
variable {s : Limiter Q}

theorem Limiter.stored_put (s : Limiter Q) (k key : String) (b : Bucket Q) :
    (s.put k b).stored key = if key = k then some b else s.stored key := by
  unfold stored put
  by_cases h : key = k
  · simp [h]
  · have hk : (key == k) = false := by simpa using h
    simp only [List.lookup_cons, hk, if_neg h]
    exact lookup_filter_ne h

theorem Limiter.KeysNodup.put (h : s.KeysNodup) (k : String) (b : Bucket Q) :
    (s.put k b).KeysNodup := by
  refine List.nodup_cons.mpr ⟨?_, h.sublist (List.filter_sublist.map _)⟩
  intro hm
  obtain ⟨e, he, hk⟩ := List.mem_map.mp hm
  simpa [hk] using (List.mem_filter.mp he).2

end

variable [Amount Q] {s : Limiter Q}

theorem Limiter.sweep_early (h : now < s.nextSweep) : s.sweep l now = s := if_pos h

theorem Limiter.KeysNodup.sweep (h : s.KeysNodup) : (s.sweep l now).KeysNodup := by
  unfold Limiter.sweep
  split
  · exact h
  · exact List.Nodup.sublist (List.filter_sublist.map _) h

theorem Limiter.stored_sweep (h : s.KeysNodup) (hd : s.nextSweep ≤ now) (key : String) :
    (s.sweep l now).stored key =
      (s.stored key).filter fun b => now - b.updated < l.idleAfter Q := by
  unfold Limiter.sweep
  rw [if_neg (Nat.not_lt.mpr hd)]
  exact lookup_filter h _

theorem Limiter.nextSweep_sweep (hd : s.nextSweep ≤ now) :
    (s.sweep l now).nextSweep = now + l.sweepInterval Q := by
  unfold Limiter.sweep
  rw [if_neg (Nat.not_lt.mpr hd)]

theorem Limiter.lt_nextSweep (l : Limits) (now : Nat) (s : Limiter Q) :
    now < (s.sweep l now).nextSweep := by
  unfold Limiter.sweep
  split
  · assumption
  · have : 0 < second := by decide
    simp only [Limits.sweepInterval]
    omega

theorem Limiter.nextSweep_le (l : Limits) (now : Nat) (s : Limiter Q) :
    s.nextSweep ≤ (s.sweep l now).nextSweep := by
  unfold Limiter.sweep
  split
  · rfl
  · simp only
    omega

theorem Limiter.allow_fst (s : Limiter Q) (k : String) :
    (s.allow l now k).1 = (((s.sweep l now).stored k).getD (.full l now) |>.take l now).1 :=
  rfl

theorem Limiter.stored_allow (s : Limiter Q) (k key : String) :
    (s.allow l now k).2.stored key =
      if key = k then some (((s.sweep l now).stored k).getD (.full l now) |>.take l now).2
      else (s.sweep l now).stored key :=
  stored_put ..

theorem Limiter.KeysNodup.allow (h : s.KeysNodup) : (s.allow l now k).2.KeysNodup :=
  h.sweep.put _ _

theorem Limiter.nextSweep_allow (s : Limiter Q) (k : String) :
    (s.allow l now k).2.nextSweep = (s.sweep l now).nextSweep := rfl

theorem Bucket.take_congr {b b' : Bucket Q} (h : b.refilled l now = b'.refilled l now) :
    b.take l now = b'.take l now := by
  unfold Bucket.take
  rw [h]

theorem Bucket.take_updated (b : Bucket Q) : (b.take l now).2.updated = now := by
  unfold Bucket.take
  simp only
  split <;> rfl

-- ---------------------------------------------------------------------------
-- Runs
-- ---------------------------------------------------------------------------

structure Arrival where
  time : Nat
  key : String

/-- No request comes in before the one in front of it, and the first not before `now`. -/
def Chronological : Nat → List Arrival → Prop
  | _, [] => True
  | now, a :: rest => now ≤ a.time ∧ Chronological a.time rest

def timesOf (key : String) (run : List Arrival) : List Nat :=
  (run.filter fun a => a.key = key).map Arrival.time

/-- Whether each request of one client is admitted, in a run of requests. -/
def Limiter.verdictsFor (l : Limits) (key : String) : Limiter Q → List Arrival → List Bool
  | _, [] => []
  | s, a :: rest =>
    let (admitted, s) := s.allow l a.time a.key
    if a.key = key then admitted :: s.verdictsFor l key rest else s.verdictsFor l key rest

def Bucket.verdicts (l : Limits) : Bucket Q → List Nat → List Bool
  | _, [] => []
  | b, t :: times => (b.take l t).1 :: (b.take l t).2.verdicts l times

def Bucket.after (l : Limits) (b : Bucket Q) (times : List Nat) : Bucket Q :=
  times.foldl (fun b t => (b.take l t).2) b

/-- What becomes of a full bucket by taking tokens. -/
inductive Bucket.Reachable (l : Limits) : Bucket Q → Prop
  | full (now : Nat) : Bucket.Reachable l (.full l now)
  | take : Bucket.Reachable l b → b.updated ≤ now → Bucket.Reachable l (b.take l now).2

theorem Bucket.verdicts_append (b : Bucket Q) (times times' : List Nat) :
    b.verdicts l (times ++ times') = b.verdicts l times ++ (b.after l times).verdicts l times' := by
  induction times generalizing b with
  | nil => rfl
  | cons t times ih => simp [verdicts, after, ih]

theorem Bucket.after_updated (b : Bucket Q) (n t : Nat) :
    (b.after l (List.replicate (n + 1) t)).updated = t := by
  induction n generalizing b with
  | zero => exact b.take_updated
  | succ n ih => exact ih _

theorem Chronological.le (h : Chronological now run) (ha : a ∈ run) : now ≤ a.time := by
  induction run generalizing now with
  | nil => cases ha
  | cons b run ih =>
    obtain ⟨hb, hrun⟩ := h
    obtain rfl | ha := List.mem_cons.mp ha
    · exact hb
    · exact hb.trans (ih hrun ha)

theorem chronological_replicate {t : Nat} (ht : now ≤ t) (hr : Chronological t rest) :
    Chronological now (List.replicate n ⟨t, key⟩ ++ rest) := by
  induction n generalizing now with
  | zero =>
    cases rest with
    | nil => trivial
    | cons a rest => exact ⟨ht.trans hr.1, hr.2⟩
  | succ n ih => exact ⟨ht, ih le_rfl⟩

theorem verdictsFor_self (s : Limiter Q) (h : a.key = key) :
    s.verdictsFor l key (a :: run) =
      (s.allow l a.time a.key).1 :: (s.allow l a.time a.key).2.verdictsFor l key run :=
  if_pos h

theorem verdictsFor_other (s : Limiter Q) (h : a.key ≠ key) :
    s.verdictsFor l key (a :: run) = (s.allow l a.time a.key).2.verdictsFor l key run :=
  if_neg h

/-- Of the requests of one client at one moment, only the first one can see a sweep. -/
theorem verdictsFor_replicate (h : s.KeysNodup) (t : Nat) (key : String) (n : Nat) :
    ∃ s' : Limiter Q, s'.KeysNodup ∧ s'.nextSweep = (s.sweep l t).nextSweep ∧
      s'.stored key = some ((((s.sweep l t).stored key).getD (.full l t)).after l
        (List.replicate (n + 1) t)) ∧
      ∀ rest, s.verdictsFor l key (List.replicate (n + 1) ⟨t, key⟩ ++ rest) =
        (((s.sweep l t).stored key).getD (.full l t)).verdicts l (List.replicate (n + 1) t) ++
          s'.verdictsFor l key rest := by
  induction n generalizing s with
  | zero =>
    refine ⟨(s.allow l t key).2, h.allow, rfl, ?_, fun rest => ?_⟩
    · rw [Limiter.stored_allow, if_pos rfl]
      rfl
    · exact verdictsFor_self s rfl
  | succ n ih =>
    have hs : ((s.allow l t key).2.sweep l t) = (s.allow l t key).2 :=
      Limiter.sweep_early (s.lt_nextSweep l t)
    obtain ⟨s', hd, hn, hb, hv⟩ := ih (s := (s.allow l t key).2) h.allow
    rw [hs, Limiter.stored_allow, if_pos rfl] at hb hv
    rw [hs] at hn
    refine ⟨s', hd, hn, hb, fun rest => ?_⟩
    rw [List.replicate_succ, List.cons_append, verdictsFor_self (a := ⟨t, key⟩) s rfl, hv]
    rfl

end ConditionalGateway.RateLimit
