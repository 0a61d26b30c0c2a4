import ConditionalGateway.Proofs.RateLimit.LimiterLaws

/-!
# What a limiter keeps

`retention`: behind every request of a run, a client that came within the idle
time has its bucket, as of its latest request, and no bucket is older than the
idle time and the time between two sweeps together. Requests that set off a sweep
are at least that time apart, whoever sends them. What makes a request one of
those is what it does to the limiter (`Limiter.Sweeps`), not the time at which
it comes.

The deadline of the next sweep ties the two sides together. It lies no further
ahead than one interval, and no bucket is left behind it by more than the idle
time and one interval (`Limiter.Retains`).
-/

namespace ConditionalGateway.RateLimit

variable {Q : Type} [Amount Q] {l : Limits} {s : Limiter Q}

def latest (run : List Arrival) (key : String) : Option Nat := (timesOf key run).getLast?

def Limiter.after (l : Limits) (s : Limiter Q) (run : List Arrival) : Limiter Q :=
  run.foldl (fun s a => (s.allow l a.time a.key).2) s

/-- A request sets off a sweep: it moves the deadline, or changes what is stored of another client
than its own. -/
def Limiter.Sweeps (l : Limits) (s : Limiter Q) (a : Arrival) : Prop :=
  (s.allow l a.time a.key).2.nextSweep ≠ s.nextSweep ∨
    ∃ key ≠ a.key, (s.allow l a.time a.key).2.stored key ≠ s.stored key

theorem latest_concat (run : List Arrival) (a : Arrival) (key : String) :
    latest (run ++ [a]) key = if key = a.key then some a.time else latest run key := by
  by_cases h : key = a.key
  · simp [latest, timesOf, h]
  · simp [latest, timesOf, h, Ne.symm h]

theorem Limiter.after_concat (s : Limiter Q) (run : List Arrival) (a : Arrival) :
    s.after l (run ++ [a]) = ((s.after l run).allow l a.time a.key).2 := by
  simp [after]

theorem Limiter.after_append (s : Limiter Q) (run run' : List Arrival) :
    s.after l (run ++ run') = (s.after l run).after l run' :=
  List.foldl_append ..

theorem Chronological.of_append (h : Chronological now (run ++ run')) : Chronological now run := by
  induction run generalizing now with
  | nil => trivial
  | cons a run ih => exact ⟨h.1, ih h.2⟩

theorem chronological_concat (h : Chronological now (run ++ [a])) :
    Chronological now run ∧ now ≤ a.time ∧ ∀ b ∈ run, b.time ≤ a.time := by
  induction run generalizing now with
  | nil => exact ⟨trivial, h.1, by simp⟩
  | cons b run ih =>
    obtain ⟨hb, hrun⟩ := h
    obtain ⟨hc, hle, hall⟩ := ih hrun
    exact ⟨⟨hb, hc⟩, hb.trans hle, by simpa using ⟨hle, hall⟩⟩

-- ---------------------------------------------------------------------------
-- Buckets
-- ---------------------------------------------------------------------------

/-- What a limiter stores by now, if `last` tells when each client came last. -/
structure Limiter.Retains (l : Limits) (now : Nat) (s : Limiter Q) (last : String → Option Nat) :
    Prop where
  nodup : s.KeysNodup
  /-- A bucket is as of the latest request of its client. -/
  updated : ∀ key b, s.stored key = some b → last key = some b.updated
  /-- Who came within the idle time has a bucket. -/
  stored : ∀ key u, last key = some u → u ≤ now ∧
    (now - u < l.idleAfter Q → ∃ b, s.stored key = some b)
  deadline : s.nextSweep ≤ now + l.sweepInterval Q
  recent : ∀ key b, s.stored key = some b →
    s.nextSweep ≤ b.updated + l.idleAfter Q + l.sweepInterval Q

theorem Limiter.retains_start (l : Limits) (now : Nat) :
    (Limiter.start l now : Limiter Q).Retains l now fun _ => none :=
  ⟨List.nodup_nil, nofun, nofun, le_rfl, nofun⟩

theorem Limiter.Retains.mono (h : s.Retains l now last) (ht : now ≤ t) : s.Retains l t last := by
  refine { h with stored := fun key u hu => ?_, deadline := h.deadline.trans (by omega) }
  obtain ⟨hle, hs⟩ := h.stored key u hu
  exact ⟨hle.trans ht, fun hidle => hs (by omega)⟩

theorem Limiter.Retains.sweep (h : s.Retains l t last) : (s.sweep l t).Retains l t last := by
  obtain hd | hd := lt_or_ge t s.nextSweep
  · rwa [sweep_early hd]
  · have hstored := stored_sweep (l := l) h.nodup hd
    have hnext : (s.sweep l t).nextSweep = t + l.sweepInterval Q := nextSweep_sweep hd
    -- a bucket that is left was there before, and its client came within the idle time
    have hkept (key : String) (b : Bucket Q) (hb : (s.sweep l t).stored key = some b) :
        s.stored key = some b ∧ t - b.updated < l.idleAfter Q := by
      simpa [hstored, Option.filter_eq_some_iff] using hb
    refine ⟨h.nodup.sweep, fun key b hb => h.updated key b (hkept key b hb).1, ?_, hnext.le, ?_⟩
    · intro key u hu
      obtain ⟨hle, hs⟩ := h.stored key u hu
      refine ⟨hle, fun hidle => ?_⟩
      obtain ⟨b, hb⟩ := hs hidle
      obtain rfl : b.updated = u := Option.some.inj ((h.updated key b hb).symm.trans hu)
      exact ⟨b, by simp [hstored, hb, Option.filter, hidle]⟩
    · intro key b hb
      have hidle := (hkept key b hb).2
      omega

theorem Limiter.Retains.allow (h : s.Retains l t last) (k : String) :
    (s.allow l t k).2.Retains l t fun key => if key = k then some t else last key := by
  have hs := h.sweep
  refine ⟨h.nodup.allow, fun key b hb => ?_, fun key u hu => ?_, hs.deadline, fun key b hb => ?_⟩
  · rw [stored_allow] at hb
    split at hb
    · rename_i hk
      obtain rfl := Option.some.inj hb
      rw [if_pos hk, Bucket.take_updated]
    · rename_i hk
      rw [if_neg hk]
      exact hs.updated key b hb
  · rw [stored_allow]
    split at hu
    · rename_i hk
      cases hu
      exact ⟨le_rfl, fun _ => ⟨_, if_pos hk⟩⟩
    · rename_i hk
      rw [if_neg hk]
      exact hs.stored key u hu
  · rw [stored_allow] at hb
    rw [nextSweep_allow]
    split at hb
    · obtain rfl := Option.some.inj hb
      have hd := hs.deadline
      rw [Bucket.take_updated]
      omega
    · exact hs.recent key b hb

theorem Limiter.retains_after (hc : Chronological now run) (ht : ∀ a ∈ run, a.time ≤ t)
    (hnow : now ≤ t) :
    ((Limiter.start l now : Limiter Q).after l run).Retains l t (latest run) := by
  induction run using List.reverseRecOn generalizing t with
  | nil => exact (retains_start l now).mono hnow
  | append_singleton run a ih =>
    obtain ⟨hrun, hle, hall⟩ := chronological_concat hc
    have ha := (ih hrun hall hle).allow a.key
    rw [after_concat, funext (latest_concat run a)]
    exact ha.mono (ht a (by simp))

-- ---------------------------------------------------------------------------
-- Sweeps
-- ---------------------------------------------------------------------------

theorem Limiter.sweeps_iff : s.Sweeps l a ↔ s.nextSweep ≤ a.time := by
  constructor
  · intro h
    by_contra hd
    have hsweep : s.sweep l a.time = s := sweep_early (Nat.lt_of_not_le hd)
    obtain hnext | ⟨key, hkey, hstored⟩ := h
    · exact hnext (by rw [nextSweep_allow, hsweep])
    · exact hstored (by rw [stored_allow, if_neg hkey, hsweep])
  · intro hd
    have hlt : a.time < (s.allow l a.time a.key).2.nextSweep := s.lt_nextSweep l a.time
    exact .inl (hd.trans_lt hlt).ne'

theorem Limiter.nextSweep_le_after (s : Limiter Q) (run : List Arrival) :
    s.nextSweep ≤ (s.after l run).nextSweep := by
  induction run generalizing s with
  | nil => exact le_rfl
  | cons a run ih => exact (s.nextSweep_le l a.time).trans (ih (s.allow l a.time a.key).2)

theorem Limiter.Sweeps.apart (ha : s.Sweeps l a) (hb : (s.after l (a :: between)).Sweeps l b) :
    a.time + l.sweepInterval Q ≤ b.time :=
  calc a.time + l.sweepInterval Q = (s.allow l a.time a.key).2.nextSweep :=
        (nextSweep_sweep (sweeps_iff.mp ha)).symm
    _ ≤ (s.after l (a :: between)).nextSweep := nextSweep_le_after _ between
    _ ≤ b.time := sweeps_iff.mp hb

-- ---------------------------------------------------------------------------
-- Whole runs
-- ---------------------------------------------------------------------------

/-- Behind every request of a run, whoever came within the idle time has a bucket as of the latest
request, and every bucket is as of a latest request and not too old. Any two requests that set off
a sweep are at least an idle time, and at least a second, apart. -/
theorem retention (hc : Chronological start run) :
    (∀ front a, front ++ [a] <+: run →
      (∀ key u, latest (front ++ [a]) key = some u → a.time - u < l.idleAfter Q →
        ∃ b, ((Limiter.start l start : Limiter Q).after l (front ++ [a])).stored key = some b ∧
          b.updated = u) ∧
      ∀ key b, ((Limiter.start l start : Limiter Q).after l (front ++ [a])).stored key = some b →
        latest (front ++ [a]) key = some b.updated ∧
          a.time < b.updated + l.idleAfter Q + max (l.idleAfter Q) second) ∧
    ∀ front a between b, front ++ a :: (between ++ [b]) <+: run →
      ((Limiter.start l start : Limiter Q).after l front).Sweeps l a →
      ((Limiter.start l start : Limiter Q).after l (front ++ a :: between)).Sweeps l b →
      a.time + max (l.idleAfter Q) second ≤ b.time := by
  refine ⟨?_, fun front a between b _ ha hb => ?_⟩
  · rintro front a ⟨back, rfl⟩
    obtain ⟨hle, hfront⟩ := chronological_concat hc.of_append
    have ha : ((Limiter.start l start : Limiter Q).after l (front ++ [a])).Retains l a.time
        (latest (front ++ [a])) := by
      exact Limiter.retains_after hc.of_append
        (List.forall_mem_append.mpr ⟨hfront.2, by simp⟩) hfront.1
    have hnext :
        a.time < ((Limiter.start l start : Limiter Q).after l (front ++ [a])).nextSweep := by
      rw [Limiter.after_concat, Limiter.nextSweep_allow]
      exact Limiter.lt_nextSweep ..
    refine ⟨fun key u hu hidle => ?_, fun key b hb => ⟨ha.updated key b hb, ?_⟩⟩
    · obtain ⟨b, hb⟩ := (ha.stored key u hu).2 hidle
      exact ⟨b, hb, Option.some.inj ((ha.updated key b hb).symm.trans hu)⟩
    · exact hnext.trans_le (ha.recent key b hb)
  · rw [Limiter.after_append] at hb
    exact ha.apart hb

/-- Four clients, the last two of which come when a sweep is due. -/
def sweptTwice : List Arrival :=
  [⟨0, "a"⟩, ⟨500000000, "b"⟩, ⟨1200000000, "c"⟩, ⟨2500000000, "d"⟩]

theorem retention_sweptTwice : Chronological 0 sweptTwice ∧
    (∃ b, ((Limiter.start ⟨1, 1, none⟩ 0 : Limiter Float).after ⟨1, 1, none⟩
      [⟨0, "a"⟩, ⟨500000000, "b"⟩, ⟨1200000000, "c"⟩]).stored "b" = some b ∧
      b.updated = 500000000) ∧
    1200000000 + max ((Limits.mk 1 1 none).idleAfter Float) second ≤ 2500000000 := by
  have hc : Chronological 0 sweptTwice := ⟨by decide, by decide, by decide, by decide, trivial⟩
  have hidle : (Limits.mk 1 1 none).idleAfter Float = second := by decide +kernel
  obtain ⟨hkept, hapart⟩ := retention (Q := Float) (l := ⟨1, 1, none⟩) hc
  obtain ⟨hstored, -⟩ := hkept [⟨0, "a"⟩, ⟨500000000, "b"⟩] ⟨1200000000, "c"⟩
    ⟨[⟨2500000000, "d"⟩], rfl⟩
  have hswept := hapart [⟨0, "a"⟩, ⟨500000000, "b"⟩] ⟨1200000000, "c"⟩ [] ⟨2500000000, "d"⟩
    List.prefix_rfl (Limiter.sweeps_iff.mpr (by decide +kernel))
    (Limiter.sweeps_iff.mpr (by decide +kernel))
  exact ⟨hc, hstored "b" 500000000 rfl (by rw [hidle]; decide), by simpa only using hswept⟩

end ConditionalGateway.RateLimit
