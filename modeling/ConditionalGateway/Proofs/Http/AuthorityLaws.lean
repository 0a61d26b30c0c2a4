import ConditionalGateway.Http.Target
import ConditionalGateway.Proofs.ExceptLaws
import Mathlib

/-!
# Scanning authorities

What a scan makes of the characters of an authority: it passes most of them,
counts colons, and stops at one that no authority has.
-/

namespace ConditionalGateway.Http

/-- A character that a scan passes. -/
structure IsPlain (c : Char) : Prop where
  allowed : isAuthorityChar c = true
  sign : c ≠ ':' ∧ c ≠ '[' ∧ c ≠ ']' ∧ c ≠ '@'

/-- A character that a scan stops at, wherever it stands. -/
structure IsStray (c : Char) : Prop where
  barred : isAuthorityChar c = false
  percent : c ≠ '%'

namespace AuthorityScan

theorem step_plain (s : AuthorityScan) (h : IsPlain c) :
    s.step c = .ok { s with endsWithAt := false } := by
  obtain ⟨hallowed, hcolon, hopen, hclose, hat⟩ := h
  have hpercent : c ≠ '%' := by
    rintro rfl
    exact absurd hallowed (by decide)
  simp [step, hallowed, hcolon, hopen, hclose, hat, hpercent]

theorem step_stray (s : AuthorityScan) (h : IsStray c) : s.step c = .error .invalidChar := by
  obtain ⟨hbarred, hpercent⟩ := h
  have hsign : c ≠ ':' ∧ c ≠ '[' ∧ c ≠ ']' ∧ c ≠ '@' := by
    refine ⟨?_, ?_, ?_, ?_⟩ <;> rintro rfl <;> exact absurd hbarred (by decide)
  simp [step, hbarred, hpercent, hsign]

theorem scan_groups {s : AuthorityScan} {cs : List Char} (hs : s.endsWithAt = false)
    (h : ∀ c ∈ cs, IsPlain c ∨ c = ':') (hn : s.colons + cs.count ':' ≤ 8) :
    cs.foldlM step s = .ok { s with colons := s.colons + cs.count ':' } := by
  induction cs generalizing s with
  | nil => rfl
  | cons c cs ih =>
    obtain ⟨hc, hcs⟩ := List.forall_mem_cons.mp h
    rw [List.foldlM_cons]
    obtain hc | rfl := hc
    · have hcount : (c :: cs).count ':' = cs.count ':' := List.count_cons_of_ne hc.sign.1
      rw [hcount] at hn ⊢
      rw [s.step_plain hc]
      have hself : { s with endsWithAt := false } = s := by rw [← hs]
      rw [hself]
      exact ih hs hcs hn
    · rw [List.count_cons_self] at hn ⊢
      have hstep : s.step ':' = .ok { s with colons := s.colons + 1, endsWithAt := false } := by
        rw [step, if_pos rfl, if_neg (by omega)]
      rw [hstep]
      have hrest := ih (s := { s with colons := s.colons + 1, endsWithAt := false }) rfl hcs
        (by dsimp only; omega)
      refine hrest.trans ?_
      simp [hs, Nat.add_assoc, Nat.add_comm 1]

theorem scan_plain {s : AuthorityScan} {cs : List Char} (hs : s.endsWithAt = false)
    (hn : s.colons ≤ 8) (h : ∀ c ∈ cs, IsPlain c) : cs.foldlM step s = .ok s := by
  have hcount : cs.count ':' = 0 := List.count_eq_zero_of_not_mem fun hc => (h _ hc).sign.1 rfl
  have hscan := scan_groups hs (fun c hc => .inl (h c hc)) (by rwa [hcount])
  rwa [hcount] at hscan

theorem scan_stray (s : AuthorityScan) (h : ∀ c ∈ cs, IsPlain c ∨ IsStray c)
    (hex : ∃ c ∈ cs, IsStray c) (more : List Char) :
    (cs ++ more).foldlM step s = .error .invalidChar := by
  induction cs generalizing s with
  | nil => simp at hex
  | cons c cs ih =>
    obtain ⟨hc, h⟩ := List.forall_mem_cons.mp h
    rw [List.cons_append, List.foldlM_cons]
    obtain hc | hc := hc
    · rw [s.step_plain hc]
      have hrest : ∃ c ∈ cs, IsStray c := by
        obtain ⟨d, hd, hstray⟩ := hex
        obtain rfl | hd := List.mem_cons.mp hd
        · exact absurd hc.allowed (Bool.eq_false_iff.mp hstray.barred)
        · exact ⟨d, hd, hstray⟩
      exact ih _ h hrest
    · rw [s.step_stray hc]
      rfl

end AuthorityScan

/-- An authority is checked by scanning it, if nothing in it ends it. -/
theorem checkAuthority_eq (hne : text ≠ "") (h : ∀ c ∈ text.toList, endsAuthority c = false) :
    checkAuthority text = text.toList.foldlM AuthorityScan.step {} >>= fun s =>
      if s.opened ≠ s.closed || 1 < s.colons || s.endsWithAt || s.percent then
        .error .invalidAuthority
      else .ok () := by
  have hp : ∀ c ∈ text.toList, (!endsAuthority c) = true := by
    intro c hc
    rw [h c hc]
    rfl
  have htake : text.toList.takeWhile (fun c => !endsAuthority c) = text.toList :=
    List.takeWhile_eq_self_iff.mpr hp
  have hdrop : text.toList.dropWhile (fun c => !endsAuthority c) = [] :=
    List.dropWhile_eq_nil_iff.mpr hp
  have hempty : text.isEmpty = false := by simpa using hne
  simp only [checkAuthority, hempty, splitAuthority, htake, hdrop]
  cases text.toList.foldlM AuthorityScan.step {} with
  | error e => rfl
  | ok s =>
    show (if _ then _ else _ : Except TargetError _) >>= _ = if _ then _ else _
    split <;> rfl

end ConditionalGateway.Http
