import ConditionalGateway.Proofs.Predicate.Walking
import ConditionalGateway.Proofs.Predicate.CursorLaws

/-!
# Walks beside cursors

A walk at some place sees what a cursor in front of the tokens from that place on sees (`Stands`).
`Follows` says that a walk from there comes to what is expected of a cursor, that all its moments
are sound, and that on success it has taken each token on the way once and no end of the input.
Here that is shown of the moves, and of how they are put together.
-/

namespace ConditionalGateway.Predicate

open Walker

def cursorAt (tokens : List Placed) (i : Nat) : Cursor :=
  ⟨tokens.drop i, tokens.getLast?.getD ⟨.eof, 0⟩⟩

structure Moment.Sound (tokens : List Placed) (m : Moment) : Prop where
  pos : m.place.pos ≤ tokens.length
  depth : m.place.depth = m.around
  around : m.around ≤ maxDepth + 1

/-- A walk stands where a cursor is. -/
structure Stands (scope : Scope) (p : Place) (c : Cursor) : Prop where
  nonempty : scope.tokens ≠ []
  pos : p.pos ≤ scope.tokens.length
  depth : p.depth = scope.around
  around : scope.around ≤ maxDepth
  cursor : c = cursorAt scope.tokens p.pos

/-- A walk has come from `p` to `q`, over each token between them once. -/
structure Walked (tokens : List Placed) (p q : Place) (trace : List Moment) : Prop where
  depth : q.depth = p.depth
  forward : p.pos ≤ q.pos
  within : q.pos ≤ tokens.length
  once : taken trace = List.range' p.pos (q.pos - p.pos)
  solid : ∀ i, p.pos ≤ i → i < q.pos → (tokenAt tokens i).token ≠ .eof

/-- A walk from `p` comes to what is expected of a cursor there. -/
def Follows (scope : Scope) (p : Place) (run : Traced.Run Place Moment CompileError α)
    (expected : Except CompileError (α × Cursor)) : Prop :=
  run.Answers (Moment.Sound scope.tokens) expected fun a q trace b =>
    b = (a, cursorAt scope.tokens q.pos) ∧ Walked scope.tokens p q trace

-- ---------------------------------------------------------------------------
-- What is seen
-- ---------------------------------------------------------------------------

theorem cursorAt_next (tokens : List Placed) (i : Nat) :
    (cursorAt tokens i).next = cursorAt tokens (i + 1) := by
  simp [cursorAt, Cursor.next, List.tail_drop]

theorem length_cursorAt (tokens : List Placed) (i : Nat) :
    (cursorAt tokens i).rest.length = tokens.length - i :=
  List.length_drop

theorem peekAt_cursorAt (tokens : List Placed) (i n : Nat) :
    (cursorAt tokens i).peekAt n = tokenAt tokens (i + n) := by
  unfold Cursor.peekAt cursorAt tokenAt
  rw [List.getElem?_drop]
  by_cases h : i + n < tokens.length
  · rw [Nat.min_eq_left (by omega)]
    simp [h]
  · rw [Nat.min_eq_right (by omega), List.getElem?_eq_none (by omega), List.getLast?_eq_getElem?]
    rfl

theorem pos_cursorAt (tokens : List Placed) (i : Nat) :
    ((cursorAt tokens i).peekAt 0).pos = (tokens[i]?.or tokens.getLast?).elim 0 Placed.pos := by
  unfold Cursor.peekAt cursorAt
  rw [List.getElem?_drop]
  cases tokens[i + 0]? <;> cases tokens.getLast? <;> simp_all

theorem Cursor.next_of_end (c : Cursor) (hc : c.rest = []) : c.next = c := by
  obtain ⟨rest, last⟩ := c
  cases hc
  rfl

theorem tokenAt_length (tokens : List Placed) :
    tokenAt tokens (tokens.length - 1) = tokenAt tokens tokens.length := by
  unfold tokenAt
  congr 2
  omega

section
variable {scope : Scope} {p q : Place} {c d : Cursor} {α β : Type}

theorem peekAt_bind (h : Stands scope p c) (f : Token → Walker β) :
    (peekAt n >>= f) scope p = f (c.peekAt n).token scope p := by
  rw [h.cursor, peekAt_cursorAt]
  rfl

theorem peek_bind (h : Stands scope p c) (f : Token → Walker β) :
    (peek >>= f) scope p = f c.peek scope p :=
  peekAt_bind h f

theorem unexpected_run (hc : c = cursorAt scope.tokens p.pos) (expected : Expectation) :
    (unexpected expected : Walker α) scope p = ⟨.error (.failed (c.unexpected expected)), []⟩ := by
  subst hc
  unfold Cursor.unexpected Cursor.peek
  rw [pos_cursorAt, peekAt_cursorAt]
  rfl

-- ---------------------------------------------------------------------------
-- Walks put together
-- ---------------------------------------------------------------------------

theorem Stands.walked (h : Stands scope p c) (hw : Walked scope.tokens p q trace) :
    Stands scope q (cursorAt scope.tokens q.pos) :=
  ⟨h.nonempty, hw.within, hw.depth.trans h.depth, h.around, rfl⟩

theorem taken_append (t u : List Moment) : taken (t ++ u) = taken t ++ taken u :=
  List.filterMap_append

theorem Walked.refl (tokens : List Placed) (hp : p.pos ≤ tokens.length) : Walked tokens p p [] :=
  ⟨rfl, Nat.le_refl _, hp, by simp [taken], fun i hi hlt => by omega⟩

theorem Walked.trans {r : Place} (h : Walked tokens p q t) (h' : Walked tokens q r u) :
    Walked tokens p r (t ++ u) where
  depth := h'.depth.trans h.depth
  forward := Nat.le_trans h.forward h'.forward
  within := h'.within
  once := by
    have hpq := h.forward
    have hqr := h'.forward
    rw [taken_append, h.once, h'.once,
      show r.pos - p.pos = (q.pos - p.pos) + (r.pos - q.pos) by omega, ← List.range'_append_1,
      show p.pos + (q.pos - p.pos) = q.pos by omega]
  solid i hi hlt := by
    by_cases hq : i < q.pos
    · exact h.solid i hi hq
    · exact h'.solid i (Nat.le_of_not_lt hq) hlt

theorem Follows.pure (h : Stands scope p c) (a : α) :
    Follows scope p ((Pure.pure a : Walker α) scope p) (.ok (a, c)) := by
  obtain rfl := h.cursor
  exact Traced.Run.Answers.pure ⟨rfl, Walked.refl _ h.pos⟩

theorem Follows.failed (e : CompileError) :
    Follows scope p ((stop (.failed e) : Walker α) scope p) (.error e) :=
  Traced.Run.Answers.failed e

theorem Follows.unexpected (h : Stands scope p c) (expected : Expectation) :
    Follows scope p ((Walker.unexpected expected : Walker α) scope p)
      (.error (c.unexpected expected)) := by
  rw [unexpected_run h.cursor]
  exact Follows.failed _

theorem Follows.bind {w : Walker α} {f : α → Walker β}
    {expected : Except CompileError (α × Cursor)}
    {g : α × Cursor → Except CompileError (β × Cursor)} (h : Stands scope p c)
    (hw : Follows scope p (w scope p) expected)
    (hf : ∀ a q d, Stands scope q d → p.pos ≤ q.pos → expected = .ok (a, d) →
      Follows scope q (f a scope q) (g (a, d))) :
    Follows scope p ((w >>= f) scope p) (expected >>= g) := by
  refine Traced.Run.Answers.bind (x := w scope) (f := fun a => f a scope) hw ?_
  rintro a q t _ hok ⟨rfl, hpq⟩
  have hfollow := hf a q _ (h.walked hpq) hpq.forward hok
  refine ⟨hfollow.trace, hfollow.error, fun b hb => ?_⟩
  obtain ⟨a', r, hr, hb, hqr⟩ := hfollow.ok b hb
  exact ⟨a', r, hr, hb, hpq.trans hqr⟩

-- ---------------------------------------------------------------------------
-- Moves
-- ---------------------------------------------------------------------------

theorem advance_take (hlt : p.pos < scope.tokens.length) :
    advance scope p = ⟨.ok ((tokenAt scope.tokens p.pos).token, ⟨p.pos + 1, p.depth⟩),
      [⟨.take p.pos, ⟨p.pos + 1, p.depth⟩, scope.around⟩]⟩ := by
  simp [advance, hlt]

theorem advance_stay (hlt : ¬ p.pos < scope.tokens.length) :
    advance scope p =
      ⟨.ok ((tokenAt scope.tokens p.pos).token, p), [⟨.stay, p, scope.around⟩]⟩ := by
  simp [advance, hlt]

theorem Stands.sound (h : Stands scope p c) (m : Move) :
    Moment.Sound scope.tokens ⟨m, p, scope.around⟩ :=
  ⟨h.pos, h.depth, Nat.le_succ_of_le h.around⟩

theorem Stands.length (h : Stands scope p c) : c.rest.length = scope.tokens.length - p.pos := by
  rw [h.cursor, length_cursorAt]

theorem Stands.take (h : Stands scope p c) (hlt : p.pos < scope.tokens.length) :
    Stands scope ⟨p.pos + 1, p.depth⟩ c.next :=
  ⟨h.nonempty, hlt, h.depth, h.around, by rw [h.cursor, cursorAt_next]⟩

theorem Stands.stay (h : Stands scope p c) (hlt : ¬ p.pos < scope.tokens.length) :
    Stands scope p c.next := by
  have hnil : c.rest = [] := List.eq_nil_of_length_eq_zero (by rw [h.length]; omega)
  rwa [c.next_of_end hnil]

theorem Stands.length_next (h : Stands scope p c) (hq : Stands scope q c.next) :
    scope.tokens.length - q.pos = scope.tokens.length - p.pos - 1 := by
  rw [← hq.length, ← h.length]
  exact List.length_tail

theorem Stands.lt_of_next (h : Stands scope p c) (hq : Stands scope q c.next)
    (hne : c.rest ≠ []) : p.pos < q.pos := by
  have hpos := List.length_pos_iff.mpr hne
  have hnext := h.length_next hq
  rw [h.length] at hpos
  omega

theorem peek_eq (h : Stands scope p c) : (tokenAt scope.tokens p.pos).token = c.peek := by
  rw [h.cursor, Cursor.peek, peekAt_cursorAt]
  rfl

theorem Stands.behind (h : Stands scope p c) (hq : Stands scope q c.next) :
    scope.tokens[q.pos - 1]? = some (c.peekAt 0) := by
  have hlen := List.length_pos_iff.mpr h.nonempty
  have hp := h.pos
  have hq' := hq.pos
  have hnext := h.length_next hq
  have hindex : q.pos - 1 = min p.pos (scope.tokens.length - 1) := by omega
  have hlt : min p.pos (scope.tokens.length - 1) < scope.tokens.length := by omega
  rw [hindex, h.cursor, peekAt_cursorAt, Nat.add_zero, tokenAt, List.getElem?_eq_getElem hlt]
  rfl

theorem advance_follows (h : Stands scope p c) (ht : c.peek ≠ .eof) :
    Follows scope p (advance scope p) (.ok (c.peek, c.next)) := by
  by_cases hlt : p.pos < scope.tokens.length
  · rw [advance_take hlt, peek_eq h]
    have hq := h.take hlt
    refine ⟨?_, nofun, ?_⟩
    · simpa using hq.sound _
    · rintro _ ⟨⟩
      refine ⟨_, _, rfl, by rw [← hq.cursor], rfl, by simp, hq.pos, by simp [taken], ?_⟩
      intro i hi hlt'
      obtain rfl : i = p.pos := by simp at hlt'; omega
      rwa [peek_eq h]
  · rw [advance_stay hlt, peek_eq h]
    have hq := h.stay hlt
    refine ⟨?_, nofun, ?_⟩
    · simpa using h.sound _
    · rintro _ ⟨⟩
      refine ⟨_, _, rfl, by rw [← hq.cursor], rfl, Nat.le_refl _, h.pos, by simp [taken], ?_⟩
      intro i hi hlt'
      omega

theorem Follows.advance {f : Token → Walker β} {expected : Except CompileError (β × Cursor)}
    (h : Stands scope p c) (ht : c.peek ≠ .eof)
    (hf : ∀ q, Stands scope q c.next → p.pos ≤ q.pos →
      Follows scope q (f c.peek scope q) expected) :
    Follows scope p ((Walker.advance >>= f) scope p) expected := by
  refine Follows.bind (g := fun _ => expected) h (advance_follows h ht) ?_
  rintro _ q _ hq hle ⟨⟩
  exact hf q hq hle

theorem reject_run (hp : p.pos ≠ 0) (expected : Expectation) :
    (reject expected : Walker α) scope p =
      ⟨.error (.failed ((cursorAt scope.tokens (p.pos - 1)).unexpected expected)),
        [⟨.retreat, ⟨p.pos - 1, p.depth⟩, scope.around⟩]⟩ := by
  have herr : (unexpected expected : Walker α) scope ⟨p.pos - 1, p.depth⟩ = _ :=
    unexpected_run rfl expected
  simp [reject, retreat, hp, herr]

/-- Whatever has just been advanced over, there is a token to step back to, and it is the one that
was not expected. -/
theorem Follows.reject {f : Token → Walker β} (h : Stands scope p c)
    (hf : f c.peek = Walker.reject expected) :
    Follows scope p ((Walker.advance >>= f) scope p) (.error (c.unexpected expected)) := by
  by_cases hlt : p.pos < scope.tokens.length
  · have hrun : (Walker.advance >>= f) scope p = ⟨.error (.failed (c.unexpected expected)),
        [⟨.take p.pos, ⟨p.pos + 1, p.depth⟩, scope.around⟩, ⟨.retreat, p, scope.around⟩]⟩ := by
      simp [advance_take hlt, peek_eq h, hf, reject_run, ← h.cursor]
    rw [hrun]
    refine ⟨?_, ?_, nofun⟩
    · simpa using ⟨(h.take hlt).sound _, h.sound _⟩
    · rintro _ ⟨⟩
      rfl
  · -- the walk has not moved, and the token before it is the one that it sees
    have hlen := List.length_pos_iff.mpr h.nonempty
    have hpos : p.pos = scope.tokens.length := Nat.le_antisymm h.pos (Nat.le_of_not_lt hlt)
    have hne : p.pos ≠ 0 := by omega
    have hback : (cursorAt scope.tokens (p.pos - 1)).unexpected expected =
        c.unexpected expected := by
      unfold Cursor.unexpected Cursor.peek
      rw [h.cursor, peekAt_cursorAt, peekAt_cursorAt, hpos, Nat.add_zero, Nat.add_zero,
        tokenAt_length]
    have hrun : (Walker.advance >>= f) scope p = ⟨.error (.failed (c.unexpected expected)),
        [⟨.stay, p, scope.around⟩, ⟨.retreat, ⟨p.pos - 1, p.depth⟩, scope.around⟩]⟩ := by
      simp [advance_stay hlt, peek_eq h, hf, reject_run hne, hback]
    rw [hrun]
    refine ⟨?_, ?_, nofun⟩
    · have hsound := h.sound .retreat
      simpa using ⟨h.sound _, ⟨Nat.le_trans (Nat.sub_le ..) h.pos, hsound.depth, hsound.around⟩⟩
    · rintro _ ⟨⟩
      rfl

theorem require_follows (h : Stands scope p c) (his : is .eof = false) :
    Follows scope p (require expected is scope p)
      (c.expect expected is >>= fun d => .ok ((), d)) := by
  unfold require Cursor.expect
  by_cases hc : is c.peek = true
  · rw [if_pos hc]
    refine Follows.advance h (fun he => ?_) fun q hq _ => ?_
    · rw [he, his] at hc
      cases hc
    · rw [if_pos hc]
      exact Follows.pure hq ()
  · rw [if_neg hc]
    exact Follows.reject h (if_neg hc)

theorem Follows.require {f : Unit → Walker β} {g : Cursor → Except CompileError (β × Cursor)}
    (h : Stands scope p c) (his : is .eof = false)
    (hf : ∀ q d, Stands scope q d → Follows scope q (f () scope q) (g d)) :
    Follows scope p ((Walker.require expected is >>= f) scope p)
      (c.expect expected is >>= g) := by
  have hreq : Follows scope p (Walker.require expected is scope p) _ := require_follows h his
  have hb := Follows.bind (f := f) (g := fun x => g x.2) h hreq fun _ q d hq _ _ => hf q d hq
  cases hc : c.expect expected is <;> rw [hc] at hb <;> exact hb

theorem Stands.exists_next (h : Stands scope p c) : ∃ q, Stands scope q c.next := by
  by_cases hlt : p.pos < scope.tokens.length
  · exact ⟨_, h.take hlt⟩
  · exact ⟨p, h.stay hlt⟩

theorem check_follows (h : Stands scope p c) (x : Except CompileError α) :
    Follows scope p (check x scope p) (x >>= fun a => .ok (a, c)) := by
  cases x with
  | error e => exact Follows.failed e
  | ok a => exact Follows.pure h a

-- ---------------------------------------------------------------------------
-- Turns of a loop
-- ---------------------------------------------------------------------------

section
variable {w : Walker α} {x : Except CompileError (α × Cursor)}

/-- A turn that is announced at the end of the row fails, so one that succeeds takes a token. -/
theorem Stands.lt_of_turn (h : Stands scope p c) (hend : c.rest = [] → ∃ e, x = .error e)
    (hq : Stands scope q c.next) (hok : x = .ok (a, d)) : p.pos < q.pos := by
  refine h.lt_of_next hq fun hnil => ?_
  obtain ⟨e, he⟩ := hend hnil
  cases hok.symm.trans he

theorem Follows.turn_shorter (h : Stands scope p c) (hend : c.rest = [] → ∃ e, x = .error e)
    (hw : ∀ q, Stands scope q c.next → Follows scope q (w scope q) x) (hok : x = .ok (a, d)) :
    d.rest.length < c.rest.length := by
  obtain ⟨q, hq⟩ := h.exists_next
  have hlt := h.lt_of_turn hend hq hok
  obtain ⟨b, r, -, hd, hqr⟩ := (hw q hq).ok _ hok
  obtain ⟨-, rfl⟩ := Prod.mk.inj hd
  have hforward := hqr.forward
  have hwithin := hqr.within
  rw [length_cursorAt, h.length]
  omega

theorem Follows.turn {f : α → Walker β} {g : α × Cursor → Except CompileError (β × Cursor)}
    (h : Stands scope p c) (ht : c.peek ≠ .eof) (hend : c.rest = [] → ∃ e, x = .error e)
    (hw : ∀ q, Stands scope q c.next → Follows scope q (w scope q) x)
    (hf : ∀ a r d, Stands scope r d → p.pos < r.pos → Follows scope r (f a scope r) (g (a, d))) :
    Follows scope p ((Walker.advance >>= fun _ => w >>= f) scope p) (x >>= g) := by
  refine Follows.advance h ht fun q hq _ => Follows.bind hq (hw q hq) fun a r d hr hqr hok => ?_
  exact hf a r d hr (Nat.lt_of_lt_of_le (h.lt_of_turn hend hq hok) hqr)

end

-- ---------------------------------------------------------------------------
-- Groups and negations
-- ---------------------------------------------------------------------------

def Scope.deeper (scope : Scope) : Scope := { scope with around := scope.around + 1 }

theorem Stands.deeper (h : Stands scope p c) (hlt : scope.around < maxDepth) :
    Stands scope.deeper ⟨p.pos, p.depth + 1⟩ c :=
  ⟨h.nonempty, h.pos, congrArg (· + 1) h.depth, hlt, h.cursor⟩

/-- A reader inside a group or a negation leaves the count as it was before. -/
theorem nested_follows {w : Walker α} {expected : Except CompileError (α × Cursor)}
    (h : Stands scope p c) (hlt : scope.around < maxDepth)
    (hw : ∀ q, Stands scope.deeper q c → Follows scope.deeper q (w scope.deeper q) expected) :
    Follows scope p (nested w scope p) expected := by
  have hq := h.deeper hlt
  have hin := hw _ hq
  have hopen : Moment.Sound scope.tokens ⟨.enter, ⟨p.pos, p.depth + 1⟩, scope.around + 1⟩ :=
    hq.sound .enter
  have henter : inside enter scope p = ⟨.ok ((), ⟨p.pos, p.depth + 1⟩),
      [⟨.enter, ⟨p.pos, p.depth + 1⟩, scope.around + 1⟩]⟩ := by
    simp [inside, enter, h.depth, Nat.not_lt.mpr (Nat.succ_le_of_lt hlt)]
  have hinside : inside w scope = w scope.deeper := rfl
  generalize hrun : w scope.deeper ⟨p.pos, p.depth + 1⟩ = run at hin
  obtain ⟨result, trace⟩ := run
  cases expected with
  | error e =>
    obtain rfl := hin.error e rfl
    have hnested : nested w scope p = ⟨.error (.failed e),
        ⟨.enter, ⟨p.pos, p.depth + 1⟩, scope.around + 1⟩ :: trace⟩ := by
      simp [nested, henter, hinside, hrun]
    rw [hnested]
    refine ⟨List.forall_mem_cons.mpr ⟨hopen, hin.trace⟩, ?_, nofun⟩
    rintro _ ⟨⟩
    rfl
  | ok b =>
    obtain ⟨a, r, rfl, rfl, hqr⟩ := hin.ok b rfl
    have hdepth : r.depth = p.depth + 1 := hqr.depth
    have hnested : nested w scope p = ⟨.ok (a, ⟨r.pos, p.depth⟩),
        ⟨.enter, ⟨p.pos, p.depth + 1⟩, scope.around + 1⟩ :: (trace ++
          [⟨.leave, ⟨r.pos, p.depth⟩, scope.around⟩])⟩ := by
      simp [nested, henter, hinside, hrun, leave, hdepth]
    have hclosed : Moment.Sound scope.tokens ⟨.leave, ⟨r.pos, p.depth⟩, scope.around⟩ :=
      ⟨hqr.within, h.depth, Nat.le_succ_of_le h.around⟩
    rw [hnested]
    refine ⟨?_, nofun, ?_⟩
    · rw [List.forall_mem_cons, List.forall_mem_append, List.forall_mem_singleton]
      exact ⟨hopen, hin.trace, hclosed⟩
    · rintro _ ⟨⟩
      refine ⟨a, _, rfl, rfl, rfl, hqr.forward, hqr.within, ?_, hqr.solid⟩
      have honce := hqr.once
      simpa [taken] using honce

theorem nested_tooDeep {w : Walker α} (h : Stands scope p c) (hmax : scope.around = maxDepth) :
    Follows scope p (nested w scope p) (.error (.tooDeep maxDepth)) := by
  have hrun : nested w scope p = ⟨.error (.failed (.tooDeep maxDepth)),
      [⟨.enter, ⟨p.pos, p.depth + 1⟩, scope.around + 1⟩]⟩ := by
    simp [nested, inside, enter, h.depth, hmax]
  rw [hrun]
  refine ⟨?_, ?_, nofun⟩
  · simpa using ⟨h.pos, congrArg (· + 1) h.depth, Nat.succ_le_succ h.around⟩
  · rintro _ ⟨⟩
    rfl

end

end ConditionalGateway.Predicate
