import ConditionalGateway.Proofs.Predicate.CursorLaws
import Mathlib

/-!
# Where tokens stand

The parser gives the same for tokens that stand elsewhere: the same expression,
or an error of the same kind (`parse_agree`). What stands in a cursor
matters only by its tokens (`Cursor.Like`), so each function of the parser takes
cursors that are alike to results that agree.
-/

namespace ConditionalGateway.Predicate

-- ---------------------------------------------------------------------------
-- Results that agree
-- ---------------------------------------------------------------------------

/-- An error without what depends on where things stand in a source and how indices and selectors
are spelled there. -/
def CompileError.kind : CompileError → CompileError
  | .unexpectedChar c _ => .unexpectedChar c 0
  | .unterminatedString _ => .unterminatedString 0
  | .invalidEscape c _ => .invalidEscape c 0
  | .invalidNumber text _ => .invalidNumber text 0
  | .unexpectedToken .index _ _ => .unexpectedToken .index "" 0
  | .unexpectedToken expected found _ => .unexpectedToken expected found 0
  | .unknownField _ => .unknownField ""
  | e => e

/-- Two results are related, or both are errors of one kind. -/
inductive Agree (R : α → β → Prop) : Except CompileError α → Except CompileError β → Prop
  | ok : R a b → Agree R (.ok a) (.ok b)
  | error : e.kind = e'.kind → Agree R (.error e) (.error e')

theorem Agree.refl {R : α → α → Prop} (hR : ∀ a, R a a) (x : Except CompileError α) :
    Agree R x x := by
  cases x with
  | ok a => exact .ok (hR a)
  | error e => exact .error rfl

theorem Agree.of_ok {y : Except CompileError β} (h : Agree R (.ok a) y) :
    ∃ b, y = .ok b ∧ R a b := by
  cases h with
  | ok hab => exact ⟨_, rfl, hab⟩

theorem Agree.of_error {y : Except CompileError β} (h : Agree R (.error e) y) :
    ∃ e', y = .error e' ∧ e.kind = e'.kind := by
  cases h with
  | error he => exact ⟨_, rfl, he⟩

theorem Agree.bind {x : Except CompileError α} {y : Except CompileError β}
    {f : α → Except CompileError γ} {g : β → Except CompileError δ} (h : Agree R x y)
    (hf : ∀ a b, R a b → Agree S (f a) (g b)) : Agree S (x >>= f) (y >>= g) := by
  cases h with
  | ok hab => exact hf _ _ hab
  | error he => exact .error he

-- ---------------------------------------------------------------------------
-- Cursors that are alike
-- ---------------------------------------------------------------------------

structure Cursor.Like (c d : Cursor) : Prop where
  tokens : c.tokens = d.tokens
  last : c.last.token = d.last.token

namespace Cursor.Like

variable {c d : Cursor}

theorem peekAt (h : c.Like d) (n : Nat) : (c.peekAt n).token = (d.peekAt n).token := by
  have hget : ∀ c : Cursor, (c.peekAt n).token = (c.tokens[n]?).getD c.last.token := by
    intro c
    rw [Cursor.peekAt, Cursor.tokens, List.getElem?_map]
    cases c.rest[n]? <;> rfl
  rw [hget, hget, h.tokens, h.last]

theorem peek (h : c.Like d) : c.peek = d.peek := h.peekAt 0

theorem next (h : c.Like d) : c.next.Like d.next := by
  refine ⟨?_, h.last⟩
  have htail := congrArg List.tail h.tokens
  simpa [Cursor.tokens, Cursor.next] using htail

theorem length (h : c.Like d) : c.rest.length = d.rest.length := by
  have hlen := congrArg List.length h.tokens
  simpa [Cursor.tokens] using hlen

theorem unexpected (h : c.Like d) (expected : Expectation) :
    (c.unexpected expected).kind = (d.unexpected expected).kind := by
  rw [Cursor.unexpected, Cursor.unexpected, h.peek]
  cases expected <;> rfl

end Cursor.Like

def SameRead (p q : α × Cursor) : Prop := p.1 = q.1 ∧ p.2.Like q.2

section

variable {c d : Cursor}

theorem Cursor.expect_agree (h : c.Like d) (expected : Expectation) (is : Token → Bool) :
    Agree Cursor.Like (c.expect expected is) (d.expect expected is) := by
  unfold Cursor.expect
  rw [h.peek]
  split
  · exact .ok h.next
  · exact .error (h.unexpected _)

-- ---------------------------------------------------------------------------
-- Selectors
-- ---------------------------------------------------------------------------

theorem parseLiteral_agree (h : c.Like d) : Agree SameRead (parseLiteral c) (parseLiteral d) := by
  unfold parseLiteral
  rw [h.peek]
  cases d.peek.literal? with
  | some l => exact .ok ⟨rfl, h.next⟩
  | none => exact .error (h.unexpected _)

/-- How an index is spelled and where it stands does not tell in the kind of an error. -/
theorem parseIndex_agree (c d : Cursor)
    (h : Decimal.readNat? maxIndex raw.toList = Decimal.readNat? maxIndex raw'.toList) :
    Agree Eq (parseIndex c raw) (parseIndex d raw') := by
  unfold parseIndex
  rw [h]
  cases Decimal.readNat? maxIndex raw'.toList with
  | some n => exact .ok rfl
  | none => exact .error rfl

theorem parseDotted_agree (h : c.Like d) : Agree SameRead (parseDotted c) (parseDotted d) := by
  unfold parseDotted
  rw [h.peek]
  cases d.peek with
  | ident name => exact .ok ⟨rfl, h.next⟩
  | number x raw =>
    refine (parseIndex_agree c d rfl).bind ?_
    rintro n _ rfl
    exact .ok ⟨rfl, h.next⟩
  | _ => exact .error (h.unexpected _)

theorem parseKey_agree (h : c.Like d) : Agree Eq (parseKey c) (parseKey d) := by
  unfold parseKey
  rw [h.peek]
  cases d.peek with
  | str key => exact .ok rfl
  | number x raw =>
    refine (parseIndex_agree c d rfl).bind ?_
    rintro n _ rfl
    exact .ok rfl
  | _ => exact .error (h.unexpected _)

theorem parseBracketed_agree (h : c.Like d) :
    Agree SameRead (parseBracketed c) (parseBracketed d) := by
  refine (parseKey_agree h).bind ?_
  rintro s _ rfl
  exact (Cursor.expect_agree h.next _ _).bind fun _ _ h => .ok ⟨rfl, h⟩

theorem parseSegment?_agree (h : c.Like d) :
    Option.Rel (Agree SameRead) (parseSegment? c) (parseSegment? d) := by
  unfold parseSegment?
  rw [h.peek]
  cases d.peek with
  | dot => exact .some (parseDotted_agree h.next)
  | lbracket => exact .some (parseBracketed_agree h.next)
  | _ => exact .none

theorem parseSegment?_some (h : c.Like d) (hx : parseSegment? c = some x) :
    ∃ y, parseSegment? d = some y ∧ Agree SameRead x y := by
  have hy := parseSegment?_agree h
  rw [hx] at hy
  generalize parseSegment? d = y at hy
  cases hy with
  | some hy => exact ⟨_, rfl, hy⟩

theorem parseSegment?_none (h : c.Like d) (hx : parseSegment? c = none) :
    parseSegment? d = none := by
  have hy := parseSegment?_agree h
  rw [hx] at hy
  generalize parseSegment? d = y at hy
  cases hy
  rfl

theorem parseSegments_agree (h : c.Like d) : Agree SameRead (parseSegments c) (parseSegments d) := by
  fun_induction parseSegments c generalizing d with
  | case1 c hn =>
    rw [parseSegments, parseSegment?_none h hn]
    exact .ok ⟨rfl, h⟩
  | case2 c e he =>
    obtain ⟨y, hd, hy⟩ := parseSegment?_some h he
    obtain ⟨e', rfl, hk⟩ := hy.of_error
    rw [parseSegments, hd]
    exact .error hk
  | case3 c s after hs shorter e he ih =>
    obtain ⟨y, hd, hy⟩ := parseSegment?_some h hs
    obtain ⟨⟨_, after'⟩, rfl, rfl, hl⟩ := hy.of_ok
    obtain ⟨e', hy, hk⟩ := (he ▸ ih hl).of_error
    rw [h.length, hl.length] at shorter
    rw [parseSegments, hd]
    simp only [shorter, if_true, hy]
    exact .error hk
  | case4 c s after hs shorter ss c' hc ih =>
    obtain ⟨y, hd, hy⟩ := parseSegment?_some h hs
    obtain ⟨⟨_, after'⟩, rfl, rfl, hl⟩ := hy.of_ok
    obtain ⟨⟨_, d'⟩, hy, rfl, hl'⟩ := (hc ▸ ih hl).of_ok
    rw [h.length, hl.length] at shorter
    rw [parseSegments, hd]
    simp only [shorter, if_true, hy]
    exact .ok ⟨rfl, hl'⟩
  | case5 c s after hs stuck =>
    obtain ⟨y, hd, hy⟩ := parseSegment?_some h hs
    obtain ⟨⟨_, after'⟩, rfl, rfl, hl⟩ := hy.of_ok
    rw [h.length, hl.length] at stuck
    rw [parseSegments, hd]
    simp only [stuck, if_false]
    exact .ok ⟨rfl, hl⟩

theorem parseField_agree (h : c.Like d) : Agree SameRead (parseField c) (parseField d) := by
  unfold parseField
  rw [h.peek]
  cases d.peek with
  | ident name =>
    refine (parseSegments_agree h.next).bind ?_
    rintro ⟨tail, c⟩ ⟨_, d⟩ ⟨rfl, h⟩
    dsimp only
    cases Field.resolve (.name name :: tail) with
    | ok f => exact .ok ⟨rfl, h⟩
    | error e => exact .error rfl
  | _ => exact .error (h.unexpected _)

-- ---------------------------------------------------------------------------
-- Conditions
-- ---------------------------------------------------------------------------

theorem Cursor.Like.check (h : c.Like d) (x : Except CompileError α) :
    Agree SameRead (x >>= fun a => .ok (a, c)) (x >>= fun a => .ok (a, d)) := by
  cases x with
  | ok a => exact .ok ⟨rfl, h⟩
  | error e => exact .error rfl

theorem parseOperand_agree (h : c.Like d) (check : Literal → Except CompileError Expr) :
    Agree SameRead (parseOperand c check) (parseOperand d check) := by
  refine (parseLiteral_agree h).bind ?_
  rintro ⟨l, c⟩ ⟨_, d⟩ ⟨rfl, h⟩
  exact h.check (check l)

theorem parseFieldCondition_agree (h : Agree SameRead (parseField c) (parseField d)) :
    Agree SameRead (parseFieldCondition c) (parseFieldCondition d) := by
  refine h.bind ?_
  rintro ⟨f, c⟩ ⟨_, d⟩ ⟨rfl, h⟩
  dsimp only
  rw [h.peek]
  cases d.peek.comparison? with
  | some op => exact parseOperand_agree h.next _
  | none =>
    cases d.peek with
    | kwContains => exact parseOperand_agree h.next _
    | kwMatches => exact parseOperand_agree h.next _
    | kwNot =>
      dsimp only
      rw [h.next.peek]
      cases d.next.peek with
      | kwContains => exact parseOperand_agree h.next.next _
      | kwMatches => exact parseOperand_agree h.next.next _
      | _ => exact .error (h.next.unexpected _)
    | kwIs =>
      dsimp only
      rw [h.next.peek]
      have hnot : Cursor.Like (if d.next.peek.isNot then c.next.next else c.next)
          (if d.next.peek.isNot then d.next.next else d.next) := by
        split
        · exact h.next.next
        · exact h.next
      exact (Cursor.expect_agree hnot _ _).bind fun _ _ h => .ok ⟨rfl, h⟩
    | _ => exact .error (h.unexpected _)

theorem parseLiteralCondition_agree (h : c.Like d) :
    Agree SameRead (parseLiteralCondition c) (parseLiteralCondition d) := by
  refine (parseLiteral_agree h).bind ?_
  rintro ⟨l, c⟩ ⟨_, d⟩ ⟨rfl, h⟩
  have hmember : ∀ {c d : Cursor}, c.Like d → ∀ check : Field → Except CompileError Expr,
      Agree SameRead (parseField c >>= fun p => check p.1 >>= fun e => .ok (e, p.2))
        (parseField d >>= fun p => check p.1 >>= fun e => .ok (e, p.2)) := by
    intro c d h check
    refine (parseField_agree h).bind ?_
    rintro ⟨f, c⟩ ⟨_, d⟩ ⟨rfl, h⟩
    exact h.check (check f)
  dsimp only
  rw [h.peek, h.peekAt]
  cases d.peek.comparison? with
  | some op => exact hmember h.next fun f => checkComparison f op.flipped l
  | none =>
    dsimp only
    split
    · exact hmember h.next fun f => checkContains f false l
    split
    · exact hmember h.next.next fun f => checkContains f true l
    · exact .error (h.unexpected _)

end

-- ---------------------------------------------------------------------------
-- Expressions
-- ---------------------------------------------------------------------------

def ExprReader.Agrees (read : ExprReader) : Prop :=
  ∀ c d : Cursor, c.Like d → Agree SameRead (read c) (read d)

section
variable {isJoint : Token → Bool} {join : Expr → Expr → Expr} {operand : ExprReader} {c d : Cursor}

theorem parseRowTail_agree (ho : operand.Agrees) {lhs : Expr} (h : c.Like d) :
    Agree SameRead (parseRowTail isJoint join operand lhs c)
      (parseRowTail isJoint join operand lhs d) := by
  fun_induction parseRowTail isJoint join operand lhs c generalizing d with
  | case1 lhs c hj e he =>
    obtain ⟨e', hy, hk⟩ := (he ▸ ho _ _ h.next).of_error
    rw [h.peek] at hj
    rw [parseRowTail, if_pos hj, hy]
    exact .error hk
  | case2 lhs c hj rhs after hr shorter ih =>
    obtain ⟨⟨_, after'⟩, hy, rfl, hl⟩ := (hr ▸ ho _ _ h.next).of_ok
    rw [h.peek] at hj
    rw [h.length, hl.length] at shorter
    rw [parseRowTail.eq_def _ _ _ lhs d, if_pos hj, hy]
    simp only [shorter, if_true]
    exact ih hl
  | case3 lhs c hj rhs after hr stuck =>
    obtain ⟨⟨_, after'⟩, hy, rfl, hl⟩ := (hr ▸ ho _ _ h.next).of_ok
    rw [h.peek] at hj
    rw [h.length, hl.length] at stuck
    rw [parseRowTail, if_pos hj, hy]
    simp only [stuck, if_false]
    exact .ok ⟨rfl, hl⟩
  | case4 lhs c hj =>
    rw [h.peek] at hj
    rw [parseRowTail, if_neg hj]
    exact .ok ⟨rfl, h⟩

theorem parseRow_agree (ho : operand.Agrees) (h : Agree SameRead (operand c) (operand d)) :
    Agree SameRead (parseRow isJoint join operand c) (parseRow isJoint join operand d) := by
  refine h.bind ?_
  rintro ⟨lhs, c⟩ ⟨_, d⟩ ⟨rfl, h⟩
  exact parseRowTail_agree ho h

theorem parseDisjunction_agree (ho : operand.Agrees) (h : Agree SameRead (operand c) (operand d)) :
    Agree SameRead (parseDisjunction operand c) (parseDisjunction operand d) :=
  parseRow_agree (fun c d h => parseRow_agree ho (ho c d h)) (parseRow_agree ho h)

end

theorem startsCondition_eq {c d : Cursor} (h : c.Like d) :
    startsCondition c = startsCondition d := by
  unfold startsCondition
  rw [h.peekAt, h.peekAt]

theorem parseUnary_agree (n : Nat) : ExprReader.Agrees (parseUnary n) := by
  induction n using Nat.strongRecOn with
  | _ n ih =>
    intro c d h
    unfold parseUnary
    rw [h.peek, startsCondition_eq h]
    cases d.peek with
    | kwNot =>
      cases n with
      | zero => exact .error rfl
      | succ n =>
        refine (ih n (Nat.lt_succ_self n) _ _ h.next).bind ?_
        rintro ⟨e, c⟩ ⟨_, d⟩ ⟨rfl, h⟩
        exact .ok ⟨rfl, h⟩
    | lparen =>
      cases n with
      | zero => exact .error rfl
      | succ n =>
        have ho := ih n (Nat.lt_succ_self n)
        refine (parseDisjunction_agree ho (ho _ _ h.next)).bind ?_
        rintro ⟨e, c⟩ ⟨_, d⟩ ⟨rfl, h⟩
        exact (Cursor.expect_agree h _ _).bind fun _ _ h => .ok ⟨rfl, h⟩
    | kwTrue =>
      dsimp only
      split
      · exact parseLiteralCondition_agree h
      · exact .ok ⟨rfl, h.next⟩
    | kwFalse =>
      dsimp only
      split
      · exact parseLiteralCondition_agree h
      · exact .ok ⟨rfl, h.next⟩
    | str => exact parseLiteralCondition_agree h
    | number => exact parseLiteralCondition_agree h
    | ident => exact parseFieldCondition_agree (parseField_agree h)
    | _ => exact .error (h.unexpected _)

-- ---------------------------------------------------------------------------
-- Whole texts
-- ---------------------------------------------------------------------------

theorem ScanError.kind_at (e : ScanError) (pos pos' : Nat) :
    (e.at pos).kind = (e.at pos').kind := by
  cases e <;> rfl

theorem tokensFrom_agree (dot : Bool) (pos pos' : Nat) (cs : List Char) :
    Agree (fun ts us => ts.map Placed.token = us.map Placed.token)
      (tokensFrom dot pos cs) (tokensFrom dot pos' cs) := by
  fun_induction tokensFrom dot pos cs generalizing pos' with
  | case1 dot pos =>
    rw [tokensFrom]
    exact .ok rfl
  | case2 dot pos c rest blank ih =>
    rw [tokensFrom, if_pos blank]
    exact ih _
  | case3 dot pos c rest solid e failed =>
    rw [tokensFrom, if_neg solid, failed]
    exact .error (e.kind_at pos pos')
  | case4 dot pos c rest solid lexeme scanned next =>
    rename_i ih
    rw [tokensFrom.eq_def _ pos']
    simp only [if_neg solid, scanned]
    refine (ih _).bind fun ts us hts => .ok ?_
    rw [List.map_cons, List.map_cons, hts]

/-- Two rows of tokens give the same, if their first operands do and what follows these is alike. -/
theorem parse_agree (he : (Cursor.ofTokens ts).peek.isEof = (Cursor.ofTokens us).peek.isEof)
    (h : Agree SameRead (parseUnary maxDepth (.ofTokens ts)) (parseUnary maxDepth (.ofTokens us))) :
    Agree Eq (parse ts) (parse us) := by
  unfold parse
  dsimp only
  rw [he]
  split
  · exact .error rfl
  · refine (parseDisjunction_agree (parseUnary_agree maxDepth) h).bind ?_
    rintro ⟨e, c⟩ ⟨_, d⟩ ⟨rfl, h⟩
    dsimp only
    rw [h.peek]
    split
    · exact .ok rfl
    · exact .error (h.unexpected _)

end ConditionalGateway.Predicate
