import ConditionalGateway.Proofs.Predicate.Steps
import ConditionalGateway.Proofs.Predicate.SelectorLaws

/-!
# The walk of the parser stays within bounds

`walk_bounded`: over any tokens whatever, the walk comes to what the parser comes to. So it ends,
and neither its position nor its count goes below zero. At each moment its position lies in the row
or at its end, and it counts the groups and negations that the reader at work lies inside.

The readers follow their cursors one by one, in the order in which they call each other. A loop
follows its cursor as long as it is given more turns than there are tokens left: whatever announces
a turn at the end of the row is refused in that turn, since it is seen again there.
-/

namespace ConditionalGateway.Predicate

open Walker

section
variable {scope : Scope} {p q : Place} {c d : Cursor} {α β : Type}

-- ---------------------------------------------------------------------------
-- Selectors
-- ---------------------------------------------------------------------------

theorem walkLiteral_follows (h : Stands scope p c) :
    Follows scope p (walkLiteral scope p) (parseLiteral c) := by
  unfold walkLiteral parseLiteral
  cases hl : c.peek.literal? with
  | none => exact Follows.reject h (by simp [hl])
  | some l =>
    refine Follows.advance h (literal?_eq_some.mp hl).ne_eof fun q hq _ => ?_
    rw [hl]
    exact Follows.pure hq l

theorem walkIndex_follows (h : Stands scope p c) (hq : Stands scope q c.next) (raw : String) :
    Follows scope q ((walkIndex raw >>= fun n => pure (Segment.index n)) scope q)
      (parseIndex c raw >>= fun n => .ok (.index n, c.next)) := by
  unfold parseIndex
  cases hn : Decimal.readNat? maxIndex raw.toList with
  | none =>
    have hrun : (walkIndex raw >>= fun n => pure (Segment.index n)) scope q =
        stop (.failed (.unexpectedToken .index raw (c.peekAt 0).pos)) scope q := by
      simp [walkIndex, hn, h.behind hq]
    rw [hrun]
    exact Follows.failed _
  | some n =>
    have hrun : (walkIndex raw >>= fun n => pure (Segment.index n)) scope q =
        (pure (Segment.index n) : Walker Segment) scope q := by
      simp [walkIndex, hn]
    rw [hrun]
    exact Follows.pure hq _

theorem walkDotted_follows (h : Stands scope p c) :
    Follows scope p (walkDotted scope p) (parseDotted c) := by
  unfold walkDotted parseDotted
  cases hp : c.peek with
  | ident name =>
    refine Follows.advance h (by simp [hp]) fun q hq _ => ?_
    rw [hp]
    exact Follows.pure hq _
  | number x raw =>
    refine Follows.advance h (by simp [hp]) fun q hq _ => ?_
    rw [hp]
    exact walkIndex_follows h hq raw
  | _ => exact Follows.reject h (by rw [hp])

theorem walkKey_follows (h : Stands scope p c) :
    Follows scope p (walkKey scope p) (parseKey c >>= fun s => .ok (s, c.next)) := by
  unfold walkKey parseKey
  cases hp : c.peek with
  | str key =>
    refine Follows.advance h (by simp [hp]) fun q hq _ => ?_
    rw [hp]
    exact Follows.pure hq _
  | number x raw =>
    refine Follows.advance h (by simp [hp]) fun q hq _ => ?_
    rw [hp]
    show Follows scope q _ ((parseIndex c raw >>= fun n => .ok (Segment.index n)) >>= _)
    rw [bind_assoc]
    exact walkIndex_follows h hq raw
  | _ => exact Follows.reject h (by rw [hp])

theorem walkBracketed_follows (h : Stands scope p c) :
    Follows scope p (walkBracketed scope p) (parseBracketed c) := by
  have hb : Follows scope p (walkBracketed scope p) _ := Follows.bind h (walkKey_follows h)
    (g := fun x => x.2.expect .closeBracket Token.isRbracket >>= fun d => .ok (x.1, d))
    fun s q d hq _ _ => Follows.require hq rfl fun r e hr => Follows.pure hr s
  unfold parseBracketed
  cases hk : parseKey c <;> rw [hk] at hb <;> exact hb

/-- A step of a selector that is announced at the end of the row is refused there. -/
theorem parseSegment?_end (hc : c.rest = []) (h : parseSegment? c = some x) :
    ∃ e, x = .error e := by
  unfold parseSegment? at h
  rw [c.next_of_end hc] at h
  split at h
  · rename_i hp
    cases h
    exact ⟨_, by rw [parseDotted, hp]⟩
  · rename_i hp
    cases h
    exact ⟨c.unexpected .keyOrIndex, by rw [parseBracketed, parseKey, hp]; rfl⟩
  · cases h

theorem parseSegments_turn (hx : parseSegment? c = some x)
    (shorter : ∀ s d, x = .ok (s, d) → d.rest.length < c.rest.length) (segments : List Segment) :
    (parseSegments c >>= fun z => .ok (segments ++ z.1, z.2)) =
      x >>= fun y => parseSegments y.2 >>= fun z => .ok (segments ++ [y.1] ++ z.1, z.2) := by
  rw [parseSegments, hx]
  cases x with
  | error e => rfl
  | ok y =>
    simp only [shorter y.1 y.2 rfl, if_true]
    show _ = parseSegments y.2 >>= _
    cases parseSegments y.2 <;> simp [bind, Except.bind]

theorem walkSegments_follows (h : Stands scope p c) (turns : Nat)
    (hturns : scope.tokens.length < p.pos + turns) (segments : List Segment) :
    Follows scope p (walkSegments turns segments scope p)
      (parseSegments c >>= fun z => .ok (segments ++ z.1, z.2)) := by
  induction turns generalizing p c segments with
  | zero =>
    have := h.pos
    omega
  | succ turns ih =>
    have turn : ∀ {w : Walker Segment} {x}, c.peek ≠ .eof → parseSegment? c = some x →
        (∀ q, Stands scope q c.next → Follows scope q (w scope q) x) →
        Follows scope p ((advance >>= fun _ => w >>= fun s =>
          walkSegments turns (segments ++ [s])) scope p)
          (parseSegments c >>= fun z => .ok (segments ++ z.1, z.2)) := by
      intro w x ht hx hw
      have hend := fun hnil => parseSegment?_end hnil hx
      rw [parseSegments_turn hx fun s d => Follows.turn_shorter h hend hw]
      exact Follows.turn h ht hend hw fun s r d hr hlt => ih hr (by omega) _
    unfold walkSegments
    rw [peek_bind h]
    cases hp : c.peek with
    | dot => exact turn (by simp [hp]) (by simp [parseSegment?, hp]) fun q => walkDotted_follows
    | lbracket =>
      exact turn (by simp [hp]) (by simp [parseSegment?, hp]) fun q => walkBracketed_follows
    | _ =>
      have hnone : parseSegment? c = none := by simp [parseSegment?, hp]
      rw [parseSegments, hnone]
      simpa [bind, Except.bind] using Follows.pure h segments

theorem parseField_resolved (hp : c.peek = .ident name) :
    parseField c = parseSegments c.next >>= fun z =>
      (Field.resolve ([.name name] ++ z.1)).mapError .ofSelector >>= fun f => .ok (f, z.2) := by
  unfold parseField
  rw [hp]
  refine congrArg (parseSegments c.next >>= ·) (funext fun z => ?_)
  obtain ⟨tail, d⟩ := z
  simp only [List.cons_append, List.nil_append]
  cases Field.resolve (.name name :: tail) <;> rfl

theorem walkField_follows (h : Stands scope p c) (turns : Nat)
    (hturns : scope.tokens.length < p.pos + turns) :
    Follows scope p (walkField turns scope p) (parseField c) := by
  unfold walkField
  cases hp : c.peek with
  | ident name =>
    rw [parseField_resolved hp]
    refine Follows.advance h (by simp [hp]) fun q hq hle => ?_
    rw [hp]
    have hb := Follows.bind hq (walkSegments_follows hq turns (by omega) [.name name])
      (f := fun segments => check ((Field.resolve segments).mapError .ofSelector))
      (g := fun z => (Field.resolve z.1).mapError .ofSelector >>= fun f => .ok (f, z.2))
      fun segments r d hr _ _ => check_follows hr _
    rw [bind_assoc] at hb
    exact hb
  | _ =>
    unfold parseField
    rw [hp]
    exact Follows.reject h (by rw [hp])

-- ---------------------------------------------------------------------------
-- Conditions
-- ---------------------------------------------------------------------------

theorem walkOperand_follows (h : Stands scope p c)
    (condition : Literal → Except CompileError Expr) :
    Follows scope p (walkOperand condition scope p) (parseOperand c condition) :=
  Follows.bind h (walkLiteral_follows h) fun l _ _ hq _ _ => check_follows hq (condition l)

theorem walkMember_follows (h : Stands scope p c) (turns : Nat)
    (hturns : scope.tokens.length < p.pos + turns) (condition : Field → Except CompileError Expr) :
    Follows scope p (walkMember turns condition scope p)
      (parseField c >>= fun x => condition x.1 >>= fun e => .ok (e, x.2)) :=
  Follows.bind h (walkField_follows h turns hturns) fun f _ _ hq _ _ =>
    check_follows hq (condition f)

theorem walkFieldCondition_follows (h : Stands scope p c) (turns : Nat)
    (hturns : scope.tokens.length < p.pos + turns) :
    Follows scope p (walkFieldCondition turns scope p) (parseFieldCondition c) := by
  refine Follows.bind h (walkField_follows h turns hturns) fun f p c h hle hf => ?_
  rw [peek_bind h]
  dsimp only
  cases hop : c.peek.comparison? with
  | some op =>
    refine Follows.advance h (fun he => ?_) fun q hq _ => walkOperand_follows hq _
    rw [he] at hop
    cases hop
  | none =>
    cases hp : c.peek with
    | kwContains => exact Follows.advance h (by simp [hp]) fun q hq _ => walkOperand_follows hq _
    | kwMatches => exact Follows.advance h (by simp [hp]) fun q hq _ => walkOperand_follows hq _
    | kwNot =>
      refine Follows.advance h (by simp [hp]) fun q hq _ => ?_
      cases hn : c.next.peek with
      | kwContains =>
        refine Follows.advance hq (by simp [hn]) fun r hr _ => ?_
        rw [hn]
        exact walkOperand_follows hr _
      | kwMatches =>
        refine Follows.advance hq (by simp [hn]) fun r hr _ => ?_
        rw [hn]
        exact walkOperand_follows hr _
      | _ => exact Follows.reject hq (by rw [hn])
    | kwIs =>
      refine Follows.advance h (by simp [hp]) fun q hq _ => ?_
      rw [peek_bind hq]
      have hempty : ∀ r d, Stands scope r d → Follows scope r
          ((require .empty Token.isEmptyWord >>= fun _ =>
            pure (Expr.isEmpty f c.next.peek.isNot)) scope r)
          (d.expect .empty Token.isEmptyWord >>= fun e =>
            .ok (Expr.isEmpty f c.next.peek.isNot, e)) :=
        fun r d hr => Follows.require hr rfl fun s e hs => Follows.pure hs _
      by_cases hn : c.next.peek.isNot = true
      · rw [if_pos hn]
        refine Follows.advance hq (by simp [isNot_iff.mp hn]) fun r hr _ => ?_
        simpa [hn] using hempty r _ hr
      · rw [if_neg hn]
        simpa [hn] using hempty q _ hq
    | _ => exact Follows.unexpected h _

theorem walkLiteralCondition_follows (h : Stands scope p c) (turns : Nat)
    (hturns : scope.tokens.length < p.pos + turns) :
    Follows scope p (walkLiteralCondition turns scope p) (parseLiteralCondition c) := by
  refine Follows.bind h (walkLiteral_follows h) fun l p c h hle _ => ?_
  rw [peek_bind h]
  dsimp only
  cases hop : c.peek.comparison? with
  | some op =>
    refine Follows.advance h (fun he => ?_) fun q hq hqr =>
      walkMember_follows hq turns (by omega) (checkComparison · op.flipped l)
    rw [he] at hop
    cases hop
  | none =>
    by_cases hin : c.peek.isIn = true
    · rw [if_pos hin, if_pos hin]
      exact Follows.advance h (by simp [isIn_iff.mp hin]) fun q hq hqr =>
        walkMember_follows hq turns (by omega) (checkContains · false l)
    · rw [if_neg hin, if_neg hin]
      dsimp only
      rw [peekAt_bind h]
      by_cases hnot : (c.peek.isNot && (c.peekAt 1).token.isIn) = true
      · rw [if_pos hnot, if_pos hnot]
        obtain ⟨hnot, hin⟩ := Bool.and_eq_true_iff.mp hnot
        rw [Cursor.peekAt_succ] at hin
        have hnext : c.next.peek = .kwIn := isIn_iff.mp hin
        refine Follows.advance h (by simp [isNot_iff.mp hnot]) fun q hq hqr => ?_
        exact Follows.advance hq (by simp [hnext]) fun r hr hrr =>
          walkMember_follows hr turns (by omega) (checkContains · true l)
      · rw [if_neg hnot, if_neg hnot]
        exact Follows.unexpected h _

-- ---------------------------------------------------------------------------
-- Rows
-- ---------------------------------------------------------------------------

/-- A walk that does at every place what a reader does there. -/
def Walker.Reads (scope : Scope) (w : Walker Expr) (read : ExprReader) : Prop :=
  ∀ p c, Stands scope p c → Follows scope p (w scope p) (read c)

/-- A reader that takes no operand from where a joining token stands. -/
def ExprReader.Refuses (read : ExprReader) (isJoint : Token → Bool) : Prop :=
  ∀ c : Cursor, isJoint c.peek = true → ∃ e, read c = .error e

section
variable {isJoint : Token → Bool} {join : Expr → Expr → Expr} {operand : Walker Expr}
  {read : ExprReader}

theorem parseRowTail_turn (hj : isJoint c.peek = true)
    (shorter : ∀ e d, read c.next = .ok (e, d) → d.rest.length < c.rest.length) (lhs : Expr) :
    parseRowTail isJoint join read lhs c =
      read c.next >>= fun y => parseRowTail isJoint join read (join lhs y.1) y.2 := by
  rw [parseRowTail, if_pos hj]
  cases hx : read c.next with
  | error e => rfl
  | ok y =>
    show (if y.2.rest.length < c.rest.length then _ else _) = _
    rw [if_pos (shorter y.1 y.2 hx)]
    rfl

theorem walkRowTail_follows (ho : operand.Reads scope read) (hr : read.Refuses isJoint)
    (heof : isJoint .eof = false) (h : Stands scope p c) (turns : Nat)
    (hturns : scope.tokens.length < p.pos + turns) (lhs : Expr) :
    Follows scope p (walkRowTail isJoint join operand turns lhs scope p)
      (parseRowTail isJoint join read lhs c) := by
  induction turns generalizing p c lhs with
  | zero =>
    have := h.pos
    omega
  | succ turns ih =>
    unfold walkRowTail
    rw [peek_bind h]
    by_cases hj : isJoint c.peek = true
    · have hne : c.peek ≠ .eof := by
        intro he
        rw [he, heof] at hj
        cases hj
      have hend : c.rest = [] → ∃ e, read c.next = .error e := fun hnil =>
        hr _ (by rwa [c.next_of_end hnil])
      rw [if_pos hj, parseRowTail_turn hj fun e d =>
        Follows.turn_shorter h hend fun q => ho q c.next]
      exact Follows.turn h hne hend (fun q => ho q c.next) fun e r d hr hlt =>
        ih hr (by omega) _
    · rw [if_neg hj, parseRowTail, if_neg hj]
      exact Follows.pure h lhs

theorem walkRow_reads (ho : operand.Reads scope read) (hr : read.Refuses isJoint)
    (heof : isJoint .eof = false) (hturns : scope.tokens.length < turns) :
    Walker.Reads scope (walkRow isJoint join turns operand) (parseRow isJoint join read) :=
  fun p c h => Follows.bind h (ho p c h) fun e q d hq _ _ =>
    walkRowTail_follows ho hr heof hq turns (by omega) e

end

theorem parseRow_refuses {read : ExprReader} (hr : read.Refuses isJoint) :
    ExprReader.Refuses (parseRow isJoint' join read) isJoint := by
  intro c hc
  obtain ⟨e, he⟩ := hr c hc
  exact ⟨e, by rw [parseRow, he]; rfl⟩

theorem parseUnary_refuses (levels : Nat) (hj : ∀ t, isJoint t = true → t = .kwAnd ∨ t = .kwOr) :
    ExprReader.Refuses (parseUnary levels) isJoint := by
  intro c hc
  refine ⟨c.unexpected .expression, ?_⟩
  unfold parseUnary
  obtain hp | hp := hj _ hc <;> rw [hp]

theorem walkDisjunction_reads {operand : Walker Expr} (ho : operand.Reads scope (parseUnary levels))
    (hturns : scope.tokens.length < turns) :
    Walker.Reads scope (walkDisjunction turns operand) (parseDisjunction (parseUnary levels)) := by
  have hand : ExprReader.Refuses (parseUnary levels) Token.isAnd :=
    parseUnary_refuses levels fun _ ht => .inl (isAnd_iff.mp ht)
  have hor : ExprReader.Refuses (parseUnary levels) Token.isOr :=
    parseUnary_refuses levels fun _ ht => .inr (isOr_iff.mp ht)
  exact walkRow_reads (walkRow_reads ho hand rfl hturns) (parseRow_refuses hor) rfl hturns

-- ---------------------------------------------------------------------------
-- Operands
-- ---------------------------------------------------------------------------

theorem walkStartsCondition_bind (h : Stands scope p c) (f : Bool → Walker β) :
    (walkStartsCondition >>= f) scope p = f (startsCondition c) scope p := by
  rw [h.cursor]
  simp only [startsCondition, peekAt_cursorAt]
  rfl

theorem walkBoolean_follows (h : Stands scope p c) (turns : Nat)
    (hturns : scope.tokens.length < p.pos + turns) (hp : c.peek ≠ .eof) (value : Bool) :
    Follows scope p (walkBoolean turns value scope p)
      (if startsCondition c then parseLiteralCondition c else .ok (.const value, c.next)) := by
  unfold walkBoolean
  rw [walkStartsCondition_bind h]
  by_cases hs : startsCondition c = true
  · rw [if_pos hs, if_pos hs]
    exact walkLiteralCondition_follows h turns hturns
  · rw [if_neg hs, if_neg hs]
    exact Follows.advance h hp fun q hq _ => Follows.pure hq _

theorem walkUnary_turn (hlevels : scope.around + levels = maxDepth)
    (hturns : scope.tokens.length < turns)
    (hin : ∀ l, levels = l + 1 → (walkUnary turns).Reads scope.deeper (parseUnary l)) :
    Walker.Reads scope (walkUnary (turns + 1)) (parseUnary levels) := by
  intro p c h
  have hloop : scope.tokens.length < p.pos + turns := by omega
  unfold walkUnary parseUnary
  rw [peek_bind h]
  cases hp : c.peek with
  | kwNot =>
    refine Follows.advance h (by simp [hp]) fun q hq _ => ?_
    cases levels with
    | zero =>
      exact Follows.bind (g := fun _ => .error (.tooDeep maxDepth)) hq
        (nested_tooDeep hq hlevels) nofun
    | succ levels =>
      have hnested := nested_follows hq (by omega) fun r hr => hin levels rfl r _ hr
      exact Follows.bind hq hnested fun e r d hr _ _ => Follows.pure hr _
  | lparen =>
    refine Follows.advance h (by simp [hp]) fun q hq _ => ?_
    cases levels with
    | zero =>
      exact Follows.bind (g := fun _ => .error (.tooDeep maxDepth)) hq
        (nested_tooDeep hq hlevels) nofun
    | succ levels =>
      have hnested := nested_follows hq (by omega) fun r hr =>
        walkDisjunction_reads (hin levels rfl) hturns r _ hr
      exact Follows.bind hq hnested fun e r d hr _ _ =>
        Follows.require hr rfl fun s d hs => Follows.pure hs e
  | kwTrue => exact walkBoolean_follows h turns hloop (by simp [hp]) true
  | kwFalse => exact walkBoolean_follows h turns hloop (by simp [hp]) false
  | str => exact walkLiteralCondition_follows h turns hloop
  | number => exact walkLiteralCondition_follows h turns hloop
  | ident => exact walkFieldCondition_follows h turns hloop
  | _ => exact Follows.unexpected h _

theorem walkUnary_reads (levels turns : Nat) (scope : Scope)
    (hlevels : scope.around + levels = maxDepth)
    (hturns : levels + scope.tokens.length + 1 < turns) :
    Walker.Reads scope (walkUnary turns) (parseUnary levels) := by
  obtain ⟨turns, rfl⟩ : ∃ n, turns = n + 1 := ⟨turns - 1, by omega⟩
  -- each call inside another one has a turn and a level less
  induction levels generalizing scope turns with
  | zero => exact walkUnary_turn hlevels (by omega) nofun
  | succ levels ih =>
    refine walkUnary_turn hlevels (by omega) ?_
    rintro _ ⟨⟩
    obtain ⟨turns, rfl⟩ : ∃ n, turns = n + 1 := ⟨turns - 1, by omega⟩
    exact ih scope.deeper (by simp only [Scope.deeper]; omega) turns
      (by simp only [Scope.deeper]; omega)

-- ---------------------------------------------------------------------------
-- Whole expressions
-- ---------------------------------------------------------------------------

end

/-- As many turns as a walk may need. -/
def enoughTurns (tokens : List Placed) : Nat := tokens.length + maxDepth + 2

def parseToEnd (c : Cursor) : Except CompileError (Expr × Cursor) :=
  if c.peek.isEof then .error .empty
  else parseDisjunction (parseUnary maxDepth) c >>= fun x =>
    if x.2.peek.isEof then .ok x else .error (x.2.unexpected .endOfInput)

theorem parse_eq (tokens : List Placed) :
    parse tokens = parseToEnd (Cursor.ofTokens tokens) >>= fun x => .ok x.1 := by
  unfold parse parseToEnd
  dsimp only
  split
  · rfl
  · rw [bind_assoc]
    congr 1
    funext x
    split <;> rfl

theorem parseToEnd_eof (h : parseToEnd c = .ok (e, d)) : d.peek = .eof := by
  unfold parseToEnd at h
  split at h
  · cases h
  · obtain ⟨x, -, h⟩ := bind_eq_ok.mp h
    split at h
    · rename_i heof
      cases h
      exact isEof_iff.mp heof
    · cases h

theorem walkExpression_follows (h : Stands ⟨tokens, 0⟩ p c) (hturns : enoughTurns tokens ≤ turns) :
    Follows ⟨tokens, 0⟩ p (walkExpression turns ⟨tokens, 0⟩ p) (parseToEnd c) := by
  unfold enoughTurns at hturns
  unfold walkExpression parseToEnd
  rw [peek_bind h]
  by_cases hempty : c.peek.isEof = true
  · rw [if_pos hempty, if_pos hempty]
    exact Follows.failed _
  · rw [if_neg hempty, if_neg hempty]
    have hunary := walkUnary_reads maxDepth turns ⟨tokens, 0⟩ (Nat.zero_add _)
      (by simp only; omega)
    have hlength : tokens.length < turns := by omega
    have hrow := walkDisjunction_reads hunary hlength
    refine Follows.bind h (hrow p c h) fun e q d hq _ _ => ?_
    rw [peek_bind hq]
    dsimp only
    by_cases hend : d.peek.isEof = true
    · rw [if_pos hend, if_pos hend]
      exact Follows.pure hq e
    · rw [if_neg hend, if_neg hend]
      exact Follows.unexpected hq _

/-- A walk from the first token to an end of the input has come to the first one. -/
theorem Walked.first_eof (hne : tokens ≠ []) (h : Walked tokens ⟨0, 0⟩ q trace)
    (heof : (tokenAt tokens q.pos).token = .eof) :
    ∃ body stop rest, tokens = body ++ stop :: rest ∧ body.length = q.pos ∧ stop.token = .eof ∧
      ∀ t ∈ body, t.token ≠ .eof := by
  have hlen := List.length_pos_iff.mpr hne
  have hlt : q.pos < tokens.length := by
    refine Nat.lt_of_le_of_ne h.within fun hend => ?_
    -- then the last token has been taken, and it is the one that is seen
    rw [hend, ← tokenAt_length] at heof
    exact h.solid _ (Nat.zero_le _) (by omega) heof
  have at_index : ∀ {i} (hi : i < tokens.length), tokenAt tokens i = tokens[i] := by
    intro i hi
    rw [tokenAt, Nat.min_eq_left (by omega), List.getElem?_eq_getElem hi]
    rfl
  refine ⟨tokens.take q.pos, tokens[q.pos], tokens.drop (q.pos + 1), ?_, ?_, ?_, ?_⟩
  · rw [← List.drop_eq_getElem_cons hlt, List.take_append_drop]
  · exact List.length_take_of_le (Nat.le_of_lt hlt)
  · rw [← at_index hlt, heof]
  · intro t ht
    obtain ⟨i, hi, rfl⟩ := List.mem_iff_getElem.mp ht
    rw [List.length_take_of_le (Nat.le_of_lt hlt)] at hi
    rw [List.getElem_take, ← at_index]
    exact h.solid i (Nat.zero_le i) hi

/-- The walk of the parser over any tokens whatever, given as many turns as it may need or more.

Tokens behind an end of the input are not looked at, so it is the first end of the input that ends
the tokens. -/
theorem walk_bounded (tokens : List Placed) (spare : Nat) :
    let run := walk (enoughTurns tokens + spare) tokens
    -- It comes to the error that the parser gives: it ends, and no counter goes below zero.
    (∀ e, parse tokens = .error e → run.result = .error (.failed e)) ∧
    -- Or it comes to the expression, with all groups and negations closed again, and it has taken
    -- each token before the end of the input once.
    (∀ e, parse tokens = .ok e → ∃ body stop rest,
      tokens = body ++ stop :: rest ∧ stop.token = .eof ∧ (∀ t ∈ body, t.token ≠ .eof) ∧
      run.result = .ok (e, ⟨body.length, 0⟩) ∧ taken run.trace = List.range body.length ∧
      ((∀ t ∈ tokens.dropLast, t.token ≠ .eof) → tokens = body ++ [stop])) ∧
    -- On the way it stays in the row, and counts the groups and negations around each reader.
    ∀ m ∈ run.trace,
      m.place.pos ≤ tokens.length ∧ m.place.depth ≤ 65 ∧ m.place.depth = m.around := by
  intro run
  by_cases hne : tokens = []
  · subst hne
    exact ⟨by rintro _ ⟨⟩; rfl, nofun, nofun⟩
  have hstart : Stands ⟨tokens, 0⟩ ⟨0, 0⟩ (Cursor.ofTokens tokens) :=
    ⟨hne, Nat.zero_le _, rfl, Nat.zero_le _, rfl⟩
  have hfollows : Follows ⟨tokens, 0⟩ ⟨0, 0⟩ run _ :=
    walkExpression_follows hstart (Nat.le_add_right ..)
  refine ⟨fun e he => ?_, fun e he => ?_, fun m hm => ?_⟩
  · rw [parse_eq, bind_eq_error] at he
    obtain he | ⟨x, -, hx⟩ := he
    · exact hfollows.error e he
    · cases hx
  · rw [parse_eq, bind_eq_ok] at he
    obtain ⟨⟨_, d⟩, hok, ⟨⟩⟩ := he
    obtain ⟨_, ⟨pos, depth⟩, hresult, heq, hwalked⟩ := hfollows.ok _ hok
    obtain ⟨rfl, rfl⟩ := Prod.mk.inj heq
    obtain rfl : depth = 0 := hwalked.depth
    have heof := parseToEnd_eof hok
    rw [← peek_eq (hstart.walked hwalked)] at heof
    obtain ⟨body, stop, rest, htokens, rfl, hstop, hbody⟩ := hwalked.first_eof hne heof
    refine ⟨body, stop, rest, htokens, hstop, hbody, hresult, ?_, fun hlast => ?_⟩
    · rw [hwalked.once, List.range_eq_range']
      rfl
    · cases rest with
      | nil => exact htokens
      | cons t rest => exact absurd hstop (hlast stop (by simp [htokens]))
  · have hsound := hfollows.trace m hm
    exact ⟨hsound.pos, hsound.depth.symm ▸ hsound.around, hsound.depth⟩

/-- `true` and an end of the input, two times over. -/
def endedTwice : List Placed := [⟨.kwTrue, 0⟩, ⟨.eof, 4⟩, ⟨.kwTrue, 5⟩, ⟨.eof, 9⟩]

/-- An end of the input as the last token is not enough for each token before it to be taken: an
earlier one, and all that stands between the two, is left. -/
theorem endedTwice_unread :
    (∃ stop, endedTwice.getLast? = some stop ∧ stop.token = .eof) ∧
      parse endedTwice = .ok (.const true) ∧
      taken (walk (enoughTurns endedTwice) endedTwice).trace = [0] ∧
      ¬ ∀ i < endedTwice.dropLast.length,
        (taken (walk (enoughTurns endedTwice) endedTwice).trace).count i = 1 := by
  have htaken : taken (walk (enoughTurns endedTwice) endedTwice).trace = [0] := rfl
  have hparse : parse endedTwice = .ok (.const true) := by cbv
  refine ⟨⟨⟨.eof, 9⟩, rfl, rfl⟩, hparse, htaken, fun hall => ?_⟩
  have hone := hall 1 (by decide)
  rw [htaken] at hone
  exact absurd hone (by decide)

end ConditionalGateway.Predicate
