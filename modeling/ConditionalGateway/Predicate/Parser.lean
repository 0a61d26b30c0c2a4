import ConditionalGateway.Predicate.Lexer

/-!
# From tokens to expressions

A disjunction is a row of conjunctions, a conjunction a row of operands, and an
operand a negation, a group, a constant or a condition on a field. Only
negations and groups nest, so the parser recurses on the number of levels that
are still allowed. What a field can be asked is checked as soon as it is read.

A cursor never runs past the last token: behind it, the last token is seen
again and again.
-/

namespace ConditionalGateway.Predicate

def maxDepth : Nat := 64

def maxIndex : Nat := 18446744073709551615

/-- The tokens still to be read, and the token that is seen behind them. -/
structure Cursor where
  rest : List Placed
  last : Placed
  deriving Inhabited

namespace Cursor

/-- The start of some tokens; where there are none, the input has ended. -/
def ofTokens (tokens : List Placed) : Cursor := ⟨tokens, tokens.getLast?.getD ⟨.eof, 0⟩⟩

def peekAt (c : Cursor) (n : Nat) : Placed := c.rest[n]?.getD c.last

def peek (c : Cursor) : Token := (c.peekAt 0).token

def next (c : Cursor) : Cursor := { c with rest := c.rest.tail }

def unexpected (c : Cursor) (expected : Expectation) : CompileError :=
  .unexpectedToken expected c.peek.display (c.peekAt 0).pos

def expect (c : Cursor) (expected : Expectation) (is : Token → Bool) :
    Except CompileError Cursor :=
  if is c.peek then .ok c.next else .error (c.unexpected expected)

end Cursor

def Token.comparison? : Token → Option Comparison
  | .eq => some .eq
  | .ne => some .ne
  | .lt => some .lt
  | .le => some .le
  | .gt => some .gt
  | .ge => some .ge
  | _ => none

def Token.isIn : Token → Bool
  | .kwIn => true
  | _ => false

def Token.isNot : Token → Bool
  | .kwNot => true
  | _ => false

def Token.isAnd : Token → Bool
  | .kwAnd => true
  | _ => false

def Token.isOr : Token → Bool
  | .kwOr => true
  | _ => false

def Token.isRparen : Token → Bool
  | .rparen => true
  | _ => false

def Token.isRbracket : Token → Bool
  | .rbracket => true
  | _ => false

def Token.isEmptyWord : Token → Bool
  | .kwEmpty => true
  | _ => false

def Token.isEof : Token → Bool
  | .eof => true
  | _ => false

def Token.literal? : Token → Option Literal
  | .str s => some (.str s)
  | .number x _ => some (.number x)
  | .kwTrue => some (.bool true)
  | .kwFalse => some (.bool false)
  | _ => none

def startsCondition (c : Cursor) : Bool :=
  let t := (c.peekAt 1).token
  t.comparison?.isSome || t.isIn || (t.isNot && (c.peekAt 2).token.isIn)

def parseLiteral (c : Cursor) : Except CompileError (Literal × Cursor) :=
  match c.peek.literal? with
  | some l => .ok (l, c.next)
  | none => .error (c.unexpected .literal)

def parseIndex (c : Cursor) (raw : String) : Except CompileError Nat :=
  match Decimal.readNat? maxIndex raw.toList with
  | some n => .ok n
  | none => .error (.unexpectedToken .index raw (c.peekAt 0).pos)

def parseDotted (c : Cursor) : Except CompileError (Segment × Cursor) :=
  match c.peek with
  | .ident name => .ok (.name name, c.next)
  | .number _ raw => do .ok (.index (← parseIndex c raw), c.next)
  | _ => .error (c.unexpected .nameOrIndex)

def parseKey (c : Cursor) : Except CompileError Segment :=
  match c.peek with
  | .str key => .ok (.key key)
  | .number _ raw => do .ok (.index (← parseIndex c raw))
  | _ => .error (c.unexpected .keyOrIndex)

def parseBracketed (c : Cursor) : Except CompileError (Segment × Cursor) := do
  let segment ← parseKey c
  let c ← c.next.expect .closeBracket Token.isRbracket
  .ok (segment, c)

def parseSegment? (c : Cursor) : Option (Except CompileError (Segment × Cursor)) :=
  match c.peek with
  | .dot => some (parseDotted c.next)
  | .lbracket => some (parseBracketed c.next)
  | _ => none

/-- The segments that follow the first one of a selector. Each takes at least one token, so the
loop ends with the tokens. -/
def parseSegments (c : Cursor) : Except CompileError (List Segment × Cursor) :=
  match parseSegment? c with
  | none => .ok ([], c)
  | some (.error e) => .error e
  | some (.ok (s, after)) =>
    if after.rest.length < c.rest.length then
      match parseSegments after with
      | .error e => .error e
      | .ok (ss, c) => .ok (s :: ss, c)
    else .ok ([s], after)
termination_by c.rest.length

def parseField (c : Cursor) : Except CompileError (Field × Cursor) :=
  match c.peek with
  | .ident name => do
    let (tail, c) ← parseSegments c.next
    match Field.resolve (.name name :: tail) with
    | .ok f => .ok (f, c)
    | .error e => .error (.ofSelector e)
  | _ => .error (c.unexpected .selector)

/-- A comparison, if the field can be compared with the literal in that way. A numeric field
takes a string that spells a number. -/
def checkComparison (f : Field) (op : Comparison) (l : Literal) : Except CompileError Expr :=
  let unsupported (why : Incompatibility) : Except CompileError Expr :=
    .error (.unsupportedOperator (.comparison op) f why)
  match f.kind, l with
  | .list, _ => unsupported .listNeedsIndex
  | .number, .bool _ =>
    unsupported (if op.isOrdering then .boolsNotOrdered else .needsNumericLiteral)
  | .number, .str s =>
    match Decimal.readFloat? (Unicode.trim s.toList) with
    | some x => .ok (.compare f op (.number x))
    | none => unsupported .needsNumericLiteral
  | .text, .bool _ => if op.isOrdering then unsupported .boolsNotOrdered else .ok (.compare f op l)
  | _, _ => .ok (.compare f op l)

/-- A test for a member, if the literal is a string and the field has members. -/
def checkContains (f : Field) (negated : Bool) (l : Literal) : Except CompileError Expr :=
  let unsupported (why : Incompatibility) : Except CompileError Expr :=
    .error (.unsupportedOperator (.contains negated) f why)
  match l with
  | .str needle =>
    if f.kind = .number then unsupported .numberHasNoMembers else .ok (.contains f needle negated)
  | _ => unsupported .needleNotString

/-- A test for a match, if the literal is a pattern and the field a text. -/
def checkMatches (f : Field) (negated : Bool) (l : Literal) : Except CompileError Expr :=
  let unsupported (why : Incompatibility) : Except CompileError Expr :=
    .error (.unsupportedOperator (.matches negated) f why)
  match l with
  | .str source =>
    if f.kind ≠ .text then unsupported .onlyTextMatches
    else
      match Pattern.compile? source with
      | some p => .ok (.matches f p negated)
      | none => .error (.invalidPattern source)
  | _ => unsupported .patternNotString

def parseOperand (c : Cursor) (check : Literal → Except CompileError Expr) :
    Except CompileError (Expr × Cursor) := do
  let (l, c) ← parseLiteral c
  .ok (← check l, c)

def parseFieldCondition (c : Cursor) : Except CompileError (Expr × Cursor) := do
  let (f, c) ← parseField c
  match c.peek.comparison? with
  | some op => parseOperand c.next (checkComparison f op)
  | none =>
    match c.peek with
    | .kwContains => parseOperand c.next (checkContains f false)
    | .kwMatches => parseOperand c.next (checkMatches f false)
    | .kwNot =>
      match c.next.peek with
      | .kwContains => parseOperand c.next.next (checkContains f true)
      | .kwMatches => parseOperand c.next.next (checkMatches f true)
      | _ => .error (c.next.unexpected .containsOrMatches)
    | .kwIs =>
      let negated := c.next.peek.isNot
      let c := if negated then c.next.next else c.next
      let c ← c.expect .empty Token.isEmptyWord
      .ok (.isEmpty f negated, c)
    | _ => .error (c.unexpected .operator)

def parseLiteralCondition (c : Cursor) : Except CompileError (Expr × Cursor) := do
  let (l, c) ← parseLiteral c
  match c.peek.comparison? with
  | some op =>
    let (f, c) ← parseField c.next
    .ok (← checkComparison f op.flipped l, c)
  | none =>
    if c.peek.isIn then
      let (f, c) ← parseField c.next
      .ok (← checkContains f false l, c)
    else if c.peek.isNot && (c.peekAt 1).token.isIn then
      let (f, c) ← parseField c.next.next
      .ok (← checkContains f true l, c)
    else .error (c.unexpected .comparisonOrIn)

abbrev ExprReader := Cursor → Except CompileError (Expr × Cursor)

/-- What follows the first operand of a row: the joining token and a further operand, again and
again. The row leans to the left. -/
def parseRowTail (isJoint : Token → Bool) (join : Expr → Expr → Expr) (operand : ExprReader)
    (lhs : Expr) (c : Cursor) : Except CompileError (Expr × Cursor) :=
  if isJoint c.peek then
    match operand c.next with
    | .error e => .error e
    | .ok (rhs, after) =>
      if after.rest.length < c.rest.length then
        parseRowTail isJoint join operand (join lhs rhs) after
      else .ok (join lhs rhs, after)
  else .ok (lhs, c)
termination_by c.rest.length

def parseRow (isJoint : Token → Bool) (join : Expr → Expr → Expr) (operand : ExprReader)
    (c : Cursor) : Except CompileError (Expr × Cursor) := do
  let (lhs, c) ← operand c
  parseRowTail isJoint join operand lhs c

def parseDisjunction (operand : ExprReader) : ExprReader :=
  parseRow Token.isOr .or (parseRow Token.isAnd .and operand)

/-- An operand, where `levels` more groups and negations may be opened. -/
def parseUnary : Nat → Cursor → Except CompileError (Expr × Cursor)
  | levels, c =>
    match c.peek with
    | .kwNot =>
      match levels with
      | 0 => .error (.tooDeep maxDepth)
      | levels + 1 => do
        let (e, c) ← parseUnary levels c.next
        .ok (.not e, c)
    | .lparen =>
      match levels with
      | 0 => .error (.tooDeep maxDepth)
      | levels + 1 => do
        let (e, c) ← parseDisjunction (parseUnary levels) c.next
        let c ← c.expect .closeParen Token.isRparen
        .ok (e, c)
    | .kwTrue => if startsCondition c then parseLiteralCondition c else .ok (.const true, c.next)
    | .kwFalse => if startsCondition c then parseLiteralCondition c else .ok (.const false, c.next)
    | .str _ => parseLiteralCondition c
    | .number _ _ => parseLiteralCondition c
    | .ident _ => parseFieldCondition c
    | _ => .error (c.unexpected .expression)

def parse (tokens : List Placed) : Except CompileError Expr := do
  let c := Cursor.ofTokens tokens
  if c.peek.isEof then .error .empty
  else
    let (e, c) ← parseDisjunction (parseUnary maxDepth) c
    if c.peek.isEof then .ok e else .error (c.unexpected .endOfInput)

end ConditionalGateway.Predicate
