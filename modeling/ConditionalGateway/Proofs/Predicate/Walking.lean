import ConditionalGateway.Proofs.Traced
import ConditionalGateway.Predicate.Parser

/-!
# Parsing by position

The parser as a walk over a fixed row of tokens, with a position that goes up and down and a count
of the groups and negations that are open. It sees a token, advances over it, and steps back if it
did not expect it. At the end of the row the position stays where it is, and the last token is seen
again. Nothing but the turns that it is given keeps the walk from going on without end.

Each change of the position or of the count is noted (`Moment`), beside the groups and negations
that the reader at work really lies inside: the readers that were called for one and have not come
back.
-/

namespace ConditionalGateway.Predicate

/-- Where a walk is: how many tokens lie behind it, and how many groups and negations it counts. -/
structure Place where
  pos : Nat
  depth : Nat
  deriving DecidableEq, Repr

inductive Move where
  /-- It advances over the token at an index. -/
  | take (index : Nat)
  /-- It advances at the end of the row, where no token is left. -/
  | stay
  | retreat
  | enter
  | leave
  deriving DecidableEq, Repr

/-- A move, the place that it led to, and how many groups and negations are around the reader that
made it. -/
structure Moment where
  move : Move
  place : Place
  around : Nat
  deriving DecidableEq, Repr

/-- The tokens that have been taken, by their indices. -/
def taken (trace : List Moment) : List Nat :=
  trace.filterMap fun m =>
    match m.move with
    | .take i => some i
    | _ => none

/-- What a reader is given: the tokens, and how many groups and negations it is called inside. -/
structure Scope where
  tokens : List Placed
  around : Nat

abbrev Walker (α : Type) : Type := ReaderT Scope (Traced Place Moment CompileError) α

namespace Walker

variable {α β : Type}

def stop (why : Stop CompileError) : Walker α := fun _ => Traced.stop why

def here : Walker Place := fun _ => Traced.state

def move (m : Move) (next : Place) : Walker Unit := fun scope =>
  Traced.become ⟨m, next, scope.around⟩ next

/-- The token at an index; behind the last one, the last one. -/
def tokenAt (tokens : List Placed) (i : Nat) : Placed :=
  tokens[min i (tokens.length - 1)]?.getD ⟨.eof, 0⟩

@[simp] theorem bind_run (w : Walker α) (f : α → Walker β) (scope : Scope) (p : Place) :
    (w >>= f) scope p = (w scope p).andThen fun a => f a scope := rfl

@[simp] theorem pure_run (a : α) (scope : Scope) (p : Place) :
    (pure a : Walker α) scope p = ⟨.ok (a, p), []⟩ := rfl

@[simp] theorem read_run (scope : Scope) (p : Place) :
    (read : Walker Scope) scope p = ⟨.ok (scope, p), []⟩ := rfl

@[simp] theorem stop_run (why : Stop CompileError) (scope : Scope) (p : Place) :
    (stop why : Walker α) scope p = ⟨.error why, []⟩ := rfl

@[simp] theorem here_run (scope : Scope) (p : Place) : here scope p = ⟨.ok (p, p), []⟩ := rfl

@[simp] theorem move_run (m : Move) (q : Place) (scope : Scope) (p : Place) :
    move m q scope p = ⟨.ok ((), q), [⟨m, q, scope.around⟩]⟩ := rfl

def peekAt (n : Nat) : Walker Token := do
  pure (tokenAt (← read).tokens ((← here).pos + n)).token

def peek : Walker Token := peekAt 0

@[simp] theorem peekAt_run (n : Nat) (scope : Scope) (p : Place) :
    peekAt n scope p = ⟨.ok ((tokenAt scope.tokens (p.pos + n)).token, p), []⟩ := rfl

@[simp] theorem peek_run (scope : Scope) (p : Place) :
    peek scope p = ⟨.ok ((tokenAt scope.tokens p.pos).token, p), []⟩ := rfl

def advance : Walker Token := do
  let token ← peek
  let place ← here
  if place.pos < (← read).tokens.length then
    move (.take place.pos) { place with pos := place.pos + 1 }
  else move .stay place
  pure token

def retreat : Walker Unit := do
  let place ← here
  if place.pos = 0 then stop .underflow
  else move .retreat { place with pos := place.pos - 1 }

def enter : Walker Unit := do
  let place ← here
  move .enter { place with depth := place.depth + 1 }
  if (← here).depth > maxDepth then stop (.failed (.tooDeep maxDepth))

def leave : Walker Unit := do
  let place ← here
  if place.depth = 0 then stop .underflow
  else move .leave { place with depth := place.depth - 1 }

def unexpected (expected : Expectation) : Walker α := do
  let tokens := (← read).tokens
  let pos := (tokens[(← here).pos]?.or tokens.getLast?).elim 0 Placed.pos
  stop (.failed (.unexpectedToken expected (← peek).display pos))

def reject (expected : Expectation) : Walker α := do
  retreat
  unexpected expected

def require (expected : Expectation) (is : Token → Bool) : Walker Unit := do
  if is (← advance) then pure () else reject expected

def check (x : Except CompileError α) : Walker α :=
  match x with
  | .ok a => pure a
  | .error e => stop (.failed e)

/-- Calls a reader inside one more group or negation. -/
def inside (w : Walker α) : Walker α := fun scope => w { scope with around := scope.around + 1 }

def nested (w : Walker α) : Walker α := do
  inside enter
  let a ← inside w
  leave
  pure a

end Walker

open Walker

def walkStartsCondition : Walker Bool := do
  let t ← peekAt 1
  let u ← peekAt 2
  pure (t.comparison?.isSome || t.isIn || (t.isNot && u.isIn))

def walkLiteral : Walker Literal := do
  match (← advance).literal? with
  | some l => pure l
  | none => reject .literal

def walkIndex (raw : String) : Walker Nat := do
  match Decimal.readNat? maxIndex raw.toList with
  | some n => pure n
  | none =>
    let pos := (← read).tokens[(← here).pos - 1]?.elim 0 Placed.pos
    stop (.failed (.unexpectedToken .index raw pos))

def walkDotted : Walker Segment := do
  match ← advance with
  | .ident name => pure (.name name)
  | .number _ raw => do pure (.index (← walkIndex raw))
  | _ => reject .nameOrIndex

def walkKey : Walker Segment := do
  match ← advance with
  | .str key => pure (.key key)
  | .number _ raw => do pure (.index (← walkIndex raw))
  | _ => reject .keyOrIndex

def walkBracketed : Walker Segment := do
  let segment ← walkKey
  require .closeBracket Token.isRbracket
  pure segment

def walkSegments : Nat → List Segment → Walker (List Segment)
  | 0, _ => stop .unfinished
  | turns + 1, segments => do
    match ← peek with
    | .dot =>
      let _ ← advance
      let segment ← walkDotted
      walkSegments turns (segments ++ [segment])
    | .lbracket =>
      let _ ← advance
      let segment ← walkBracketed
      walkSegments turns (segments ++ [segment])
    | _ => pure segments

def walkField (turns : Nat) : Walker Field := do
  match ← advance with
  | .ident name =>
    let segments ← walkSegments turns [.name name]
    check ((Field.resolve segments).mapError .ofSelector)
  | _ => reject .selector

def walkOperand (condition : Literal → Except CompileError Expr) : Walker Expr := do
  let l ← walkLiteral
  check (condition l)

def walkMember (turns : Nat) (condition : Field → Except CompileError Expr) : Walker Expr := do
  let f ← walkField turns
  check (condition f)

def walkFieldCondition (turns : Nat) : Walker Expr := do
  let f ← walkField turns
  let t ← peek
  match t.comparison? with
  | some op =>
    let _ ← advance
    walkOperand (checkComparison f op)
  | none =>
    match t with
    | .kwContains =>
      let _ ← advance
      walkOperand (checkContains f false)
    | .kwMatches =>
      let _ ← advance
      walkOperand (checkMatches f false)
    | .kwNot =>
      let _ ← advance
      match ← advance with
      | .kwContains => walkOperand (checkContains f true)
      | .kwMatches => walkOperand (checkMatches f true)
      | _ => reject .containsOrMatches
    | .kwIs =>
      let _ ← advance
      let negated := (← peek).isNot
      if negated then
        let _ ← advance
      require .empty Token.isEmptyWord
      pure (.isEmpty f negated)
    | _ => unexpected .operator

def walkLiteralCondition (turns : Nat) : Walker Expr := do
  let l ← walkLiteral
  let t ← peek
  match t.comparison? with
  | some op =>
    let _ ← advance
    walkMember turns (checkComparison · op.flipped l)
  | none =>
    if t.isIn then
      let _ ← advance
      walkMember turns (checkContains · false l)
    else if t.isNot && (← peekAt 1).isIn then
      let _ ← advance
      let _ ← advance
      walkMember turns (checkContains · true l)
    else unexpected .comparisonOrIn

def walkRowTail (isJoint : Token → Bool) (join : Expr → Expr → Expr) (operand : Walker Expr) :
    Nat → Expr → Walker Expr
  | 0, _ => stop .unfinished
  | turns + 1, lhs => do
    if isJoint (← peek) then
      let _ ← advance
      let rhs ← operand
      walkRowTail isJoint join operand turns (join lhs rhs)
    else pure lhs

def walkRow (isJoint : Token → Bool) (join : Expr → Expr → Expr) (turns : Nat)
    (operand : Walker Expr) : Walker Expr := do
  let lhs ← operand
  walkRowTail isJoint join operand turns lhs

def walkDisjunction (turns : Nat) (operand : Walker Expr) : Walker Expr :=
  walkRow Token.isOr .or turns (walkRow Token.isAnd .and turns operand)

def walkBoolean (turns : Nat) (value : Bool) : Walker Expr := do
  if ← walkStartsCondition then walkLiteralCondition turns
  else
    let _ ← advance
    pure (.const value)

def walkUnary : Nat → Walker Expr
  | 0 => stop .unfinished
  | turns + 1 => do
    match ← peek with
    | .kwNot =>
      let _ ← advance
      let e ← nested (walkUnary turns)
      pure (.not e)
    | .lparen =>
      let _ ← advance
      let e ← nested (walkDisjunction turns (walkUnary turns))
      require .closeParen Token.isRparen
      pure e
    | .kwTrue => walkBoolean turns true
    | .kwFalse => walkBoolean turns false
    | .str _ => walkLiteralCondition turns
    | .number _ _ => walkLiteralCondition turns
    | .ident _ => walkFieldCondition turns
    | _ => unexpected .expression

def walkExpression (turns : Nat) : Walker Expr := do
  if (← peek).isEof then stop (.failed .empty)
  else
    let e ← walkDisjunction turns (walkUnary turns)
    if (← peek).isEof then pure e else unexpected .endOfInput

/-- The walk over some tokens from the first one on, where each loop and each row of calls inside
each other is given some turns. -/
def walk (turns : Nat) (tokens : List Placed) : Traced.Run Place Moment CompileError Expr :=
  walkExpression turns ⟨tokens, 0⟩ ⟨0, 0⟩

end ConditionalGateway.Predicate
