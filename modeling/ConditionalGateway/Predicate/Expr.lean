import ConditionalGateway.Predicate.Field
import ConditionalGateway.Pattern.Basic

/-!
# Predicate expressions

The checked tree of a predicate and its meaning on a request. A conjunction and
a disjunction look at their second operand only where the first one leaves the
answer open, so an operand that is skipped cannot fail.
-/

namespace ConditionalGateway.Predicate

open Http

inductive Comparison where
  | eq
  | ne
  | lt
  | le
  | gt
  | ge
  deriving DecidableEq, Repr, Inhabited

def Comparison.flipped : Comparison → Comparison
  | .eq => .eq
  | .ne => .ne
  | .lt => .gt
  | .le => .ge
  | .gt => .lt
  | .ge => .le

def Comparison.isOrdering : Comparison → Bool
  | .eq => false
  | .ne => false
  | _ => true

def Comparison.display : Comparison → String
  | .eq => "=="
  | .ne => "!="
  | .lt => "<"
  | .le => "<="
  | .gt => ">"
  | .ge => ">="

inductive Literal where
  | str (s : String)
  | number (x : Float)
  | bool (b : Bool)
  deriving Inhabited

def Literal.display : Literal → String
  | .str s => Text.quoted s
  | .number x => Decimal.display x
  | .bool true => "true"
  | .bool false => "false"

inductive Expr where
  | const (value : Bool)
  | and (lhs rhs : Expr)
  | or (lhs rhs : Expr)
  | not (inner : Expr)
  | compare (field : Field) (op : Comparison) (literal : Literal)
  | contains (field : Field) (needle : String) (negated : Bool)
  | matches (field : Field) (pattern : Pattern) (negated : Bool)
  | isEmpty (field : Field) (negated : Bool)
  deriving Inhabited

def Comparison.holds : Comparison → Ordering → Bool
  | .eq, o => o == .eq
  | .ne, o => o != .eq
  | .lt, o => o == .lt
  | .le, o => o != .gt
  | .gt, o => o == .gt
  | .ge, o => o != .lt

/-- Compares doubles as they are: no tolerance, and what is no number differs from everything. -/
def Comparison.holdsNumbers (op : Comparison) (x y : Float) : Bool :=
  match op with
  | .eq => x == y
  | .ne => x != y
  | .lt => x < y
  | .le => x ≤ y
  | .gt => y < x
  | .ge => y ≤ x

def textOrder (s t : String) : Ordering :=
  if s < t then .lt else if s = t then .eq else .gt

def boolOrder : Bool → Bool → Ordering
  | false, true => .lt
  | true, false => .gt
  | _, _ => .eq

def boolOfText? (s : String) : Option Bool :=
  match String.ofList ((Unicode.trim s.toList).map Unicode.asciiLower) with
  | "true" => some true
  | "1" => some true
  | "false" => some false
  | "0" => some false
  | _ => none

def occursIn (needle : List Char) : List Char → Bool
  | [] => needle.isEmpty
  | c :: cs => needle.isPrefixOf (c :: cs) || occursIn needle cs

/-- Compares the value of a field with a literal. A text is converted to the literal's kind. -/
def compareValue (f : Field) (op : Comparison) :
    FieldValue → Literal → Except EvaluationError Bool
  | .text s, .str t => .ok (op.holds (textOrder s t))
  | .text s, .number y =>
    match Decimal.readFloat? (Unicode.trim s.toList) with
    | some x => .ok (op.holdsNumbers x y)
    | none => .error (.typeMismatch f .number s)
  | .text s, .bool b =>
    match boolOfText? s with
    | some a => .ok (op.holds (boolOrder a b))
    | none => .error (.typeMismatch f .boolean s)
  | .number x, .number y => .ok (op.holdsNumbers x y)
  | .number _, l => .error (.typeMismatch f .number l.display)
  | .list vs, _ => .error (.typeMismatch f .singleValue (String.intercalate "," vs))

/-- Whether a field contains a needle: a text as a part, a list as a member. -/
def containsValue (f : Field) (needle : String) : FieldValue → Except EvaluationError Bool
  | .text s => .ok (occursIn needle.toList s.toList)
  | .list vs => .ok (vs.contains needle)
  | .number x => .error (.typeMismatch f .textOrList (Decimal.display x))

def matchesValue (f : Field) (p : Pattern) : FieldValue → Except EvaluationError Bool
  | .text s => .ok (p.isMatch s)
  | .list vs => .error (.typeMismatch f .singleValue (String.intercalate "," vs))
  | .number x => .error (.typeMismatch f .text (Decimal.display x))

/-- Whether what was read is nothing; what is missing is nothing as well. -/
def emptyValue : Except EvaluationError FieldValue → Except EvaluationError Bool
  | .ok (.text s) => .ok s.isEmpty
  | .ok (.list vs) => .ok vs.isEmpty
  | .ok (.number _) => .ok false
  | .error (.missingField _) => .ok true
  | .error (.indexOutOfRange _ _ _) => .ok true
  | .error e => .error e

def Expr.eval (r : Request) : Expr → Except EvaluationError Bool
  | .const b => .ok b
  | .and a b =>
    match a.eval r with
    | .error e => .error e
    | .ok false => .ok false
    | .ok true => b.eval r
  | .or a b =>
    match a.eval r with
    | .error e => .error e
    | .ok true => .ok true
    | .ok false => b.eval r
  | .not a => (a.eval r).map fun b => !b
  | .compare f op l => do compareValue f op (← f.read r) l
  | .contains f needle negated => do
    return (← containsValue f needle (← f.read r)) != negated
  | .matches f p negated => do
    return (← matchesValue f p (← f.read r)) != negated
  | .isEmpty f negated => do
    return (← emptyValue (f.read r)) != negated

end ConditionalGateway.Predicate
