import ConditionalGateway.Predicate.Parser
import Mathlib

/-!
# The grammar of predicates

Which tokens form an expression (`Derives`), how deep a syntax tree nests
(`Tree.depth`), and which expression a tree denotes (`Tree.Denotes`). The
grammar is about tokens alone; that an index is a number, that a selector names
a field, and that an operator goes with its operands is left to the denotation,
so a tree may denote nothing.
-/

namespace ConditionalGateway.Predicate

-- ---------------------------------------------------------------------------
-- Syntax trees
-- ---------------------------------------------------------------------------

/-- One step of a selector, as it is written: an index is still its spelling. -/
inductive Step where
  | name (text : String)
  | key (text : String)
  | index (raw : String)

structure Selector where
  root : String
  steps : List Step

inductive Condition where
  | compare (s : Selector) (op : Comparison) (l : Literal)
  | compareSwapped (l : Literal) (op : Comparison) (s : Selector)
  | contains (s : Selector) (negated : Bool) (l : Literal)
  | matches (s : Selector) (negated : Bool) (source : String)
  | isEmpty (s : Selector) (negated : Bool)
  | member (l : Literal) (negated : Bool) (s : Selector)

inductive Tree where
  | const (value : Bool)
  | condition (c : Condition)
  | not (inner : Tree)
  | group (inner : Tree)
  | and (lhs rhs : Tree)
  | or (lhs rhs : Tree)

/-- The most groups and negations that any part of a tree lies inside. -/
def Tree.depth : Tree → Nat
  | .const _ => 0
  | .condition _ => 0
  | .not t => t.depth + 1
  | .group t => t.depth + 1
  | .and a b => max a.depth b.depth
  | .or a b => max a.depth b.depth

-- ---------------------------------------------------------------------------
-- Derivations
-- ---------------------------------------------------------------------------

def Comparison.token : Comparison → Token
  | .eq => .eq
  | .ne => .ne
  | .lt => .lt
  | .le => .le
  | .gt => .gt
  | .ge => .ge

inductive Literal.Derives : Token → Literal → Prop
  | str (s : String) : Literal.Derives (.str s) (.str s)
  | number (x : Float) (raw : String) : Literal.Derives (.number x raw) (.number x)
  | true : Literal.Derives .kwTrue (.bool true)
  | false : Literal.Derives .kwFalse (.bool false)

inductive Step.Derives : List Token → Step → Prop
  | name (text : String) : Step.Derives [.dot, .ident text] (.name text)
  | dotIndex (x : Float) (raw : String) : Step.Derives [.dot, .number x raw] (.index raw)
  | key (text : String) : Step.Derives [.lbracket, .str text, .rbracket] (.key text)
  | index (x : Float) (raw : String) :
      Step.Derives [.lbracket, .number x raw, .rbracket] (.index raw)

inductive StepsDerive : List Token → List Step → Prop
  | nil : StepsDerive [] []
  | cons : s.Derives ts → StepsDerive us ss → StepsDerive (ts ++ us) (s :: ss)

inductive Selector.Derives : List Token → Selector → Prop
  | mk (root : String) : StepsDerive ts ss → Selector.Derives (.ident root :: ts) ⟨root, ss⟩

/-- The word for a negation inside a condition, if it is negated. -/
def notTokens : Bool → List Token
  | false => []
  | true => [.kwNot]

inductive Condition.Derives : List Token → Condition → Prop
  | compare (op : Comparison) : Selector.Derives ts s → Literal.Derives t l →
      Condition.Derives (ts ++ [op.token, t]) (.compare s op l)
  | compareSwapped (op : Comparison) : Literal.Derives t l → Selector.Derives ts s →
      Condition.Derives (t :: op.token :: ts) (.compareSwapped l op s)
  | contains (negated : Bool) : Selector.Derives ts s → Literal.Derives t l →
      Condition.Derives (ts ++ notTokens negated ++ [.kwContains, t]) (.contains s negated l)
  | matches (negated : Bool) (source : String) : Selector.Derives ts s →
      Condition.Derives (ts ++ notTokens negated ++ [.kwMatches, .str source])
        (.matches s negated source)
  | isEmpty (negated : Bool) : Selector.Derives ts s →
      Condition.Derives (ts ++ .kwIs :: notTokens negated ++ [.kwEmpty]) (.isEmpty s negated)
  | member (negated : Bool) : Literal.Derives t l → Selector.Derives ts s →
      Condition.Derives (t :: notTokens negated ++ .kwIn :: ts) (.member l negated s)

/-- The nonterminals for expressions, from the loosest to the tightest. -/
inductive Rank where
  | disjunction
  | conjunction
  | unary
  | primary

/-- The derivations of expressions. A row of operands grows at its right end, so it leans to the
left. -/
inductive Derives : Rank → List Token → Tree → Prop
  | conjunction : Derives .conjunction ts t → Derives .disjunction ts t
  | or : Derives .disjunction ts a → Derives .conjunction us b →
      Derives .disjunction (ts ++ .kwOr :: us) (.or a b)
  | unary : Derives .unary ts t → Derives .conjunction ts t
  | and : Derives .conjunction ts a → Derives .unary us b →
      Derives .conjunction (ts ++ .kwAnd :: us) (.and a b)
  | primary : Derives .primary ts t → Derives .unary ts t
  | not : Derives .unary ts t → Derives .unary (.kwNot :: ts) (.not t)
  | group : Derives .disjunction ts t → Derives .primary (.lparen :: ts ++ [.rparen]) (.group t)
  | true : Derives .primary [.kwTrue] (.const true)
  | false : Derives .primary [.kwFalse] (.const false)
  | condition : Condition.Derives ts c → Derives .primary ts (.condition c)

-- ---------------------------------------------------------------------------
-- Denotations
-- ---------------------------------------------------------------------------

/-- A text is the decimal spelling of an index: digits and nothing else, below 2 ^ 64. -/
structure PlainIndex (raw : String) (n : Nat) : Prop where
  nonempty : raw.toList ≠ []
  digits : ∀ c ∈ raw.toList, Unicode.isAsciiDigit c = true
  value : Decimal.natOfDigits raw.toList = n
  bound : n < 2 ^ 64

inductive Step.Denotes : Step → Segment → Prop
  | name (text : String) : Step.Denotes (.name text) (.name text)
  | key (text : String) : Step.Denotes (.key text) (.key text)
  | index : PlainIndex raw n → Step.Denotes (.index raw) (.index n)

def Selector.Denotes (s : Selector) (f : Field) : Prop :=
  ∃ segments, List.Forall₂ Step.Denotes s.steps segments ∧
    Field.resolve (.name s.root :: segments) = .ok f

/-- `ComparesWith f op l l'`: a field can be compared with the literal `l`, which then counts as
`l'`. -/
inductive ComparesWith (f : Field) (op : Comparison) : Literal → Literal → Prop
  | textStr (s : String) : f.kind = .text → ComparesWith f op (.str s) (.str s)
  | textNumber (x : Float) : f.kind = .text → ComparesWith f op (.number x) (.number x)
  | textBool (b : Bool) : f.kind = .text → op = .eq ∨ op = .ne →
      ComparesWith f op (.bool b) (.bool b)
  | number (x : Float) : f.kind = .number → ComparesWith f op (.number x) (.number x)
  | numeral : f.kind = .number → Decimal.readFloat? (Unicode.trim s.toList) = some x →
      ComparesWith f op (.str s) (.number x)

inductive Condition.Denotes : Condition → Expr → Prop
  | compare : s.Denotes f → ComparesWith f op l l' →
      Condition.Denotes (.compare s op l) (.compare f op l')
  | compareSwapped : s.Denotes f → ComparesWith f op.flipped l l' →
      Condition.Denotes (.compareSwapped l op s) (.compare f op.flipped l')
  | contains : s.Denotes f → f.kind ≠ .number →
      Condition.Denotes (.contains s negated (.str needle)) (.contains f needle negated)
  | matches : s.Denotes f → f.kind = .text → Pattern.compile? raw = some p →
      Condition.Denotes (.matches s negated raw) (.matches f p negated)
  | isEmpty : s.Denotes f → Condition.Denotes (.isEmpty s negated) (.isEmpty f negated)
  | member : s.Denotes f → f.kind ≠ .number →
      Condition.Denotes (.member (.str needle) negated s) (.contains f needle negated)

/-- The expression of a tree: a group is what stands in it. -/
inductive Tree.Denotes : Tree → Expr → Prop
  | const (b : Bool) : Tree.Denotes (.const b) (.const b)
  | condition : c.Denotes e → Tree.Denotes (.condition c) e
  | not : Tree.Denotes t e → Tree.Denotes (.not t) (.not e)
  | group : Tree.Denotes t e → Tree.Denotes (.group t) e
  | and : Tree.Denotes a x → Tree.Denotes b y → Tree.Denotes (.and a b) (.and x y)
  | or : Tree.Denotes a x → Tree.Denotes b y → Tree.Denotes (.or a b) (.or x y)

end ConditionalGateway.Predicate
