import ConditionalGateway.Predicate.Expr

/-!
# Errors of compilation

Why a text is no predicate. The wording stands in `CompileError.message` alone.
-/

namespace ConditionalGateway.Predicate

inductive Expectation where
  | endOfInput
  | closeParen
  | expression
  | containsOrMatches
  | empty
  | operator
  | comparisonOrIn
  | selector
  | nameOrIndex
  | keyOrIndex
  | closeBracket
  | literal
  | index
  deriving DecidableEq, Repr

def Expectation.display : Expectation → String
  | .endOfInput => "end of input"
  | .closeParen => "')'"
  | .expression => "expression"
  | .containsOrMatches => "'contains' or 'matches'"
  | .empty => "'empty'"
  | .operator => "operator"
  | .comparisonOrIn => "comparison operator or 'in'"
  | .selector => "field selector"
  | .nameOrIndex => "field name or index"
  | .keyOrIndex => "string key or index"
  | .closeBracket => "']'"
  | .literal => "literal"
  | .index => "non-negative integer index"

inductive Operator where
  | comparison (op : Comparison)
  | contains (negated : Bool)
  | matches (negated : Bool)
  deriving DecidableEq, Repr

def Operator.display : Operator → String
  | .comparison op => op.display
  | .contains false => "contains"
  | .contains true => "not contains"
  | .matches false => "matches"
  | .matches true => "not matches"

inductive Incompatibility where
  | listNeedsIndex
  | boolsNotOrdered
  | needsNumericLiteral
  | needleNotString
  | numberHasNoMembers
  | patternNotString
  | onlyTextMatches
  deriving DecidableEq, Repr

def Incompatibility.display : Incompatibility → String
  | .listNeedsIndex => "multi-valued field needs an index, or use contains/in"
  | .boolsNotOrdered => "booleans are not ordered"
  | .needsNumericLiteral => "numeric field needs a numeric literal"
  | .needleNotString => "needle must be a string"
  | .numberHasNoMembers => "numeric fields have no members"
  | .patternNotString => "pattern must be a string"
  | .onlyTextMatches => "only text fields can be matched"

/-- Why a text is no predicate. Places are byte offsets. -/
inductive CompileError where
  | empty
  | tooLong (length limit : Nat)
  | unexpectedChar (found : Char) (pos : Nat)
  | unterminatedString (pos : Nat)
  | invalidEscape (found : Char) (pos : Nat)
  | invalidNumber (text : String) (pos : Nat)
  | unexpectedToken (expected : Expectation) (found : String) (pos : Nat)
  | tooDeep (limit : Nat)
  | unknownField (selector : String)
  | invalidHeaderName (name : String)
  | unsupportedOperator (operator : Operator) (field : Field) (reason : Incompatibility)
  | invalidPattern (pattern : String)
  deriving DecidableEq, Repr

def CompileError.ofSelector : SelectorError → CompileError
  | .unknownField s => .unknownField s
  | .invalidHeaderName n => .invalidHeaderName n

/-- The wording of an error. What is wrong with a pattern is not told. -/
def CompileError.message : CompileError → String
  | .empty => "empty expression"
  | .tooLong n limit =>
    "expression is " ++ toString n ++ " bytes long, limit is " ++ toString limit
  | .unexpectedChar c pos => "unexpected character " ++ Text.quotedChar c ++ " at " ++ toString pos
  | .unterminatedString pos => "unterminated string starting at " ++ toString pos
  | .invalidEscape c pos =>
    "invalid escape sequence \\" ++ String.singleton c ++ " at " ++ toString pos
  | .invalidNumber text pos => "invalid number " ++ Text.quoted text ++ " at " ++ toString pos
  | .unexpectedToken expected found pos =>
    "expected " ++ expected.display ++ " at " ++ toString pos ++ ", found " ++ found
  | .tooDeep limit => "expression nests deeper than " ++ toString limit ++ " levels"
  | .unknownField s => "unknown field " ++ Text.quoted s
  | .invalidHeaderName n => "invalid header name " ++ Text.quoted n
  | .unsupportedOperator op f reason =>
    "operator " ++ op.display ++ " is not supported on " ++ f.display ++ " (" ++ reason.display
      ++ ")"
  | .invalidPattern p => "invalid regular expression " ++ Text.quoted p ++ ": <regex error>"

end ConditionalGateway.Predicate
