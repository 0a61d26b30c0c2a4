import ConditionalGateway.Text.Quoted

/-!
# Tokens of the predicate language
-/

namespace ConditionalGateway.Predicate

/-- What a token is. A number keeps its spelling beside its value. -/
inductive Token where
  | ident (name : String)
  | str (text : String)
  | number (value : Float) (raw : String)
  | kwTrue
  | kwFalse
  | kwAnd
  | kwOr
  | kwNot
  | kwIn
  | kwContains
  | kwMatches
  | kwIs
  | kwEmpty
  | eq
  | ne
  | lt
  | le
  | gt
  | ge
  | lparen
  | rparen
  | lbracket
  | rbracket
  | dot
  | eof
  deriving Inhabited

structure Placed where
  token : Token
  pos : Nat
  deriving Inhabited

def Token.display : Token → String
  | .ident name => "identifier " ++ Text.quoted name
  | .str text => "string " ++ Text.quoted text
  | .number _ raw => "number " ++ raw
  | .kwTrue => "'true'"
  | .kwFalse => "'false'"
  | .kwAnd => "'and'"
  | .kwOr => "'or'"
  | .kwNot => "'not'"
  | .kwIn => "'in'"
  | .kwContains => "'contains'"
  | .kwMatches => "'matches'"
  | .kwIs => "'is'"
  | .kwEmpty => "'empty'"
  | .eq => "'=='"
  | .ne => "'!='"
  | .lt => "'<'"
  | .le => "'<='"
  | .gt => "'>'"
  | .ge => "'>='"
  | .lparen => "'('"
  | .rparen => "')'"
  | .lbracket => "'['"
  | .rbracket => "']'"
  | .dot => "'.'"
  | .eof => "end of input"

def Token.ofWord : String → Token
  | "true" => .kwTrue
  | "false" => .kwFalse
  | "and" => .kwAnd
  | "or" => .kwOr
  | "not" => .kwNot
  | "in" => .kwIn
  | "contains" => .kwContains
  | "matches" => .kwMatches
  | "is" => .kwIs
  | "empty" => .kwEmpty
  | word => .ident word

def Token.isDot : Token → Bool
  | .dot => true
  | _ => false

end ConditionalGateway.Predicate
