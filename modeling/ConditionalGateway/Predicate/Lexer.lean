import ConditionalGateway.Predicate.Token
import ConditionalGateway.Predicate.Error
import ConditionalGateway.Decimal.Reading

/-!
# From text to tokens

`scan` reads one token and tells how many characters it takes up; `tokenize`
reads them all, skips the blanks between them, and ends with one token for the
end of the input. A token is as long as it can be.
-/

namespace ConditionalGateway.Predicate

open Unicode (isBlank isAsciiDigit isAlphabetic isAlphanumeric)

/-- Why no token can be read. The offset counts the bytes since the token's start. -/
inductive ScanError where
  | unexpectedChar (found : Char)
  | unterminatedString
  | invalidEscape (found : Char) (offset : Nat)
  | invalidNumber (text : String)
  deriving DecidableEq, Repr

def ScanError.at (pos : Nat) : ScanError → CompileError
  | .unexpectedChar c => .unexpectedChar c pos
  | .unterminatedString => .unterminatedString pos
  | .invalidEscape c offset => .invalidEscape c (pos + offset)
  | .invalidNumber text => .invalidNumber text pos

structure Lexeme where
  token : Token
  length : Nat
  deriving Inhabited

/-- The text of a string and the number of characters up to and with its closing delimiter. -/
structure StringBody where
  text : List Char
  length : Nat

/-- Puts a character in front, which took up `n` characters of the source. -/
def StringBody.cons (c : Char) (n : Nat) (b : StringBody) : StringBody :=
  ⟨c :: b.text, n + b.length⟩

def unescape? : Char → Option Char
  | '"' => some '"'
  | '\\' => some '\\'
  | 'n' => some '\n'
  | 't' => some '\t'
  | 'r' => some '\r'
  | _ => none

def scanQuoted (offset : Nat) : List Char → Except ScanError StringBody
  | [] => .error .unterminatedString
  | c :: rest =>
    if c = '"' then .ok ⟨[], 1⟩
    else if c = '\\' then
      match rest with
      | [] => .error .unterminatedString
      | e :: rest =>
        match unescape? e with
        | none => .error (.invalidEscape e offset)
        | some d => (scanQuoted (offset + 1 + e.utf8Size) rest).map (.cons d 2)
    else (scanQuoted (offset + c.utf8Size) rest).map (.cons c 1)

/-- Reads a string between backticks from behind the first one. It is taken as it stands. -/
def scanRaw : List Char → Except ScanError StringBody
  | [] => .error .unterminatedString
  | c :: rest => if c = '`' then .ok ⟨[], 1⟩ else (scanRaw rest).map (.cons c 1)

def isWordChar (c : Char) : Bool := isAlphanumeric c || c == '_'

def fractionPart : List Char → List Char
  | '.' :: d :: rest =>
    if isAsciiDigit d then '.' :: d :: rest.takeWhile isAsciiDigit else []
  | _ => []

/-- The spelling of a number. Behind a dot it is an index, which has no fraction. -/
def numberText (afterDot : Bool) (cs : List Char) : List Char :=
  let sign := match cs with
    | '-' :: _ => ['-']
    | _ => []
  let body := cs.drop sign.length
  let whole := body.takeWhile isAsciiDigit
  let fraction := if afterDot then [] else fractionPart (body.dropWhile isAsciiDigit)
  sign ++ whole ++ fraction

def scanNumber (afterDot : Bool) (cs : List Char) : Except ScanError Lexeme :=
  let text := numberText afterDot cs
  match Decimal.readFloat? text with
  | some x => .ok ⟨.number x (String.ofList text), text.length⟩
  | none => .error (.invalidNumber (String.ofList text))

def scanWord (cs : List Char) : Lexeme :=
  let word := cs.takeWhile isWordChar
  ⟨.ofWord (String.ofList word), word.length⟩

/-- A token that one character decides, or two if `second` follows. -/
def oneOrTwo (second : Char) (short long : Token) : List Char → Lexeme
  | c :: _ => if c = second then ⟨long, 2⟩ else ⟨short, 1⟩
  | [] => ⟨short, 1⟩

def doubled (c : Char) (token : Token) : List Char → Except ScanError Lexeme
  | d :: _ => if d = c then .ok ⟨token, 2⟩ else .error (.unexpectedChar c)
  | [] => .error (.unexpectedChar c)

def StringBody.lexeme (b : StringBody) : Lexeme := ⟨.str (String.ofList b.text), b.length + 1⟩

def scan (afterDot : Bool) (c : Char) (rest : List Char) : Except ScanError Lexeme :=
  if c = '(' then .ok ⟨.lparen, 1⟩
  else if c = ')' then .ok ⟨.rparen, 1⟩
  else if c = '[' then .ok ⟨.lbracket, 1⟩
  else if c = ']' then .ok ⟨.rbracket, 1⟩
  else if c = '.' then .ok ⟨.dot, 1⟩
  else if c = '=' then doubled '=' .eq rest
  else if c = '!' then .ok (oneOrTwo '=' .kwNot .ne rest)
  else if c = '<' then .ok (oneOrTwo '=' .lt .le rest)
  else if c = '>' then .ok (oneOrTwo '=' .gt .ge rest)
  else if c = '&' then doubled '&' .kwAnd rest
  else if c = '|' then doubled '|' .kwOr rest
  else if c = '"' then (scanQuoted 1 rest).map (·.lexeme)
  else if c = '`' then (scanRaw rest).map (·.lexeme)
  else if isAsciiDigit c || c = '-' then scanNumber afterDot (c :: rest)
  else if isAlphabetic c || c = '_' then .ok (scanWord (c :: rest))
  else .error (.unexpectedChar c)

/-- Reads the tokens from `pos` on. A token takes the first character and `length - 1` more. -/
def tokensFrom (afterDot : Bool) (pos : Nat) : List Char → Except CompileError (List Placed)
  | [] => .ok [⟨.eof, pos⟩]
  | c :: rest =>
    if isBlank c then tokensFrom afterDot (pos + c.utf8Size) rest
    else
      match scan afterDot c rest with
      | .error e => .error (e.at pos)
      | .ok lexeme => do
        let next := pos + Text.byteLength ((c :: rest).take lexeme.length)
        let more ← tokensFrom lexeme.token.isDot next (rest.drop (lexeme.length - 1))
        .ok (⟨lexeme.token, pos⟩ :: more)
termination_by cs => cs.length
decreasing_by all_goals simp only [List.length_drop, List.length_cons]; omega

def tokenize (source : String) : Except CompileError (List Placed) :=
  tokensFrom false 0 source.toList

end ConditionalGateway.Predicate
