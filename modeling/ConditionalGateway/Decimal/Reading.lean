import ConditionalGateway.Decimal.Binary64
import ConditionalGateway.Unicode.Classes

/-!
# Reading numbers

The written form of a double: a sign, then digits with an optional point and
an optional exponent, or the words for infinity and for what is no number. The
value is the double nearest to the number written. Natural numbers are read
with a bound; they may have a plus sign.
-/

namespace ConditionalGateway.Decimal

open Unicode (isAsciiDigit asciiLower)

def digitValue (c : Char) : Nat := c.toNat - 48

def natOfDigits (cs : List Char) : Nat := cs.foldl (fun n c => n * 10 + digitValue c) 0

/-- An unsigned decimal number: `coefficient * 10 ^ exponent`. -/
structure Numeral where
  coefficient : Nat
  exponent : Int
  deriving Repr, DecidableEq

/-- The double nearest to a numeral. Exponents far beyond the range of doubles are decided
without working the power out. -/
def Numeral.toFloat (n : Numeral) (negative : Bool) : Float :=
  let size : Int := (Nat.toDigits 10 n.coefficient).length + n.exponent
  if n.coefficient = 0 || size < -400 then ofRatio negative 0 1
  else if size > 400 then ofRatio negative (Nat.pow 2 2000) 1
  else if n.exponent < 0 then ofRatio negative n.coefficient (Nat.pow 10 n.exponent.natAbs)
  else ofRatio negative (n.coefficient * Nat.pow 10 n.exponent.natAbs) 1

def splitSign : List Char → Bool × List Char
  | '-' :: cs => (true, cs)
  | '+' :: cs => (false, cs)
  | cs => (false, cs)

/-- The exponent that ends a number: nothing, or the letter `e`, a sign and digits. -/
def exponentPart? : List Char → Option Int
  | [] => some 0
  | c :: cs =>
    if c = 'e' || c = 'E' then
      let (negative, ds) := splitSign cs
      if ds.isEmpty || !ds.all isAsciiDigit then none
      else
        let n : Int := natOfDigits ds
        some (if negative then -n else n)
    else none

def numeral? (cs : List Char) : Option Numeral :=
  let whole := cs.takeWhile isAsciiDigit
  let rest := cs.dropWhile isAsciiDigit
  let (fraction, rest) :=
    match rest with
    | '.' :: after => (after.takeWhile isAsciiDigit, after.dropWhile isAsciiDigit)
    | _ => ([], rest)
  if whole.isEmpty && fraction.isEmpty then none
  else
    (exponentPart? rest).map fun e =>
      ⟨natOfDigits (whole ++ fraction), e - fraction.length⟩

def notANumber : Float := Float.ofBits 0x7FF8000000000000

def readFloat? (cs : List Char) : Option Float :=
  let (negative, body) := splitSign cs
  let word := String.ofList (body.map asciiLower)
  if word = "inf" || word = "infinity" then some (ofRatio negative (Nat.pow 2 2000) 1)
  else if word = "nan" then some notANumber
  else (numeral? body).map fun n => n.toFloat negative

def readNat? (last : Nat) (cs : List Char) : Option Nat :=
  let body := match cs with
    | '+' :: rest => rest
    | _ => cs
  if body.isEmpty || !body.all isAsciiDigit then none
  else
    let n := natOfDigits body
    if n ≤ last then some n else none

end ConditionalGateway.Decimal
