import ConditionalGateway.Config.Value
import ConditionalGateway.Decimal.Reading
import ConditionalGateway.Toml.Text

/-!
# Numbers, dates and booleans

The values of TOML without parts. Underscores stand between digits only, a
decimal number has no needless zero, an integer has 64 bits, and no number is
too large for a double. A date, or a time, is a table with its text under a
name that no configuration uses.
-/

namespace ConditionalGateway.Toml

open Unicode Config

/-- Reads more digits, each of which an underscore may precede; `read` has those read so far, the
last one first. -/
def readMoreDigits (isDigit : Char → Bool) (read : List Char) : List Char → List Char × List Char
  | [] => (read.reverse, [])
  | '_' :: c :: rest =>
    if isDigit c then readMoreDigits isDigit (c :: read) rest
    else (read.reverse, '_' :: c :: rest)
  | c :: rest =>
    if isDigit c then readMoreDigits isDigit (c :: read) rest else (read.reverse, c :: rest)

def readDigits? (isDigit : Char → Bool) : Reader (List Char)
  | [] => none
  | c :: rest => if isDigit c then some (readMoreDigits isDigit [c] rest) else none

def readSign : List Char → List Char × List Char
  | '+' :: rest => ([], rest)
  | '-' :: rest => (['-'], rest)
  | cs => ([], cs)

/-- Reads the digits of a decimal integer: a zero stands alone. -/
def readDecimal? : Reader (List Char)
  | '0' :: rest => some (['0'], rest)
  | cs => readDigits? isAsciiDigit cs

def integer? (n : Int) : Option Value :=
  if -9223372036854775808 ≤ n ∧ n ≤ 9223372036854775807 then some (.integer n) else none

def readRadix? (radix : Nat) (isDigit : Char → Bool) : Reader Value := fun cs => do
  let (digits, rest) ← readDigits? isDigit cs
  some (← integer? (natOfRadix radix digits), rest)

def readInteger? : Reader Value := fun cs =>
  match cs with
  | '0' :: 'x' :: rest => readRadix? 16 isHexDigit rest
  | '0' :: 'o' :: rest => readRadix? 8 (fun c => 48 ≤ c.toNat && c.toNat ≤ 55) rest
  | '0' :: 'b' :: rest => readRadix? 2 (fun c => c == '0' || c == '1') rest
  | cs => do
    let (sign, rest) := readSign cs
    let (digits, rest) ← readDecimal? rest
    let n : Int := natOfRadix 10 digits
    some (← integer? (if sign.isEmpty then n else -n), rest)

def readExponent? : Reader (List Char) := fun cs =>
  match cs with
  | e :: rest =>
    if e = 'e' ∨ e = 'E' then do
      let (sign, rest) := readSign rest
      let (digits, rest) ← readDigits? isAsciiDigit rest
      some ('e' :: sign ++ digits, rest)
    else none
  | [] => none

def readFraction? : Reader (List Char)
  | '.' :: rest => (readDigits? isAsciiDigit rest).map fun (digits, rest) => ('.' :: digits, rest)
  | _ => none

def readReal? : Reader Value := fun cs => do
  let (sign, rest) := readSign cs
  let (whole, rest) ← readDecimal? rest
  let (tail, rest) ←
    match readFraction? rest with
    | some (fraction, rest) =>
      match readExponent? rest with
      | some (exponent, rest) => some (fraction ++ exponent, rest)
      | none => some (fraction, rest)
    | none => readExponent? rest
  let x ← Decimal.readFloat? (sign ++ whole ++ tail)
  if x.isInf && sign.isEmpty then none
  some (.real x, rest)

/-- Reads the numbers that are none. -/
def readSpecial? : Reader Value := fun cs =>
  let (sign, rest) := readSign cs
  match rest with
  | 'i' :: 'n' :: 'f' :: rest =>
    some (.real (if sign.isEmpty then 1.0 / 0.0 else -1.0 / 0.0), rest)
  | 'n' :: 'a' :: 'n' :: rest => some (.real (0.0 / 0.0), rest)
  | _ => none

def readBool? : Reader Value
  | 't' :: 'r' :: 'u' :: 'e' :: rest => some (.bool true, rest)
  | 'f' :: 'a' :: 'l' :: 's' :: 'e' :: rest => some (.bool false, rest)
  | _ => none

-- Dates and times

def readField? (digits lo hi : Nat) : Reader Nat := fun cs =>
  let ds := cs.take digits
  let n := Decimal.natOfDigits ds
  if ds.length < digits || !ds.all isAsciiDigit || n < lo || hi < n then none
  else some (n, cs.drop digits)

def expect? (c : Char) : List Char → Option (List Char)
  | d :: rest => if c = d then some rest else none
  | [] => none

def daysIn (year month : Nat) : Nat :=
  let leap := year % 4 = 0 ∧ (year % 100 ≠ 0 ∨ year % 400 = 0)
  if month = 2 then (if leap then 29 else 28)
  else if month ∈ [4, 6, 9, 11] then 30
  else 31

def padded (width n : Nat) : String :=
  let ds := Nat.toDigits 10 n
  String.ofList (List.replicate (width - ds.length) '0' ++ ds)

def readDate? : Reader String := fun cs => do
  let (year, rest) ← readField? 4 0 9999 cs
  let (month, rest) ← readField? 2 1 12 (← expect? '-' rest)
  let (day, rest) ← readField? 2 1 31 (← expect? '-' rest)
  if daysIn year month < day then none
  some (padded 4 year ++ "-" ++ padded 2 month ++ "-" ++ padded 2 day, rest)

/-- Nine digits behind the point count, and zeros at the end do not. -/
def fractionText (digits : List Char) : String :=
  let kept := ((digits.take 9).reverse.dropWhile (· = '0')).reverse
  if kept.isEmpty then "" else String.ofList ('.' :: kept)

def readTime? : Reader String := fun cs => do
  let (hour, rest) ← readField? 2 0 23 cs
  let (minute, rest) ← readField? 2 0 59 (← expect? ':' rest)
  let (second, rest) ← readField? 2 0 60 (← expect? ':' rest)
  let front := padded 2 hour ++ ":" ++ padded 2 minute ++ ":" ++ padded 2 second
  match rest with
  | '.' :: rest =>
    let digits := rest.takeWhile isAsciiDigit
    if digits.isEmpty then none
    some (front ++ fractionText digits, rest.dropWhile isAsciiDigit)
  | rest => some (front, rest)

def readOffset? : Reader String := fun cs =>
  let signed := fun (sign : String) rest => do
    let (hour, rest) ← readField? 2 0 23 rest
    let (minute, rest) ← readField? 2 0 59 (← expect? ':' rest)
    let sign := if hour = 0 && minute = 0 then "+" else sign
    some (sign ++ padded 2 hour ++ ":" ++ padded 2 minute, rest)
  match cs with
  | 'Z' :: rest => some ("Z", rest)
  | 'z' :: rest => some ("Z", rest)
  | '+' :: rest => signed "+" rest
  | '-' :: rest => signed "-" rest
  | cs => some ("", cs)

/-- Reads the time behind a date, if one follows a mark or a space. -/
def readTimeBehindDate : List Char → Option (String × List Char)
  | c :: rest =>
    if c = 'T' ∨ c = 't' ∨ c = ' ' then do
      let (time, rest) ← readTime? rest
      let (offset, rest) ← readOffset? rest
      some ("T" ++ time ++ offset, rest)
    else none
  | [] => none

def dateKey : String := "$__toml_private_datetime"

def readDateTime? : Reader Value := fun cs => do
  let (text, rest) ←
    match readDate? cs with
    | some (date, rest) =>
      match readTimeBehindDate rest with
      | some (time, rest) => some (date ++ time, rest)
      | none => some (date, rest)
    | none => readTime? cs
  some (.table [(dateKey, .text text)], rest)

def readScalar? : Reader Value := fun cs =>
  match cs.head? with
  | none => none
  | some c =>
    if c = '"' ∨ c = '\'' then (readString? cs).map fun (s, rest) => (.text s, rest)
    else
      readDateTime? cs <|> readReal? cs <|> readSpecial? cs <|> readInteger? cs <|> readBool? cs

end ConditionalGateway.Toml
