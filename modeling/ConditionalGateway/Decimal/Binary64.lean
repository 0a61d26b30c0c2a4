/-!
# Binary floating-point numbers

A double is a sign with a natural number times a power of two. `ofRatio` gives
the double nearest to a quotient of natural numbers, ties going to the even
neighbour; everything else about numbers in this library is exact.
-/

namespace ConditionalGateway.Decimal

def infinityBits : Nat := 0x7FF * Nat.pow 2 52

/-- The quotient rounded to the nearest natural number, a half to the even one. -/
def roundHalfEven (num den : Nat) : Nat :=
  let q := num / den
  let twice := 2 * (num % den)
  if twice > den || (twice == den && q % 2 == 1) then q + 1 else q

/-- The exponent of the last place of the double nearest to `num / den`, raised by 1074. Two
more than the exponent are tried, from the least that can be right. -/
def placeOf (num den : Nat) : Nat :=
  let guess := num.log2 + 1021 - den.log2
  if guess ≤ 0 then 0
  else if num * Nat.pow 2 1074 / (den * Nat.pow 2 guess) < Nat.pow 2 53 then guess else guess + 1

def ratioBits (num den : Nat) : Nat :=
  if num = 0 || den = 0 then 0
  else if num.log2 > den.log2 + 1100 then infinityBits
  else
    let place := placeOf num den
    let coefficient := roundHalfEven (num * Nat.pow 2 1074) (den * Nat.pow 2 place)
    min infinityBits (place * Nat.pow 2 52 + coefficient)

def ofRatio (negative : Bool) (num den : Nat) : Float :=
  Float.ofBits ((if negative then Nat.pow 2 63 else 0) + ratioBits num den).toUInt64

/-- A finite positive double: `coefficient * 2 ^ (place - 1074)`. -/
structure Scaled where
  coefficient : Nat
  place : Nat
  deriving Repr, DecidableEq

inductive Magnitude where
  | finite (value : Scaled)
  | infinite
  | notANumber
  deriving Repr, DecidableEq

def magnitudeOfBits (bits : Nat) : Magnitude :=
  let exponent := bits / Nat.pow 2 52
  let fraction := bits % Nat.pow 2 52
  if exponent = 0x7FF then (if fraction = 0 then .infinite else .notANumber)
  else if exponent = 0 then .finite ⟨fraction, 0⟩
  else .finite ⟨Nat.pow 2 52 + fraction, exponent - 1⟩

def isNegative (x : Float) : Bool := x.toBits.toNat / Nat.pow 2 63 == 1

def magnitude (x : Float) : Magnitude := magnitudeOfBits (x.toBits.toNat % Nat.pow 2 63)

end ConditionalGateway.Decimal
