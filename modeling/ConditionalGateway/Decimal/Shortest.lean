import ConditionalGateway.Decimal.Binary64

/-!
# The shortest decimal form of a double

The fewest digits that read back as the same double, and of those the digits
nearest to it. They are written out in full: no exponent, and no point behind
a whole number.
-/

namespace ConditionalGateway.Decimal

/-- The numbers that read back as a positive double, as multiples of a quarter of its last
place: those between `low` and `high`, the ends too if `closed`. -/
structure Interval where
  low : Nat
  value : Nat
  high : Nat
  closed : Bool
  /-- The place of a quarter, raised by 1076. -/
  place : Nat
  deriving Repr

/-- Below a power of two the neighbour is only half as far away. -/
def Scaled.interval (s : Scaled) : Interval where
  low := 4 * s.coefficient - (if s.coefficient = Nat.pow 2 52 && 0 < s.place then 1 else 2)
  value := 4 * s.coefficient
  high := 4 * s.coefficient + 2
  closed := s.coefficient % 2 == 0
  place := s.place

/-- Digits with the place of the point: `0.digits * 10 ^ point`. -/
structure Digits where
  digits : Nat
  count : Nat
  point : Int
  deriving Repr

/-- The least `k ≤ bound` with `num < den * 10 ^ k`. -/
def wholeDigits (num den : Nat) : Nat → Nat
  | 0 => 0
  | bound + 1 => if num < den then 0 else 1 + wholeDigits num (den * 10) bound

def leadingZeros (num den : Nat) : Nat → Nat
  | 0 => 0
  | bound + 1 => if den ≤ num * 10 then 0 else 1 + leadingZeros (num * 10) den bound

def pointOf (num den : Nat) : Int :=
  if num < den then - (leadingZeros num den 400 : Int) else wholeDigits num den 400

def Interval.holds (i : Interval) (x y : Nat) : Bool :=
  if i.closed then i.low * y ≤ x && x ≤ i.high * y else i.low * y < x && x < i.high * y

def shortestFrom (i : Interval) (point : Int) : Nat → Nat → Digits
  | 0, count => ⟨0, count, point⟩
  | bound + 1, count =>
    -- a step of the grid is `10 ^ (point - count)`; the unit is `2 ^ (place - 1076)`
    let e := point - count
    let up := Nat.pow 10 e.toNat
    let down := Nat.pow 10 (-e).toNat
    -- `d` steps are `d * stepNum / stepDen` units
    let stepNum := up * Nat.pow 2 1076
    let stepDen := down * Nat.pow 2 i.place
    let below := i.value * stepDen / stepNum
    let above := below + 1
    let belowOk := i.holds (below * stepNum) stepDen
    let aboveOk := i.holds (above * stepNum) stepDen
    let nearBelow := i.value * stepDen - below * stepNum
    let nearAbove := above * stepNum - i.value * stepDen
    if belowOk && (!aboveOk || nearBelow < nearAbove) then ⟨below, count, point⟩
    else if aboveOk then ⟨above, count, point⟩
    else shortestFrom i point bound (count + 1)

def Scaled.shortest (s : Scaled) : Digits :=
  let i := s.interval
  shortestFrom i (pointOf (i.value * Nat.pow 2 i.place) (Nat.pow 2 1076)) 18 1

def dropTrailingZeros (ds : List Char) : List Char := (ds.reverse.dropWhile (· == '0')).reverse

def Digits.positional (d : Digits) : List Char :=
  let all := Nat.toDigits 10 d.digits
  -- rounding up may have carried into a new first digit
  let point := d.point + (all.length : Int) - d.count
  let ds := dropTrailingZeros all
  if point ≤ 0 then ['0', '.'] ++ List.replicate (-point).toNat '0' ++ ds
  else
    let p := point.toNat
    if ds.length ≤ p then ds ++ List.replicate (p - ds.length) '0'
    else ds.take p ++ ['.'] ++ ds.drop p

def display (x : Float) : String :=
  let sign := if isNegative x then "-" else ""
  match magnitude x with
  | .notANumber => "NaN"
  | .infinite => sign ++ "inf"
  | .finite s => sign ++ (if s.coefficient = 0 then "0" else String.ofList s.shortest.positional)

end ConditionalGateway.Decimal
