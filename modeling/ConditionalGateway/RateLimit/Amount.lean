import ConditionalGateway.Decimal.Binary64

/-!
# Amounts of tokens

The arithmetic in which a token bucket counts. Durations are whole numbers of
nanoseconds; an amount says how many seconds such a duration is. The gateway
counts in doubles; any other arithmetic with the same operations can stand in
their place.
-/

namespace ConditionalGateway.RateLimit

def second : Nat := 1000000000

/-- What a token bucket needs to count with. -/
class Amount (Q : Type) extends Add Q, Sub Q, Mul Q where
  ofNat : Nat → Q
  /-- A duration in seconds. -/
  seconds : Nat → Q
  le : Q → Q → Bool
  /-- The duration in which tokens at a rate per second come together. -/
  refillTime : (tokens rate : Nat) → Nat

def Amount.min {Q : Type} [Amount Q] (a b : Q) : Q := if Amount.le a b then a else b

/-- The nearest whole number of nanoseconds, a half going to the even one. -/
def nanoseconds (x : Float) : Nat :=
  match Decimal.magnitude x with
  | .finite v => Decimal.roundHalfEven (v.coefficient * Nat.pow 2 v.place * second) (Nat.pow 2 1074)
  | _ => 0

instance : Amount Float where
  ofNat n := Float.ofNat n
  seconds d := Float.ofNat (d / second) + Float.ofNat (d % second) / Float.ofNat second
  le a b := a ≤ b
  refillTime tokens rate := nanoseconds (Float.ofNat tokens / Float.ofNat rate)

end ConditionalGateway.RateLimit
