import ConditionalGateway.RateLimit.Amount
import ConditionalGateway.Http.Message

/-!
# Rate limiting per client

Each client has a bucket that starts full and fills again at the average rate;
a request takes one token, and is rejected if there is none. A bucket that was
not used for the time a whole refill takes is full again, so a sweep may drop
it. Sweeps happen when a request comes in, with at least a second between them.
-/

namespace ConditionalGateway.RateLimit

open Http

/-- The limits that are asked for: requests per second, how many can come at once, and the header
that tells clients apart. -/
structure Settings where
  average : Nat
  burst : Option Nat
  sourceHeader : Option String
  deriving DecidableEq, Repr, Inhabited

structure Limits where
  average : Nat
  burst : Nat
  sourceHeader : Option HeaderName
  deriving DecidableEq, Repr, Inhabited

inductive SettingsError where
  | zeroAverage
  | zeroBurst
  | invalidHeader (name : String)
  deriving DecidableEq, Repr

/-- Checks the limits that are asked for. Without a burst it is as large as the average. -/
def Settings.check (s : Settings) : Except SettingsError Limits :=
  let burst := s.burst.getD s.average
  if s.average = 0 then .error .zeroAverage
  else if burst = 0 then .error .zeroBurst
  else
    match s.sourceHeader with
    | none => .ok ⟨s.average, burst, none⟩
    | some name =>
      match HeaderName.ofString? name with
      | some header => .ok ⟨s.average, burst, some header⟩
      | none => .error (.invalidHeader name)

def sharedKey : String := "shared"

def Limits.headerKey? (l : Limits) (r : Request) : Option String := do
  (← r.headers.get? (← l.sourceHeader)).text?

/-- What identifies the client of a request: the source header, or else the address. -/
def Limits.clientKey (l : Limits) (r : Request) : String :=
  match l.headerKey? r, r.peer with
  | some value, _ => value
  | none, some peer => peer.ip.display
  | none, none => sharedKey

structure Bucket (Q : Type) where
  tokens : Q
  updated : Nat
  deriving Repr

structure Limiter (Q : Type) where
  buckets : List (String × Bucket Q)
  nextSweep : Nat
  deriving Repr

section

variable {Q : Type} [Amount Q]

def Bucket.full (l : Limits) (now : Nat) : Bucket Q := ⟨Amount.ofNat l.burst, now⟩

def Bucket.refilled (l : Limits) (now : Nat) (b : Bucket Q) : Q :=
  Amount.min (b.tokens + Amount.seconds (now - b.updated) * Amount.ofNat l.average)
    (Amount.ofNat l.burst)

def Bucket.take (l : Limits) (now : Nat) (b : Bucket Q) : Bool × Bucket Q :=
  let tokens := b.refilled l now
  if Amount.le (Amount.ofNat 1) tokens then (true, ⟨tokens - Amount.ofNat 1, now⟩)
  else (false, ⟨tokens, now⟩)

variable (Q) in
/-- A bucket that was not used for so long has refilled. -/
def Limits.idleAfter (l : Limits) : Nat := Amount.refillTime Q l.burst l.average

variable (Q) in
def Limits.sweepInterval (l : Limits) : Nat := max (l.idleAfter Q) second

def Limiter.start (l : Limits) (now : Nat) : Limiter Q := ⟨[], now + l.sweepInterval Q⟩

def Limiter.evictIdle (l : Limits) (now : Nat) (s : Limiter Q) : Limiter Q :=
  { s with buckets := s.buckets.filter fun e => now - e.2.updated < l.idleAfter Q }

def Limiter.sweep (l : Limits) (now : Nat) (s : Limiter Q) : Limiter Q :=
  if now < s.nextSweep then s
  else { s.evictIdle l now with nextSweep := now + l.sweepInterval Q }

/-- The bucket of a client; a new client has a full one. -/
def Limiter.bucket (l : Limits) (now : Nat) (s : Limiter Q) (key : String) : Bucket Q :=
  (s.buckets.lookup key).getD (.full l now)

def Limiter.put (s : Limiter Q) (key : String) (b : Bucket Q) : Limiter Q :=
  { s with buckets := (key, b) :: s.buckets.filter fun e => e.1 ≠ key }

def Limiter.allow (l : Limits) (now : Nat) (s : Limiter Q) (key : String) : Bool × Limiter Q :=
  let s := s.sweep l now
  let (admitted, bucket) := (s.bucket l now key).take l now
  (admitted, s.put key bucket)

end

end ConditionalGateway.RateLimit
