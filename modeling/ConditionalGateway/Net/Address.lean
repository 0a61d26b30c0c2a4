import ConditionalGateway.Unicode.Classes
import ConditionalGateway.Decimal.Reading

/-!
# Addresses of peers

IPv4 and IPv6 addresses, the socket addresses made of them, how they are
written and how they are shown. Reading is strict: nothing may stand before or
behind the address, and a number of an IPv4 address has no needless zeros.
-/

namespace ConditionalGateway.Net

open Unicode (isAsciiDigit natOfRadix)

export Unicode (isHexDigit hexValue)

inductive IpAddress where
  | v4 (a b c d : Nat)
  | v6 (groups : List Nat)
  deriving DecidableEq, Repr, Inhabited

/-- An address with a port. A scope that stands behind an IPv6 address says nothing about who
the peer is, so it is not kept. -/
structure SocketAddress where
  ip : IpAddress
  port : Nat
  deriving DecidableEq, Repr

def readDecimal? (digits : Option Nat) (last : Nat) (leadingZero : Bool) (cs : List Char) :
    Option (Nat × List Char) :=
  let run := cs.takeWhile isAsciiDigit
  let tooLong := match digits with
    | some n => decide (n < run.length)
    | none => false
  if run.isEmpty || tooLong then none
  else if !leadingZero && run.head? == some '0' && 1 < run.length then none
  else
    let n := Decimal.natOfDigits run
    if n ≤ last then some (n, cs.dropWhile isAsciiDigit) else none

/-- Reads a group of an IPv6 address: one to four hexadecimal digits. -/
def readGroup? (cs : List Char) : Option (Nat × List Char) :=
  let run := cs.takeWhile isHexDigit
  if run.isEmpty || 4 < run.length then none
  else some (natOfRadix 16 run, cs.dropWhile isHexDigit)

def expect? (c : Char) : List Char → Option (List Char)
  | d :: cs => if d = c then some cs else none
  | [] => none

def readV4? (cs : List Char) : Option ((Nat × Nat × Nat × Nat) × List Char) := do
  let byte := readDecimal? (some 3) 255 false
  let (a, cs) ← byte cs
  let (b, cs) ← byte (← expect? '.' cs)
  let (c, cs) ← byte (← expect? '.' cs)
  let (d, cs) ← byte (← expect? '.' cs)
  pure ((a, b, c, d), cs)

/-- What stands between two groups: nothing before the first one. -/
def skipColon? (first : Bool) (cs : List Char) : Option (List Char) :=
  if first then some cs else expect? ':' cs

/-- Reads up to `room` groups. Where there is room for two, they may be an IPv4 address, which
ends the groups; the flag tells that one did. -/
def readGroups (first : Bool) : Nat → List Char → (List Nat × Bool) × List Char
  | 0, cs => (([], false), cs)
  | room + 1, cs =>
    let asV4 := if room = 0 then none else (skipColon? first cs).bind readV4?
    match asV4 with
    | some ((a, b, c, d), rest) => (([a * 256 + b, c * 256 + d], true), rest)
    | none =>
      match (skipColon? first cs).bind readGroup? with
      | none => (([], false), cs)
      | some (g, rest) =>
        let ((gs, v4), rest) := readGroups false room rest
        ((g :: gs, v4), rest)

def readV6? (cs : List Char) : Option (List Nat × List Char) :=
  let ((head, headV4), rest) := readGroups true 8 cs
  if head.length = 8 then some (head, rest)
  else if headV4 then none
  else do
    let rest ← expect? ':' (← expect? ':' rest)
    let ((tail, _), rest) := readGroups true (7 - head.length) rest
    pure (head ++ List.replicate (8 - head.length - tail.length) 0 ++ tail, rest)

def readPort? (cs : List Char) : Option (Nat × List Char) := do
  readDecimal? none 65535 true (← expect? ':' cs)

def skipScope? (cs : List Char) : Option (List Char) :=
  match cs with
  | '%' :: rest => (readDecimal? none 4294967295 true rest).map (·.2)
  | _ => some cs

def readSocketV6? (cs : List Char) : Option (SocketAddress × List Char) := do
  let (groups, cs) ← readV6? (← expect? '[' cs)
  let cs ← expect? ']' (← skipScope? cs)
  let (port, cs) ← readPort? cs
  pure (⟨.v6 groups, port⟩, cs)

def readSocketV4? (cs : List Char) : Option (SocketAddress × List Char) := do
  let ((a, b, c, d), cs) ← readV4? cs
  let (port, cs) ← readPort? cs
  pure (⟨.v4 a b c d, port⟩, cs)

def SocketAddress.ofString? (s : String) : Option SocketAddress :=
  match (readSocketV4? s.toList).orElse fun _ => readSocketV6? s.toList with
  | some (address, []) => some address
  | _ => none

def dotted (a b c d : Nat) : String :=
  toString a ++ "." ++ toString b ++ "." ++ toString c ++ "." ++ toString d

def groupText (n : Nat) : String := String.ofList (Nat.toDigits 16 n)

def zeroRun : List Nat → Nat
  | 0 :: gs => zeroRun gs + 1
  | _ => 0

/-- The start and the length of the longest run of zeros, the first one if several are longest. -/
def longestZeros : Nat → List Nat → Nat × Nat
  | _, [] => (0, 0)
  | start, g :: gs =>
    let here := zeroRun (g :: gs)
    let later := longestZeros (start + 1) gs
    if here ≠ 0 && later.2 ≤ here then (start, here) else later

def colonJoin (gs : List Nat) : String := String.intercalate ":" (gs.map groupText)

/-- The groups of an IPv6 address without its longest run of zeros, if that has two or more. -/
def shortGroups (groups : List Nat) : String :=
  let (start, length) := longestZeros 0 groups
  if 1 < length then
    colonJoin (groups.take start) ++ "::" ++ colonJoin (groups.drop (start + length))
  else colonJoin groups

/-- An IPv4 address inside an IPv6 address keeps its points. -/
def IpAddress.display : IpAddress → String
  | .v4 a b c d => dotted a b c d
  | .v6 [0, 0, 0, 0, 0, 0xFFFF, x, y] =>
    "::ffff:" ++ dotted (x / 256) (x % 256) (y / 256) (y % 256)
  | .v6 groups => shortGroups groups

end ConditionalGateway.Net
