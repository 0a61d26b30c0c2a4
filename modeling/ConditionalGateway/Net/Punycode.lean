/-!
# Punycode

A text as letters, digits and hyphens of ASCII: first its characters of ASCII
and a hyphen, then for every other character, in ascending order, how far it is
from the one before, as a number of base 36. The places of a number end at a
digit below a threshold, which adapts to the numbers written so far.

`encode` writes a text and `decode?` reads one; numbers that need more than 32
bits on the way are refused.
-/

namespace ConditionalGateway.Net.Punycode

def digit (n : Nat) : Char := if n < 26 then Char.ofNat (0x61 + n) else Char.ofNat (0x30 + (n - 26))

def digitValue? (c : Char) : Option Nat :=
  let n := c.toNat
  if 0x61 ≤ n ∧ n ≤ 0x7A then some (n - 0x61)
  else if 0x41 ≤ n ∧ n ≤ 0x5A then some (n - 0x41)
  else if 0x30 ≤ n ∧ n ≤ 0x39 then some (n - 0x30 + 26)
  else none

/-- The threshold at a place; a digit below it ends the number. -/
def threshold (bias place : Nat) : Nat :=
  let k := 36 * (place + 1)
  if k ≤ bias then 1 else if bias + 26 ≤ k then 26 else k - bias

theorem threshold_pos (bias place : Nat) : 0 < threshold bias place := by
  unfold threshold; grind

theorem threshold_lt (bias place : Nat) : threshold bias place < 36 := by
  unfold threshold; grind

/-- How often a number above 455 is divided by 35 until it is not, and what is left. -/
def scale (delta : Nat) : Nat × Nat :=
  if 455 < delta then
    let (times, rest) := scale (delta / 35)
    (times + 1, rest)
  else (0, delta)
termination_by delta
decreasing_by omega

def adapt (delta count : Nat) (first : Bool) : Nat :=
  let halved := if first then delta / 700 else delta / 2
  let (times, rest) := scale (halved + halved / count)
  36 * times + 36 * rest / (rest + 38)

def encodeNumber (bias place n : Nat) : List Char :=
  let t := threshold bias place
  if n < t then [digit n]
  else digit (t + (n - t) % (36 - t)) :: encodeNumber bias (place + 1) ((n - t) / (36 - t))
termination_by n
decreasing_by
  have := threshold_pos bias place
  exact Nat.lt_of_le_of_lt (Nat.div_le_self _ _) (by omega)

structure Encoding where
  /-- The digits of the numbers written. -/
  digits : List Char := []
  /-- What is added to the next number so far. -/
  delta : Nat := 0
  bias : Nat := 72
  /-- How many characters are written. -/
  count : Nat

/-- Passes a character while `n` is what gets written. -/
def Encoding.pass (basic n : Nat) (s : Encoding) (c : Char) : Encoding :=
  if c.toNat < n then { s with delta := s.delta + 1 }
  else if c.toNat = n then
    { digits := s.digits ++ encodeNumber s.bias 0 s.delta
      bias := adapt s.delta (s.count + 1) (s.count == basic)
      count := s.count + 1 }
  else s

/-- Writes every place where the text has the code point `n`; `next` is the least one that could
have come. -/
def Encoding.write (text : List Char) (basic : Nat) : Encoding × Nat → Nat → Encoding × Nat
  | (s, next), n =>
    let s := { s with delta := s.delta + (n - next) * (s.count + 1) }
    let s := text.foldl (Encoding.pass basic n) s
    ({ s with delta := s.delta + 1 }, n + 1)

def encode (text : List Char) : List Char :=
  let basic := text.filter fun c => c.toNat < 0x80
  let others := (text.map Char.toNat).filter (0x80 ≤ ·)
  let start : Encoding := { count := basic.length }
  let (s, _) := (others.mergeSort (· ≤ ·)).eraseDups.foldl
    (Encoding.write text basic.length) (start, 0x80)
  (if basic.isEmpty then [] else basic ++ ['-']) ++ s.digits

/-- No number that is read gets as large. -/
def limit : Nat := 4294967296

structure Decoding where
  /-- The characters known so far. -/
  text : List Char
  /-- The code point of the last one inserted. -/
  code : Nat := 0x80
  /-- Where the next one goes if its number is zero. -/
  start : Nat := 0
  bias : Nat := 72
  /-- `start` and the places of the number read so far. -/
  sum : Nat := 0
  /-- What the next place counts. -/
  weight : Nat := 1
  /-- How many places of a number are read; zero between two numbers. -/
  place : Nat := 0

def Decoding.insert (s : Decoding) (sum : Nat) : Option Decoding :=
  let count := s.text.length + 1
  let code := s.code + sum / count
  let index := sum % count
  if code.isValidChar then
    some {
      text := s.text.insertIdx index (Char.ofNat code)
      code := code
      start := index + 1
      bias := adapt (sum - s.start) count (s.start == 0)
      sum := index + 1 }
  else none

def Decoding.step (s : Decoding) (c : Char) : Option Decoding := do
  let d ← digitValue? c
  let sum := s.sum + d * s.weight
  let t := threshold s.bias s.place
  let weight := s.weight * (36 - t)
  if limit ≤ sum then none
  else if d < t then s.insert sum
  else if limit ≤ weight then none
  else some { s with sum := sum, weight := weight, place := s.place + 1 }

def decodeNumbers? (basic digits : List Char) : Option (List Char) := do
  let s ← digits.foldlM Decoding.step { text := basic }
  if s.place = 0 then some s.text else none

/-- Reads a text: the last hyphen ends its characters of ASCII, unless nothing stands before it. -/
def decode? (cs : List Char) : Option (List Char) :=
  let back := cs.reverse
  let digits := (back.takeWhile (· != '-')).reverse
  match (back.dropWhile (· != '-')).tail.reverse with
  | [] => decodeNumbers? [] cs
  | basic => decodeNumbers? basic digits

end ConditionalGateway.Net.Punycode
