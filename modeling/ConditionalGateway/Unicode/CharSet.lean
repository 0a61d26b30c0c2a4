/-!
# Sets of code points

A set is kept as its ranges: closed, ascending, with at least one code point
between neighbours. `ofRanges` brings any list of ranges into that form; the
set operations go through it. `decode` reads the written form in which the
tables of the Unicode standard are kept.
-/

namespace ConditionalGateway.Unicode

def lastCodePoint : Nat := 0x10FFFF

def hexValue (c : Char) : Nat :=
  let n := c.toNat
  if 0x30 ≤ n ∧ n ≤ 0x39 then n - 0x30
  else if 0x41 ≤ n ∧ n ≤ 0x46 then n - 0x37
  else if 0x61 ≤ n ∧ n ≤ 0x66 then n - 0x57
  else 0

def natOfRadix (radix : Nat) (digits : List Char) : Nat :=
  digits.foldl (fun n c => n * radix + hexValue c) 0

/-- Code points as closed ranges, ascending and apart from each other. -/
structure CharSet where
  ranges : Array (Nat × Nat)
  deriving Inhabited, Repr, BEq

namespace CharSet

def empty : CharSet := ⟨#[]⟩

def range (lo hi : Nat) : CharSet := if lo ≤ hi then ⟨#[(lo, hi)]⟩ else empty

def single (n : Nat) : CharSet := ⟨#[(n, n)]⟩

def all : CharSet := ⟨#[(0, 0xD7FF), (0xE000, lastCodePoint)]⟩

/-- Looks for `n` among the ranges numbered from `lo` up to, not including, `hi`. -/
def search (ranges : Array (Nat × Nat)) (n lo hi : Nat) : Bool :=
  if _h : lo < hi then
    let mid := (lo + hi) / 2
    match ranges[mid]? with
    | none => false
    | some (a, b) =>
      if n < a then search ranges n lo mid
      else if b < n then search ranges n (mid + 1) hi
      else true
  else false
termination_by hi - lo

def contains (s : CharSet) (n : Nat) : Bool := search s.ranges n 0 s.ranges.size

def isEmpty (s : CharSet) : Bool := s.ranges.isEmpty

def size (s : CharSet) : Nat := s.ranges.foldl (fun n r => n + (r.2 - r.1 + 1)) 0

/-- Joins ranges that touch or overlap, the first one given apart; the list is ascending by lower
end. -/
def joinFrom (cur : Nat × Nat) : List (Nat × Nat) → List (Nat × Nat)
  | [] => [cur]
  | r :: rs =>
    if r.1 ≤ cur.2 + 1 then joinFrom (cur.1, max cur.2 r.2) rs else cur :: joinFrom r rs

def joinSorted : List (Nat × Nat) → List (Nat × Nat)
  | [] => []
  | r :: rs => joinFrom r rs

def ofRanges (rs : List (Nat × Nat)) : CharSet :=
  ⟨(joinSorted ((rs.filter fun r => r.1 ≤ r.2).mergeSort fun a b => a.1 ≤ b.1)).toArray⟩

def union (s t : CharSet) : CharSet := ofRanges (s.ranges.toList ++ t.ranges.toList)

/-- The ranges between those of an ascending list, from `start` on, within `all`. -/
def gaps (start : Nat) : List (Nat × Nat) → List (Nat × Nat)
  | [] => [(start, lastCodePoint)]
  | r :: rs =>
    if start < r.1 then (start, r.1 - 1) :: gaps (r.2 + 1) rs else gaps (max start (r.2 + 1)) rs

def withoutSurrogates (r : Nat × Nat) : List (Nat × Nat) :=
  [(r.1, min r.2 0xD7FF), (max r.1 0xE000, r.2)].filter fun r => r.1 ≤ r.2

def compl (s : CharSet) : CharSet :=
  ofRanges ((gaps 0 s.ranges.toList).flatMap withoutSurrogates)

def meet : List (Nat × Nat) → List (Nat × Nat) → List (Nat × Nat)
  | [], _ => []
  | _, [] => []
  | r :: rs, t :: ts =>
    let lo := max r.1 t.1
    let hi := min r.2 t.2
    let rest := if r.2 < t.2 then meet rs (t :: ts) else meet (r :: rs) ts
    if lo ≤ hi then (lo, hi) :: rest else rest
termination_by rs ts => rs.length + ts.length

def inter (s t : CharSet) : CharSet := ofRanges (meet s.ranges.toList t.ranges.toList)

def diff (s t : CharSet) : CharSet := s.inter t.compl

def symmDiff (s t : CharSet) : CharSet := (s.union t).diff (s.inter t)

def isAscii (s : CharSet) : Bool :=
  match s.ranges.back? with
  | none => true
  | some r => r.2 < 0x80

def toList (s : CharSet) : List Nat :=
  s.ranges.toList.flatMap fun r => List.range' r.1 (r.2 - r.1 + 1)

structure DecodeState where
  /-- The least code point that the next range can have. -/
  next : Nat := 0
  /-- The digits read since the last mark. -/
  number : Nat := 0
  /-- Set behind a hyphen, to the first code point of the range. -/
  start : Option Nat := none
  ranges : Array (Nat × Nat) := #[]

def DecodeState.close (s : DecodeState) : DecodeState :=
  match s.start with
  | none =>
    let a := s.next + s.number
    { next := a + 1, ranges := s.ranges.push (a, a) }
  | some a =>
    { next := a + s.number + 1, ranges := s.ranges.push (a, a + s.number) }

def DecodeState.step (s : DecodeState) (c : Char) : DecodeState :=
  if c = ' ' || c = '\n' then s.close
  else if c = '-' then { s with start := some (s.next + s.number), number := 0 }
  else { s with number := s.number * 16 + hexValue c }

/-- Reads a written table: entries in hexadecimal with a space or a line break between them, each
the gap since the range before and, behind a hyphen, how many more code points the range has. -/
def decode (text : String) : CharSet :=
  if text.isEmpty then empty else ⟨((text.foldl DecodeState.step {}).close).ranges⟩

end CharSet
end ConditionalGateway.Unicode
