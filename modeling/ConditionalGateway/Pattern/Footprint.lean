import Std.Data.HashMap
import ConditionalGateway.Pattern.Node

/-!
# The size of a pattern

How much memory the machines take that recognise a pattern byte by byte, one
reading forward and one reading backward. A pattern is too large if either
takes more than the limit. The sizes are sums over the tree, so a repetition
counts its parts without unfolding them.
-/

namespace ConditionalGateway.Pattern

open Unicode

def stateSize : Nat := 32

def transitionSize : Nat := 8

def forkSize : Nat := 4

abbrev ByteRange := Nat × Nat

/-- The sequences of byte ranges that spell the numbers from `lo` to `hi`, with `tails` groups of
six bits behind the first one, which has `mark` added to it. -/
def sequencesOf (mark : Nat) : Nat → Nat → Nat → List (List ByteRange)
  | 0, lo, hi => [[(mark + lo, mark + hi)]]
  | tails + 1, lo, hi =>
    let unit := Nat.pow 64 (tails + 1)
    let a := lo / unit
    let b := hi / unit
    let under := fun n (seqs : List (List ByteRange)) => seqs.map ((mark + n, mark + n) :: ·)
    if a = b then under a (sequencesOf 0x80 tails (lo % unit) (hi % unit))
    else
      let first :=
        if lo % unit = 0 then [] else under a (sequencesOf 0x80 tails (lo % unit) (unit - 1))
      let last :=
        if hi % unit = unit - 1 then [] else under b (sequencesOf 0x80 tails 0 (hi % unit))
      let a' := if lo % unit = 0 then a else a + 1
      let b' := if hi % unit = unit - 1 then b else b - 1
      let middle :=
        if a' ≤ b' then [(mark + a', mark + b') :: List.replicate (tails + 1) (0x80, 0xBF)] else []
      first ++ middle ++ last

/-- The code points that take equally many bytes: the first and the last one, the mark of the
first byte, and the number of bytes behind it. -/
def byteLengths : List (Nat × Nat × Nat × Nat) :=
  [(0, 0x7F, 0, 0), (0x80, 0x7FF, 0xC0, 1), (0x800, 0xFFFF, 0xE0, 2), (0x10000, 0x10FFFF, 0xF0, 3)]

def byteSequences (s : CharSet) : List (List ByteRange) :=
  s.ranges.toList.flatMap fun (lo, hi) =>
    byteLengths.flatMap fun (first, last, mark, tails) =>
      if max lo first ≤ min hi last then sequencesOf mark tails (max lo first) (min hi last) else []

/-- The states of a forward reader, each known by its transitions to states known by number. -/
structure Sharing where
  known : Std.HashMap (List (ByteRange × Nat)) Nat := {}
  bytes : Nat := 0

def Sharing.number (st : Sharing) (transitions : List (ByteRange × Nat)) : Sharing × Nat :=
  match st.known[transitions]? with
  | some n => (st, n)
  | none =>
    let n := st.known.size + 1
    (⟨st.known.insert transitions n,
      st.bytes + stateSize + transitionSize * transitions.length⟩, n)

def groupHeads (seqs : List (List ByteRange)) : List (ByteRange × List (List ByteRange)) :=
  seqs.foldr (fun seq groups =>
    match seq, groups with
    | [], _ => groups
    | r :: rest, (r', seqs) :: more =>
      if r = r' then (r', rest :: seqs) :: more else (r, [rest]) :: groups
    | r :: rest, [] => [(r, [rest])]) []

/-- Shares equal ends of sequences, which have at most `depth` ranges. State 0 is the end. -/
def shareEnds : Nat → List (List ByteRange) → Sharing → Sharing × Nat
  | 0, _, st => (st, 0)
  | depth + 1, seqs, st =>
    let groups := groupHeads seqs
    if groups.isEmpty then (st, 0)
    else
      let (st, transitions) := groups.foldl (fun (st, done) (r, rests) =>
        let (st, n) := shareEnds depth rests st
        (st, (r, n) :: done)) (st, [])
      st.number transitions.reverse

def starts (seqs : List (List ByteRange)) : Std.HashSet (List ByteRange) :=
  seqs.foldl (fun seen seq =>
    (List.range seq.length).foldl (fun seen n => seen.insert (seq.take (n + 1))) seen) {}

inductive Direction where
  | forward
  | backward
  deriving DecidableEq, Repr

/-- The memory for one character of a set that goes beyond ASCII. Forward, equal ends are shared;
backward, equal starts are. -/
def wideSize (dir : Direction) (s : CharSet) : Nat :=
  let seqs := byteSequences s
  match dir with
  | .forward => stateSize + (shareEnds 4 seqs {}).1.bytes
  | .backward => 2 * stateSize + stateSize * (starts seqs).size + forkSize * seqs.length

/-- The memory for one character of a set. A single character needs its bytes and no more. -/
def setSize (dir : Direction) (s : CharSet) : Nat :=
  match s.ranges.toList with
  | [(a, b)] =>
    if a = b then stateSize * (Char.ofNat a).utf8Size
    else if s.isAscii then 2 * stateSize
    else wideSize dir s
  | ranges =>
    if s.isAscii then 2 * stateSize + transitionSize * ranges.length else wideSize dir s

def Node.sizes (dir : Direction) : Node → Nat × Nat
  | .empty => (stateSize, stateSize + forkSize)
  | .set s => let n := setSize dir s; (n, n + forkSize)
  | .look _ _ => (stateSize, stateSize + forkSize)
  | .group inner =>
    let n := (inner.sizes dir).1 + (if dir = .forward then 2 * stateSize else 0)
    (n, n + forkSize)
  | .seq a b => let n := (a.sizes dir).1 + (b.sizes dir).1; (n, n + forkSize)
  | .alt a b => let n := (a.sizes dir).2 + (b.sizes dir).2; (n + 2 * stateSize, n)
  | .repeated inner min max =>
    let one := (inner.sizes dir).1
    let n := match min, max with
      | 0, none =>
        if inner.takesSome then one + stateSize + 2 * forkSize
        else one + 3 * stateSize + 4 * forkSize
      | min, none => min * one + stateSize + 2 * forkSize
      | 0, some 1 => one + 2 * stateSize + 2 * forkSize
      | min, some max =>
        (if min = 0 then stateSize else min * one) +
          (if min = max then 0 else stateSize + (max - min) * (one + stateSize + 2 * forkSize))
    (n, n + forkSize)

def frameSize : Direction → Nat
  | .forward => 6 * stateSize + 2 * forkSize
  | .backward => 4 * stateSize + 2 * forkSize

def Node.footprint (n : Node) (dir : Direction) : Nat := (n.sizes dir).1 + frameSize dir

end ConditionalGateway.Pattern
