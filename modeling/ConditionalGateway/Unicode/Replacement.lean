import ConditionalGateway.Unicode.CharSet

/-!
# Replacements

Tables that give some code points what stands for them. Neighbours that are
replaced alike share an entry, so `decode` reads far fewer entries than there
are code points. `find?` gives the replacement of a code point that has one.
-/

namespace ConditionalGateway.Unicode

/-- The code points `first`, `first + stride` up to `last`, and what stands for them. A single
target moves along with the code point; more than one stand as they are. -/
structure Replacement where
  first : Nat
  last : Nat
  stride : Nat
  target : List Nat
  deriving Inhabited, Repr, DecidableEq

namespace Replacement

def at? (r : Replacement) (n : Nat) : Option (List Nat) :=
  if r.first ≤ n ∧ n ≤ r.last ∧ (n - r.first) % r.stride = 0 then
    match r.target with
    | [t] => some [t + (n - r.first)]
    | ts => some ts
  else none

/-- Reads how far an entry reaches: `gap`, `gap-more` or `gap+more`, where the last one takes every
other code point. -/
def decodeSpan (next : Nat) (cs : List Char) : Nat × Nat × Nat :=
  let isDigit := fun c : Char => c != '-' && c != '+'
  let first := next + natOfRadix 16 (cs.takeWhile isDigit)
  match cs.dropWhile isDigit with
  | '-' :: more => (first, first + natOfRadix 16 more, 1)
  | '+' :: more => (first, first + 2 * natOfRadix 16 more, 2)
  | _ => (first, first, 1)

def decodeEntry (next : Nat) (entry : String) : Replacement :=
  let cs := entry.toList
  let (first, last, stride) := decodeSpan next (cs.takeWhile (· != '='))
  let targets := (String.ofList (cs.dropWhile (· != '=')).tail).splitOn ","
  ⟨first, last, stride, targets.map fun t => natOfRadix 16 t.toList⟩

end Replacement

structure Replacements where
  entries : Array Replacement
  deriving Inhabited, Repr

namespace Replacements

def decodeFrom (next : Nat) : List String → List Replacement
  | [] => []
  | entry :: rest =>
    let r := Replacement.decodeEntry next entry
    r :: decodeFrom r.first rest

/-- Reads a written table: entries in hexadecimal with a space or a line break between them. Each
is a span, whose gap counts from the first code point of the entry before it, an equals sign, and
the targets with commas between them. -/
def decode (text : String) : Replacements :=
  ⟨(decodeFrom 0 ((text.replace "\n" " ").splitOn " ")).toArray⟩

def searchEnd (entries : Array Replacement) (n lo hi : Nat) : Nat :=
  if _h : lo < hi then
    let mid := (lo + hi) / 2
    match entries[mid]? with
    | none => lo
    | some r => if n < r.first then searchEnd entries n lo mid else searchEnd entries n (mid + 1) hi
  else lo
termination_by hi - lo

def find? (t : Replacements) (n : Nat) : Option (List Nat) :=
  (t.entries[searchEnd t.entries n 0 t.entries.size - 1]?).bind fun r => r.at? n

end Replacements
end ConditionalGateway.Unicode
