import ConditionalGateway.Unicode.Replacement
import ConditionalGateway.Unicode.Data.Canonical

/-!
# Canonical composition

Texts that are canonically equivalent have one composed form. `canonicalForm`
takes every character apart, sorts the marks that follow a character by their
combining class, and puts together what can be put together. A composite is
found by its full decomposition: it is the character that comes apart into what
its two parts come apart into.
-/

namespace ConditionalGateway.Unicode

def decompositionTable : Replacements := Replacements.decode Data.decompositions

def combiningClassSets : List (Nat × CharSet) :=
  Data.combiningClasses.map fun e => (e.1, CharSet.decode e.2)

/-- The combining class of a code point; zero begins a new sequence. -/
def combiningClass (n : Nat) : Nat :=
  if n < 0x300 then 0
  else
    match combiningClassSets.find? fun e => e.2.contains n with
    | some e => e.1
    | none => 0

def hangulParts? (n : Nat) : Option (List Nat) :=
  if 0xAC00 ≤ n ∧ n < 0xAC00 + 11172 then
    let s := n - 0xAC00
    let tail := if s % 28 = 0 then [] else [0x11A7 + s % 28]
    some ([0x1100 + s / 588, 0x1161 + s % 588 / 28] ++ tail)
  else none

def decomposition (n : Nat) : List Nat :=
  if n < 0xC0 then [n]
  else ((hangulParts? n).or (decompositionTable.find? n)).getD [n]

/-- Puts a code point in front of a sorted sequence, behind the marks of smaller class. -/
def insertMark (n : Nat) : List Nat → List Nat
  | [] => [n]
  | m :: rest =>
    if combiningClass m ≠ 0 ∧ combiningClass m < combiningClass n then m :: insertMark n rest
    else n :: m :: rest

/-- Sorts the marks that follow each other by class; marks of one class keep their order. -/
def sortMarks (ns : List Nat) : List Nat := ns.foldr insertMark []

/-- The composites that composition makes, each with its full decomposition. -/
def composites : List (Nat × List Nat) :=
  let excluded := CharSet.decode Data.compositionExclusions
  decompositionTable.entries.toList.filterMap fun r =>
    if 2 ≤ r.target.length ∧ !excluded.contains r.first then some (r.first, r.target) else none

/-- A Hangul syllable from its parts, or from a syllable without a tail and the tail. -/
def hangulComposite? (a b : Nat) : Option Nat :=
  if 0x1100 ≤ a ∧ a < 0x1113 ∧ 0x1161 ≤ b ∧ b < 0x1176 then
    some (0xAC00 + (a - 0x1100) * 588 + (b - 0x1161) * 28)
  else if 0xAC00 ≤ a ∧ a < 0xAC00 + 11172 ∧ (a - 0xAC00) % 28 = 0 ∧ 0x11A7 < b ∧ b < 0x11C3 then
    some (a + (b - 0x11A7))
  else none

def composite? (a b : Nat) : Option Nat :=
  (hangulComposite? a b).or <|
    let parts := decomposition a ++ [b]
    (composites.find? fun e => e.2 == parts).map Prod.fst

structure Composing where
  /-- What is finished, the last code point first. -/
  done : List Nat := []
  /-- What marks can still join: the last code point that began a sequence. -/
  starter : Option Nat := none
  /-- The marks behind it that did not join, the last one first. -/
  marks : List Nat := []

def Composing.finish (s : Composing) : List Nat := s.marks ++ s.starter.toList ++ s.done

def Composing.push (s : Composing) (n : Nat) : Composing :=
  if combiningClass n = 0 then { done := s.finish, starter := some n }
  else { s with marks := n :: s.marks }

/-- Reads the next code point. It joins the starter unless a mark of its class or a higher one
stands between them. -/
def Composing.step (s : Composing) (n : Nat) : Composing :=
  let free := match s.marks with
    | [] => true
    | m :: _ => decide (combiningClass m < combiningClass n)
  match s.starter with
  | some a =>
    match composite? a n with
    | some c => if free then { s with starter := some c } else s.push n
    | none => s.push n
  | none => s.push n

def composeAll (ns : List Nat) : List Nat := (ns.foldl Composing.step {}).finish.reverse

def canonicalForm (cs : List Char) : List Char :=
  if cs.all fun c => c.toNat < 0x300 then cs
  else
    let parts := cs.flatMap fun c => decomposition c.toNat
    (composeAll (sortMarks parts)).map Char.ofNat

end ConditionalGateway.Unicode
