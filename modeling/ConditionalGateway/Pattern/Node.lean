import Std.Data.HashSet
import ConditionalGateway.Pattern.Property

/-!
# Pattern trees

What a pattern means. A node relates the places of a text at which a match of
it can start to those at which such a match can end; `Node.ends` computes the
second from the first, all starts at once. Places lie between characters, so a
text of `n` characters has `n + 1` of them. Only whether a match exists is
asked, so it does not matter which of several matches is preferred.
-/

namespace ConditionalGateway.Pattern

open Unicode

/-- Which characters make words: those of the standard, or those of ASCII. -/
inductive WordRule where
  | unicode
  | ascii
  deriving DecidableEq, Repr

def WordRule.set : WordRule → CharSet
  | .unicode => wordSet
  | .ascii => CharSet.ofRanges [(48, 57), (65, 90), (95, 95), (97, 122)]

inductive Look where
  | textStart
  | textEnd
  | lineStart
  | lineEnd
  /-- Lines end with a carriage return, a line feed, or one behind the other. -/
  | anyLineStart
  | anyLineEnd
  | wordBoundary
  | notWordBoundary
  | wordStart
  | wordEnd
  | wordStartHalf
  | wordEndHalf
  deriving DecidableEq, Repr

def Look.holds (word : CharSet) (look : Look) (before after : Option Char) : Bool :=
  let isWord := fun c : Option Char => c.any fun c => word.contains c.toNat
  match look with
  | .textStart => before.isNone
  | .textEnd => after.isNone
  | .lineStart => before.isNone || before == some '\n'
  | .lineEnd => after.isNone || after == some '\n'
  | .anyLineStart =>
    before.isNone || before == some '\n' || (before == some '\r' && after != some '\n')
  | .anyLineEnd =>
    after.isNone || after == some '\r' || (after == some '\n' && before != some '\r')
  | .wordBoundary => isWord before != isWord after
  | .notWordBoundary => isWord before == isWord after
  | .wordStart => !isWord before && isWord after
  | .wordEnd => isWord before && !isWord after
  | .wordStartHalf => !isWord before
  | .wordEndHalf => !isWord after

inductive Node where
  | empty
  | set (chars : CharSet)
  | look (look : Look) (rule : WordRule)
  | group (inner : Node)
  | seq (first second : Node)
  | alt (first second : Node)
  | repeated (inner : Node) (min : Nat) (max : Option Nat)
  deriving Inhabited, Repr

def Node.isWidthless : Node → Bool
  | .empty => true
  | .set _ => false
  | .look _ _ => true
  | .group n => n.isWidthless
  | .seq a b => a.isWidthless && b.isWidthless
  | .alt a b => a.isWidthless && b.isWidthless
  | .repeated n _ _ => n.isWidthless

def Node.takesSome : Node → Bool
  | .empty => false
  | .set s => !s.isEmpty
  | .look _ _ => false
  | .group n => n.takesSome
  | .seq a b => a.takesSome || b.takesSome
  | .alt a b => a.takesSome && b.takesSome
  | .repeated n min _ => min ≠ 0 && n.takesSome

def Node.append : Node → Node → Node
  | .empty, b => b
  | a, .empty => a
  | a, b => .seq a b

/-- A repetition. Repeating what takes no character says no more than doing it once. -/
def Node.times (n : Node) (min : Nat) (max : Option Nat) : Node :=
  let (min, max) :=
    if n.isWidthless then (Nat.min min 1, some ((max.map (Nat.min · 1)).getD 1)) else (min, max)
  match min, max with
  | 0, some 0 => .empty
  | 1, some 1 => n
  | min, max => .repeated n min max

abbrev Text := Array Char

def union (ps qs : List Nat) : List Nat :=
  if ps.isEmpty then qs
  else if qs.isEmpty then ps
  else
    let seen := Std.HashSet.ofList ps
    ps ++ qs.filter fun q => !seen.contains q

def iterate (step : List Nat → List Nat) : Nat → List Nat → List Nat
  | 0, ps => ps
  | n + 1, ps => if ps.isEmpty then [] else iterate step n (step ps)

/-- What at most `rounds` steps reach, `frontier` being what the last one added to `seen`. -/
def spread (step : List Nat → List Nat) : Nat → List Nat → Std.HashSet Nat → List Nat
  | 0, _, seen => seen.toList
  | n + 1, frontier, seen =>
    let fresh := (step frontier).filter fun p => !seen.contains p
    if fresh.isEmpty then seen.toList else spread step n fresh (seen.insertMany fresh)

def before? (text : Text) (p : Nat) : Option Char := if p = 0 then none else text[p - 1]?

def advance? (text : Text) (chars : CharSet) (p : Nat) : Option Nat :=
  match text[p]? with
  | some c => if chars.contains c.toNat then some (p + 1) else none
  | none => none

/-- Where matches of a node end that start at one of the given places. A match that repeats a
node without bound passes each place at most once, so there are no more rounds than places. -/
def Node.ends (text : Text) : Node → List Nat → List Nat
  | .empty, ps => ps
  | .set s, ps => ps.filterMap (advance? text s)
  | .look l rule, ps =>
    let word := rule.set
    ps.filter fun p => l.holds word (before? text p) text[p]?
  | .group n, ps => n.ends text ps
  | .seq a b, ps => b.ends text (a.ends text ps)
  | .alt a b, ps => union (a.ends text ps) (b.ends text ps)
  | .repeated n min max, ps =>
    let start := iterate (n.ends text) min ps
    let rounds := match max with
      | some max => max - min
      | none => text.size + 1
    spread (n.ends text) rounds start (Std.HashSet.ofList start)

def Node.isMatch (n : Node) (text : String) : Bool :=
  let chars := text.toList.toArray
  !(n.ends chars (List.range (chars.size + 1))).isEmpty

end ConditionalGateway.Pattern
