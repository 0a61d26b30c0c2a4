import ConditionalGateway.Pattern.Escape

/-!
# Bracketed classes

A set of characters between brackets: characters, ranges, named classes and
further brackets, joined or combined by the operators for intersection,
difference and symmetric difference, which all bind alike and to the left.
-/

namespace ConditionalGateway.Pattern

open Unicode

def asciiClass? (name : String) : Option (List (Nat × Nat)) :=
  match name with
  | "alnum" => some [(48, 57), (65, 90), (97, 122)]
  | "alpha" => some [(65, 90), (97, 122)]
  | "ascii" => some [(0, 127)]
  | "blank" => some [(9, 9), (32, 32)]
  | "cntrl" => some [(0, 31), (127, 127)]
  | "digit" => some [(48, 57)]
  | "graph" => some [(33, 126)]
  | "lower" => some [(97, 122)]
  | "print" => some [(32, 126)]
  | "punct" => some [(33, 47), (58, 64), (91, 96), (123, 126)]
  | "space" => some [(9, 13), (32, 32)]
  | "upper" => some [(65, 90)]
  | "word" => some [(48, 57), (65, 90), (95, 95), (97, 122)]
  | "xdigit" => some [(48, 57), (65, 70), (97, 102)]
  | _ => none

inductive SetOperator where
  | intersection
  | difference
  | symmetricDifference
  deriving DecidableEq, Repr

def SetOperator.apply : SetOperator → CharSet → CharSet → CharSet
  | .intersection, s, t => s.inter t
  | .difference, s, t => s.diff t
  | .symmetricDifference, s, t => s.symmDiff t

/-- The items of a class so far: their ranges, how many they are, and how deep they nest. -/
structure ClassItems where
  ranges : List (Nat × Nat) := []
  count : Nat := 0
  depth : Nat := 0
  deriving Inhabited

def ClassItems.add (items : ClassItems) (ranges : List (Nat × Nat)) (depth : Nat) : ClassItems :=
  ⟨ranges ++ items.ranges, items.count + 1, max items.depth depth⟩

structure Nested where
  set : CharSet
  depth : Nat

/-- Several items nest one level deeper than one does. -/
def ClassItems.close (items : ClassItems) : Nested :=
  ⟨CharSet.ofRanges items.ranges, items.depth + if 1 < items.count then 1 else 0⟩

inductive ClassFrame where
  /-- A bracket was opened behind these items. -/
  | opened (before : ClassItems) (negated : Bool)
  /-- An operator has this operand on its left. -/
  | operator (op : SetOperator) (left : Nested)

/-- Ends the right operand of an operator that waits for it. -/
def applyOperator (flags : Flags) (right : Nested) : List ClassFrame → Nested × List ClassFrame
  | .operator op left :: frames =>
    let s := op.apply (flags.close false left.set) (flags.close false right.set)
    (⟨s, max left.depth right.depth + 1⟩, frames)
  | frames => (right, frames)

def readClassElement? (flags : Flags) : List Char → Option (Element × List Char)
  | [] => none
  | '\\' :: rest => readEscape? flags rest
  | c :: rest => some (.char c, rest)

/-- Whether a character can be in a class: in one of bytes only ASCII can. -/
def Flags.classChar? (flags : Flags) (c : Char) : Option Nat :=
  if flags.unicode || c.toNat < 0x80 then some c.toNat else none

/-- The character behind the first one, with what does not count left out. One number sign counts
as a blank here. -/
def peekSpaced (flags : Flags) (cs : List Char) : Option Char :=
  if flags.spaced then
    match cs.tail.dropWhile isBlank with
    | '#' :: rest => (rest.dropWhile isBlank).head?
    | rest => rest.head?
  else cs.tail.head?

def readClassItem? (flags : Flags) (cs : List Char) :
    Option (List (Nat × Nat) × List Char) := do
  let (first, rest) ← readClassElement? flags cs
  let rest := flags.skip rest
  if rest.isEmpty then none
  let behind := peekSpaced flags rest
  if rest.head? ≠ some '-' || behind == some ']' || behind == some '-' then
    match first with
    | .char c => let n ← flags.classChar? c; some ([(n, n)], rest)
    | .set s => some (s.ranges.toList, rest)
    | .look _ => none
  else
    let (last, rest) ← readClassElement? flags (← flags.next? rest)
    match first, last with
    | .char a, .char b =>
      if b.toNat < a.toNat then none
      some ([(← flags.classChar? a, ← flags.classChar? b)], rest)
    | _, _ => none

def readAsciiClass? (flags : Flags) (cs : List Char) : Option (List (Nat × Nat) × List Char) :=
  match cs with
  | '[' :: ':' :: rest => do
    let negated := rest.head? == some '^'
    let rest := if negated then rest.tail else rest
    let name := rest.takeWhile (· ≠ ':')
    match rest.dropWhile (· ≠ ':') with
    | ':' :: ']' :: rest =>
      let ranges ← asciiClass? (String.ofList name)
      some ((flags.close negated (CharSet.ofRanges ranges)).ranges.toList, rest)
    | _ => none
  | _ => none

/-- Reads hyphens at the start of a class, which stand for themselves. -/
def readHyphens (flags : Flags) : Nat → ClassItems → List Char → ClassItems × List Char
  | 0, items, cs => (items, cs)
  | fuel + 1, items, cs =>
    match cs with
    | '-' :: rest => readHyphens flags fuel (items.add [(45, 45)] 0) (flags.skip rest)
    | cs => (items, cs)

/-- Opens a bracket: a caret negates the class, and a bracket that closes nothing stands for
itself. -/
def openClass? (flags : Flags) (cs : List Char) : Option (Bool × ClassItems × List Char) := do
  let rest ← flags.next? cs
  let negated := rest.head? == some '^'
  let rest ← if negated then flags.next? rest else some rest
  let (items, rest) := readHyphens flags (rest.length + 1) {} rest
  let (items, rest) :=
    if items.count = 0 && rest.head? == some ']' then
      (items.add [(93, 93)] 0, flags.skip rest.tail)
    else (items, rest)
  if rest.isEmpty then none
  some (negated, items, rest)

def setOperator? : List Char → Option (SetOperator × List Char)
  | '&' :: '&' :: rest => some (.intersection, rest)
  | '-' :: '-' :: rest => some (.difference, rest)
  | '~' :: '~' :: rest => some (.symmetricDifference, rest)
  | _ => none

/-- Reads the rest of a class, up to the bracket that closes the outermost one. -/
def readClassRest? (flags : Flags) :
    Nat → List ClassFrame → ClassItems → List Char → Option (Nested × List Char)
  | 0, _, _, _ => none
  | fuel + 1, frames, items, cs =>
    match flags.skip cs with
    | [] => none
    | '[' :: rest =>
      match readAsciiClass? flags ('[' :: rest) with
      | some (ranges, rest) => readClassRest? flags fuel frames (items.add ranges 0) rest
      | none => do
        let (negated, inner, rest) ← openClass? flags ('[' :: rest)
        readClassRest? flags fuel (.opened items negated :: frames) inner rest
    | ']' :: rest =>
      match applyOperator flags items.close frames with
      | (content, .opened before negated :: frames) => do
        let s ← flags.allow? (flags.close negated content.set)
        if frames.isEmpty then some (⟨s, content.depth + 1⟩, rest)
        else
          readClassRest? flags fuel frames (before.add s.ranges.toList (content.depth + 1)) rest
      | _ => none
    | cs =>
      match setOperator? cs with
      | some (op, rest) =>
        let (left, frames) := applyOperator flags items.close frames
        readClassRest? flags fuel (.operator op left :: frames) {} rest
      | none => do
        let (ranges, rest) ← readClassItem? flags cs
        readClassRest? flags fuel frames (items.add ranges 0) rest

def readClass? (flags : Flags) (cs : List Char) : Option (Nested × List Char) := do
  let (negated, items, rest) ← openClass? flags cs
  readClassRest? flags (rest.length + 1) [.opened {} negated] items rest

end ConditionalGateway.Pattern
