import ConditionalGateway.Pattern.Class
import ConditionalGateway.Pattern.Footprint

/-!
# Reading patterns

A pattern is read from left to right into its tree, with a frame for each
group that is open. Flags that a group sets end with it. Every step takes at
least one character, so there are no more steps than characters.
-/

namespace ConditionalGateway.Pattern

open Unicode

def maxNesting : Nat := 250

/-- A part of a sequence. Flags are no operand of a repetition. -/
structure Part where
  node : Node
  depth : Nat
  isFlags : Bool := false

/-- The choices of a group that have ended and the parts of the one that has not, the latest part
first. -/
structure Choices where
  ended : List Part := []
  parts : List Part := []

def sequenceOf (parts : List Part) : Part :=
  match parts with
  | [] => ⟨.empty, 0, false⟩
  | [p] => p
  | ps =>
    ⟨ps.foldl (fun n p => p.node.append n) .empty, (ps.map (·.depth)).foldl max 0 + 1, false⟩

def Choices.close (c : Choices) : Part :=
  match sequenceOf c.parts :: c.ended with
  | [] => ⟨.empty, 0, false⟩
  | last :: earlier =>
    earlier.foldl (fun n p => ⟨.alt p.node n.node, max p.depth n.depth, false⟩) last
      |> fun p => if earlier.isEmpty then p else { p with depth := p.depth + 1 }

/-- A group that is open: what came before it, the flags outside, and whether it captures. -/
structure Group where
  outer : Choices
  flags : Flags
  captures : Bool

structure Reading where
  groups : List Group := []
  choices : Choices := {}
  flags : Flags := {}
  names : List String := []

def Reading.push (r : Reading) (p : Part) : Reading :=
  { r with choices := { r.choices with parts := p :: r.choices.parts } }

def Flags.charNode (flags : Flags) (c : Char) : Node :=
  let s := CharSet.single c.toNat
  .set (if flags.unicode || c.toNat < 0x80 then flags.close false s else s)

def Flags.dotNode? (flags : Flags) : Option Node :=
  if !flags.unicode then none
  else if flags.dotAll then some (.set CharSet.all)
  else if flags.anyLine then some (.set (CharSet.ofRanges [(10, 10), (13, 13)]).compl)
  else some (.set (CharSet.single 10).compl)

def Flags.wordRule (flags : Flags) : WordRule := if flags.unicode then .unicode else .ascii

def Flags.lookNode (flags : Flags) (l : Look) : Node := .look l flags.wordRule

def Flags.caret (flags : Flags) : Look :=
  if !flags.multiLine then .textStart else if flags.anyLine then .anyLineStart else .lineStart

def Flags.dollar (flags : Flags) : Look :=
  if !flags.multiLine then .textEnd else if flags.anyLine then .anyLineEnd else .lineEnd

def Flags.elementNode (flags : Flags) : Element → Node
  | .char c => flags.charNode c
  | .set s => .set s
  | .look l => flags.lookNode l

/-- Sets one flag. The flag for greed changes which match is preferred and so nothing here. -/
def Flags.assign? (flags : Flags) (letter : Char) (value : Bool) : Option Flags :=
  match letter with
  | 'i' => some { flags with caseless := value }
  | 'm' => some { flags with multiLine := value }
  | 's' => some { flags with dotAll := value }
  | 'u' => some { flags with unicode := value }
  | 'R' => some { flags with anyLine := value }
  | 'x' => some { flags with spaced := value }
  | 'U' => some flags
  | _ => none

/-- Reads letters of flags up to a colon or a parenthesis. Each letter and the hyphen come at most
once, and the hyphen not last. -/
def readFlags? (flags : Flags) (value : Bool) (seen : List Char) :
    List Char → Option (Flags × Char × List Char)
  | [] => none
  | c :: rest =>
    if c = ':' ∨ c = ')' then
      if seen.head? = some '-' ∨ (c = ')' ∧ seen.isEmpty) then none else some (flags, c, rest)
    else if c ∈ seen then none
    else if c = '-' then readFlags? flags false (c :: seen) rest
    else
      match flags.assign? c value with
      | some flags => readFlags? flags value (c :: seen) rest
      | none => none

def isNameChar (first : Bool) (c : Char) : Bool :=
  if first then c == '_' || isAlphabetic c
  else c == '_' || c == '.' || c == '[' || c == ']' || isAlphanumeric c

def readGroupName? (cs : List Char) : Option (String × List Char) :=
  match cs.takeWhile (· ≠ '>'), cs.dropWhile (· ≠ '>') with
  | first :: more, '>' :: rest =>
    if isNameChar true first && more.all (isNameChar false) then
      some (String.ofList (first :: more), rest)
    else none
  | _, _ => none

def Reading.openGroup (r : Reading) (captures : Bool) (inner : Flags) : Reading :=
  { r with groups := ⟨r.choices, r.flags, captures⟩ :: r.groups, choices := {}, flags := inner }

def Reading.openNamed? (r : Reading) (cs : List Char) : Option (Reading × List Char) := do
  let (name, rest) ← readGroupName? cs
  if name ∈ r.names then none
  some ({ r with names := name :: r.names }.openGroup true r.flags, rest)

def Reading.openParen? (r : Reading) (cs : List Char) : Option (Reading × List Char) :=
  match r.flags.skip cs with
  | '?' :: '=' :: _ => none
  | '?' :: '!' :: _ => none
  | '?' :: '<' :: '=' :: _ => none
  | '?' :: '<' :: '!' :: _ => none
  | '?' :: 'P' :: '<' :: rest => r.openNamed? rest
  | '?' :: '<' :: rest => r.openNamed? rest
  | '?' :: rest => do
    let (inner, closer, rest) ← readFlags? r.flags true [] rest
    if closer = ')' then some ({ r.push ⟨.empty, 0, true⟩ with flags := inner }, rest)
    else some (r.openGroup false inner, rest)
  | rest => some (r.openGroup true r.flags, rest)

def Reading.closeParen? (r : Reading) : Option Reading :=
  match r.groups with
  | [] => none
  | g :: groups =>
    let inner := r.choices.close
    let node := if g.captures then .group inner.node else inner.node
    let outer := { r with groups, choices := g.outer, flags := g.flags }
    some (outer.push ⟨node, inner.depth + 1, false⟩)

def Reading.bar (r : Reading) : Reading :=
  { r with choices := ⟨sequenceOf r.choices.parts :: r.choices.ended, []⟩ }

def Reading.repeatLast? (r : Reading) (min : Nat) (max : Option Nat) : Option Reading :=
  match r.choices.parts with
  | p :: parts =>
    if p.isFlags then none
    else some { r with
      choices := { r.choices with parts := ⟨p.node.times min max, p.depth + 1, false⟩ :: parts } }
  | [] => none

/-- Drops the mark that a repetition takes as little as it can. -/
def dropLazy : List Char → List Char
  | '?' :: rest => rest
  | cs => cs

def maxCount : Nat := 4294967295

/-- Reads a number between blanks. -/
def readCount? (flags : Flags) (cs : List Char) : Option (Option Nat × List Char) :=
  let start := cs.dropWhile isBlank
  let (digits, rest) := flags.readWhile isAsciiDigit start.length start
  let rest := flags.skip (rest.dropWhile isBlank)
  let n := natOfRadix 10 digits
  if digits.isEmpty then some (none, rest)
  else if maxCount < n then none
  else some (some n, rest)

def readBounds? (flags : Flags) (cs : List Char) : Option (Nat × Option Nat × List Char) := do
  let (first, rest) ← readCount? flags (← flags.next? ('\x7b' :: cs))
  let least ← first
  let (most, rest) ←
    match rest with
    | ',' :: rest => do
      let rest ← flags.next? (',' :: rest)
      if rest.head? = some '\x7d' then some (none, rest)
      else
        let (second, rest) ← readCount? flags rest
        let most ← second
        if most < least then none
        some (some most, rest)
    | rest => some (some least, rest)
  match rest with
  | '\x7d' :: rest => some (least, most, dropLazy (flags.skip rest))
  | _ => none

def Reading.step? (r : Reading) (c : Char) (rest : List Char) : Option (Reading × List Char) :=
  match c with
  | '(' => r.openParen? rest
  | ')' => r.closeParen?.map (·, rest)
  | '|' => some (r.bar, rest)
  | '[' => do
    let (n, rest) ← readClass? r.flags ('[' :: rest)
    some (r.push ⟨.set n.set, n.depth, false⟩, rest)
  | '?' => (r.repeatLast? 0 (some 1)).map (·, dropLazy rest)
  | '*' => (r.repeatLast? 0 none).map (·, dropLazy rest)
  | '+' => (r.repeatLast? 1 none).map (·, dropLazy rest)
  | '\x7b' => do
    let (least, most, rest) ← readBounds? r.flags rest
    some (← r.repeatLast? least most, rest)
  | '\\' => do
    let (e, rest) ← readEscape? r.flags rest
    some (r.push ⟨r.flags.elementNode e, 0, false⟩, rest)
  | '.' => r.flags.dotNode?.map fun n => (r.push ⟨n, 0, false⟩, rest)
  | '^' => some (r.push ⟨r.flags.lookNode r.flags.caret, 0, false⟩, rest)
  | '$' => some (r.push ⟨r.flags.lookNode r.flags.dollar, 0, false⟩, rest)
  | c => some (r.push ⟨r.flags.charNode c, 0, false⟩, rest)

def Reading.run? : Nat → Reading → List Char → Option Reading
  | 0, _, _ => none
  | fuel + 1, r, cs =>
    match r.flags.skip cs with
    | [] => some r
    | c :: rest => do
      let (r, rest) ← r.step? c rest
      run? fuel r rest

def Node.ofString? (s : String) : Option Node := do
  let r ← Reading.run? (s.length + 1) {} s.toList
  if !r.groups.isEmpty then none
  let p := r.choices.close
  if maxNesting < p.depth then none
  some p.node

end ConditionalGateway.Pattern
