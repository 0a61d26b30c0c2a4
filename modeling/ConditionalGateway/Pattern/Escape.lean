import ConditionalGateway.Pattern.Node
import ConditionalGateway.Unicode.Fold

/-!
# Flags and escapes

The flags that a pattern can set for a part of itself, the blanks and comments
that one of them admits, and what a backslash starts. A reader gives what it
read with the characters behind it, or nothing if they are not well formed.
-/

namespace ConditionalGateway.Pattern

open Unicode

structure Flags where
  caseless : Bool := false
  multiLine : Bool := false
  dotAll : Bool := false
  unicode : Bool := true
  anyLine : Bool := false
  spaced : Bool := false
  deriving DecidableEq, Repr, Inhabited

def skipSpaced (inComment : Bool) : List Char → List Char
  | [] => []
  | c :: cs =>
    if inComment then skipSpaced (c ≠ '\n') cs
    else if isBlank c then skipSpaced false cs
    else if c = '#' then skipSpaced true cs
    else c :: cs

def Flags.skip (flags : Flags) (cs : List Char) : List Char :=
  if flags.spaced then skipSpaced false cs else cs

/-- Goes past one character and what does not count behind it; something has to be left. -/
def Flags.next? (flags : Flags) (cs : List Char) : Option (List Char) :=
  match flags.skip cs.tail with
  | [] => none
  | rest => some rest

/-- A set as the flags want it: closed under case, then negated. A set of bytes has no code points
above 255 and may, when it is complete, have none above 127. -/
def Flags.close (flags : Flags) (negated : Bool) (s : CharSet) : CharSet :=
  let s :=
    if !flags.caseless then s else if flags.unicode then s.foldCase else s.foldAsciiCase
  if !negated then s
  else if flags.unicode then s.compl
  else s.compl.inter (CharSet.range 0 0xFF)

def Flags.allow? (flags : Flags) (s : CharSet) : Option CharSet :=
  if flags.unicode || s.isAscii then some s else none

inductive Element where
  | char (c : Char)
  | set (s : CharSet)
  | look (look : Look)
  deriving Repr

def isEscapable (c : Char) : Bool :=
  c.toNat < 0x80 && !isAsciiLetter c && !isAsciiDigit c && c != '<' && c != '>'

def charOfHex? (digits : List Char) : Option Char :=
  let n := natOfRadix 16 digits
  if h : n.isValidChar then some (Char.ofNatAux n h) else none

def readDigits? (flags : Flags) : Nat → List Char → Option (List Char × List Char)
  | 0, cs => some ([], cs)
  | n + 1, cs =>
    match cs with
    | [] => none
    | c :: rest => do
      if !isHexDigit c then none
      let (digits, rest) ← readDigits? flags n (flags.skip rest)
      some (c :: digits, rest)

def readBraced? (flags : Flags) : Nat → List Char → Option (List Char × List Char)
  | 0, _ => none
  | fuel + 1, cs =>
    match cs with
    | [] => none
    | '\x7d' :: rest => some ([], flags.skip rest)
    | c :: rest => do
      if !isHexDigit c then none
      let (digits, rest) ← readBraced? flags fuel (flags.skip rest)
      some (c :: digits, rest)

/-- A character given by number. Two digits stand for a byte where the pattern is made of bytes,
and a byte above 127 is no character. -/
def readHex? (flags : Flags) (digits : Nat) (cs : List Char) : Option (Element × List Char) := do
  match flags.skip cs with
  | '\x7b' :: rest =>
    let (ds, rest) ← readBraced? flags (rest.length + 1) (flags.skip rest)
    if ds.isEmpty then none
    some (.char (← charOfHex? ds), rest)
  | cs =>
    let (ds, rest) ← readDigits? flags digits cs
    let c ← charOfHex? ds
    if digits = 2 && !flags.unicode && 0x7F < c.toNat then none
    some (.char c, rest)

def readName? (flags : Flags) : Nat → List Char → Option (List Char × List Char)
  | 0, _ => none
  | fuel + 1, cs =>
    match cs with
    | [] => none
    | '\x7d' :: rest => some ([], rest)
    | c :: rest => do
      let (name, rest) ← readName? flags fuel (flags.skip rest)
      some (c :: name, rest)

def readProperty? (flags : Flags) (negated : Bool) (cs : List Char) :
    Option (Element × List Char) := do
  let (content, rest) ←
    match flags.skip cs with
    | [] => none
    | '\\' :: _ => none
    | '\x7b' :: rest => readName? flags (rest.length + 1) (flags.skip rest)
    | c :: rest => some ([c], flags.skip rest)
  if !flags.unicode then none
  let (s, differs) ← propertySet? content
  some (.set (flags.close (negated != differs) s), rest)

def classByLetter? (flags : Flags) (c : Char) : Option CharSet :=
  let byBytes := fun s : CharSet => s.inter (CharSet.range 0 0x7F)
  let base := match asciiLower c with
    | 'd' => some digitSet
    | 's' => some spaceSet
    | 'w' => some wordSet
    | _ => none
  base.bind fun s =>
    let s := if flags.unicode then s else byBytes s
    flags.allow? (if c = asciiLower c then s else { flags with caseless := false }.close true s)

/-- Reads characters of a kind; where blanks do not count they may stand between them. -/
def Flags.readWhile (flags : Flags) (kind : Char → Bool) : Nat → List Char → List Char × List Char
  | 0, cs => ([], cs)
  | fuel + 1, cs =>
    match cs with
    | [] => ([], [])
    | c :: rest =>
      if kind c then
        let (read, rest) := flags.readWhile kind fuel (flags.skip rest)
        (c :: read, rest)
      else ([], c :: rest)

def isBoundaryChar (c : Char) : Bool := isAsciiLetter c || c == '-'

/-- What stands behind a word boundary: its name between braces, if the brace does not start the
count of a repetition. -/
def readBoundary? (flags : Flags) (cs : List Char) : Option (Element × List Char) :=
  match cs with
  | '\x7b' :: inner => do
    let first ← (flags.skip inner).head?
    if !isBoundaryChar first then some (.look .wordBoundary, cs)
    else
      let (name, rest) := flags.readWhile isBoundaryChar (inner.length + 1) (flags.skip inner)
      if rest.head? ≠ some '\x7d' then none
      let look ← match String.ofList name with
        | "start" => some Look.wordStart
        | "end" => some .wordEnd
        | "start-half" => some .wordStartHalf
        | "end-half" => some .wordEndHalf
        | _ => none
      some (.look look, rest.tail)
  | _ => some (.look .wordBoundary, cs)

def readEscape? (flags : Flags) (cs : List Char) : Option (Element × List Char) := do
  match cs with
  | [] => none
  | c :: rest =>
    match c with
    | 'x' => readHex? flags 2 rest
    | 'u' => readHex? flags 4 rest
    | 'U' => readHex? flags 8 rest
    | 'p' => readProperty? flags false rest
    | 'P' => readProperty? flags true rest
    | 'a' => some (.char '\x07', rest)
    | 'f' => some (.char '\x0c', rest)
    | 't' => some (.char '\t', rest)
    | 'n' => some (.char '\n', rest)
    | 'r' => some (.char '\r', rest)
    | 'v' => some (.char '\x0b', rest)
    | 'A' => some (.look .textStart, rest)
    | 'z' => some (.look .textEnd, rest)
    | 'b' => readBoundary? flags rest
    | 'B' => some (.look .notWordBoundary, rest)
    | '<' => some (.look .wordStart, rest)
    | '>' => some (.look .wordEnd, rest)
    | c =>
      match classByLetter? flags c with
      | some s => some (.set s, rest)
      | none => if isEscapable c then some (.char c, rest) else none

end ConditionalGateway.Pattern
