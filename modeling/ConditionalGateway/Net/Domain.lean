import ConditionalGateway.Net.Punycode
import ConditionalGateway.Unicode.Canonical
import ConditionalGateway.Unicode.Data.DomainMapping
import ConditionalGateway.Unicode.Direction

/-!
# Domain names

The ASCII form of a domain name. The name is mapped to its one spelling, in
lower case and canonically composed; each label is then checked, one written in
Punycode after it is read; and the labels that are not ASCII are written in
Punycode. `toAscii?` refuses a name with a label that does not pass.
-/

namespace ConditionalGateway.Net.Domain

def isForbidden (c : Char) : Bool :=
  c.toNat ≤ 32 || c.toNat = 127 ||
    ['%', '#', '/', ':', '<', '>', '?', '@', '[', '\\', ']', '^', '|'].contains c

def replacements : Unicode.Replacements :=
  Unicode.Replacements.decode Unicode.Data.domainReplacements

def ignoredSet : Unicode.CharSet := Unicode.CharSet.decode Unicode.Data.domainIgnored

def disallowedSet : Unicode.CharSet := Unicode.CharSet.decode Unicode.Data.domainDisallowed

def mapChar? (c : Char) : Option (List Char) :=
  if c.toNat < 0x80 then some [Unicode.asciiLower c]
  else if ignoredSet.contains c.toNat then some []
  else if disallowedSet.contains c.toNat then none
  else
    match replacements.find? c.toNat with
    | some ns => some (ns.map Char.ofNat)
    | none => some [c]

def spell? (cs : List Char) : Option (List Char) :=
  (cs.mapM mapChar?).map fun css => Unicode.canonicalForm css.flatten

/-- Whether every character is its own spelling, alone and beside the others. -/
def isSpelled (cs : List Char) : Bool :=
  cs.all (fun c => mapChar? c == some [c]) && Unicode.canonicalForm cs == cs

def markSet : Unicode.CharSet := Unicode.categoriesOf ["Mn", "Mc", "Me"]

def joining (name : String) : Unicode.CharSet := Unicode.tableSet Unicode.Data.joiningTypes name

def joinsNextSet : Unicode.CharSet := (joining "L").union (joining "D")

def joinsPreviousSet : Unicode.CharSet := (joining "R").union (joining "D")

def transparentSet : Unicode.CharSet := joining "T"

/-- Whether the first character that joining does not look through is in a set. -/
def joins (set : Unicode.CharSet) (cs : List Char) : Bool :=
  match cs.dropWhile fun c => transparentSet.contains c.toNat with
  | c :: _ => set.contains c.toNat
  | [] => false

/-- Whether a joiner can stand behind `before`, whose last character comes first, and in front of
`after`: behind a virama, or, for the one that keeps letters apart, between letters that would
join. -/
def joinerFits (c : Char) (before after : List Char) : Bool :=
  (before.head?.any fun p => Unicode.combiningClass p.toNat = 9) ||
    (c = '\u200c' && joins joinsNextSet before && joins joinsPreviousSet after)

/-- Whether all joiners of a label stand where they can, given what stands before it, the last
character first. -/
def joinersFit (before : List Char) : List Char → Bool
  | [] => true
  | c :: rest =>
    (if c = '\u200c' || c = '\u200d' then joinerFits c before rest else true) &&
      joinersFit (c :: before) rest

def isAscii (cs : List Char) : Bool := cs.all fun c => c.toNat < 0x80

def maxLabel : Nat := 1000

def maxPunycode : Nat := 2000

def isLabel (cs : List Char) : Bool :=
  !(cs.any isForbidden) && !(cs.head?.any fun c => markSet.contains c.toNat) &&
    joinersFit [] cs && (isAscii cs || cs.length ≤ maxLabel)

/-- Reads a label behind its mark of Punycode. It has a character beyond ASCII, or it would not be
in Punycode. -/
def readPunycode? (cs : List Char) : Option (List Char) := do
  if maxPunycode < cs.length then none
  let label ← Punycode.decode? cs
  if !isAscii label && isSpelled label && !label.contains '.' then some label else none

def readLabel? (cs : List Char) : Option (List Char) := do
  let label ← match cs with
    | 'x' :: 'n' :: '-' :: '-' :: rest => if isAscii rest then readPunycode? rest else none
    | cs => some cs
  if isLabel label then some label else none

/-- Whether no label is unreadable in a name of both directions. -/
def isReadable (labels : List (List Char)) : Bool :=
  let classes := labels.map fun cs => cs.map Unicode.bidiClass
  !(classes.any fun bs => bs.any Unicode.BidiClass.isStrongRight) ||
    classes.all Unicode.BidiClass.isReadable

def labelToAscii (cs : List Char) : String :=
  if isAscii cs then String.ofList cs else "xn--" ++ String.ofList (Punycode.encode cs)

def toAscii? (name : String) : Option String := do
  let spelled ← spell? name.toList
  let labels ← ((String.ofList spelled).splitOn ".").mapM fun l => readLabel? l.toList
  if isReadable labels then some (String.intercalate "." (labels.map labelToAscii)) else none

end ConditionalGateway.Net.Domain
