import ConditionalGateway.Unicode.Classes
import ConditionalGateway.Unicode.Data.Age
import ConditionalGateway.Unicode.Data.Break
import ConditionalGateway.Unicode.Data.Name
import ConditionalGateway.Unicode.Data.Script
import ConditionalGateway.Unicode.Data.ScriptExtension

/-!
# Classes by property

The set that a name between braces stands for: a property, a general category
or a script by its name alone, or a property with a value. Names are compared
without regard to case, blanks, hyphens and underscores, and a leading `is`
does not count.
-/

namespace ConditionalGateway.Pattern

open Unicode

def dropIs (cs : List Char) : List Char × Bool :=
  match cs with
  | a :: b :: rest =>
    if asciiLower a = 'i' ∧ asciiLower b = 's' then (rest, true) else (cs, false)
  | _ => (cs, false)

/-- The form in which names are compared. `isc` names a property of its own and is not the
category `c`. -/
def foldName (cs : List Char) : String :=
  let (rest, hadIs) := dropIs cs
  let kept := rest.filter fun c => c ≠ ' ' ∧ c ≠ '_' ∧ c ≠ '-' ∧ c.toNat < 0x80
  let name := String.ofList (kept.map asciiLower)
  if hadIs && name == "c" then "isc" else name

def categoryMembers (name : String) : List String :=
  match name with
  | "C" => ["Cc", "Cf", "Co", "Cn"]
  | "L" => ["Lu", "Ll", "Lt", "Lm", "Lo"]
  | "LC" => ["Lu", "Ll", "Lt"]
  | "M" => ["Mn", "Mc", "Me"]
  | "N" => ["Nd", "Nl", "No"]
  | "P" => ["Pc", "Pd", "Ps", "Pe", "Pi", "Pf", "Po"]
  | "S" => ["Sm", "Sc", "Sk", "So"]
  | "Z" => ["Zs", "Zl", "Zp"]
  | name => [name]

/-- The categories that a table lists. The one left out has what no other one has. -/
def assignedCategories : List String := Data.categories.map (·.1)

def unassigned : CharSet := (categoriesOf assignedCategories).compl

def categorySet (name : String) : CharSet :=
  let members := categoryMembers name
  let listed := categoriesOf members
  if members.contains "Cn" then listed.union unassigned else listed

def categoryByName? (name : String) : Option CharSet :=
  match name with
  | "any" => some CharSet.all
  | "assigned" => some unassigned.compl
  | "ascii" => some (CharSet.range 0 0x7F)
  | name => (Data.categoryNames.lookup name).map categorySet

def scriptByName? (name : String) : Option CharSet :=
  (Data.scriptNames.lookup name).map (tableSet Data.scripts)

/-- The characters used with a script, which are its own ones unless a table says more. -/
def scriptExtensionByName? (name : String) : Option CharSet := do
  let script ← Data.scriptNames.lookup name
  match Data.scriptExtensions.lookup script with
  | some text => some (CharSet.decode text)
  | none => some (tableSet Data.scripts script)

def ageByName? (name : String) : Option CharSet := do
  let version ← Data.ageNames.lookup name
  let upTo := Data.ages.takeWhile (fun e => e.1 ≠ version) ++
    Data.ages.filter (fun e => e.1 = version)
  some (CharSet.ofRanges (upTo.flatMap fun e => (CharSet.decode e.2).ranges.toList))

/-- The set of a name that stands alone. Three short names are those of categories, though
properties could be meant. -/
def setByName? (name : String) : Option CharSet :=
  let byProperty :=
    if name = "cf" ∨ name = "sc" ∨ name = "lc" then none
    else (Data.propertyNames.lookup name).map property
  byProperty <|> categoryByName? name <|> scriptByName? name

def valueByName? (names table : List (String × String)) (name : String) : Option CharSet :=
  (names.lookup name).map (tableSet table)

def setByValue? (property value : String) : Option CharSet :=
  if property ∈ ["gc", "generalcategory"] then categoryByName? value
  else if property ∈ ["sc", "script"] then scriptByName? value
  else if property ∈ ["scx", "scriptextensions"] then scriptExtensionByName? value
  else if property = "age" then ageByName? value
  else if property ∈ ["gcb", "graphemeclusterbreak"] then
    valueByName? Data.graphemeBreakNames Data.graphemeBreaks value
  else if property ∈ ["wb", "wordbreak"] then
    valueByName? Data.wordBreakNames Data.wordBreaks value
  else if property ∈ ["sb", "sentencebreak"] then
    valueByName? Data.sentenceBreakNames Data.sentenceBreaks value
  else none

def splitAt? (mark : List Char) : List Char → Option (List Char × List Char)
  | [] => none
  | c :: cs =>
    if mark.isPrefixOf (c :: cs) then some ([], (c :: cs).drop mark.length)
    else (splitAt? mark cs).map fun (a, b) => (c :: a, b)

/-- The set that stands between the braces of a class, and whether the text itself negates it. -/
def propertySet? (content : List Char) : Option (CharSet × Bool) :=
  let byValue := fun (parts : List Char × List Char) =>
    setByValue? (foldName parts.1) (foldName parts.2)
  match splitAt? ['!', '='] content with
  | some parts => (byValue parts).map (·, true)
  | none =>
    match splitAt? [':'] content <|> splitAt? ['='] content with
    | some parts => (byValue parts).map (·, false)
    | none => (setByName? (foldName content)).map (·, false)

def wordSet : CharSet :=
  ((property "alphabetic").union (property "joincontrol")).union
    (categoriesOf ["Mn", "Mc", "Me", "Nd", "Pc"])

def digitSet : CharSet := category "Nd"

def spaceSet : CharSet := property "whitespace"

end ConditionalGateway.Pattern
