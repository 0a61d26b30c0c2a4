import ConditionalGateway.Unicode.CharSet
import ConditionalGateway.Unicode.Data.Category
import ConditionalGateway.Unicode.Data.Property

/-!
# Character classes

Blanks, letters, numbers, and the characters that a quoted text shows by
number. ASCII is decided by plain comparisons, all else by the tables.
-/

namespace ConditionalGateway.Unicode

def tableSet (table : List (String × String)) (name : String) : CharSet :=
  match table.lookup name with
  | some text => CharSet.decode text
  | none => CharSet.empty

def category (name : String) : CharSet := tableSet Data.categories name

def categoriesOf (names : List String) : CharSet :=
  CharSet.ofRanges (names.flatMap fun n => (category n).ranges.toList)

def property (name : String) : CharSet := tableSet Data.properties name

def alphabeticSet : CharSet := property "alphabetic"

def numericSet : CharSet := categoriesOf ["Nd", "Nl", "No"]

def graphemeExtendSet : CharSet := property "graphemeextend"

/-- The characters that have a look of their own: all assigned ones but separators, controls,
format characters and those for private use. -/
def printableSet : CharSet :=
  categoriesOf ["Lu", "Ll", "Lt", "Lm", "Lo", "Mn", "Mc", "Me", "Nd", "Nl", "No",
    "Pc", "Pd", "Ps", "Pe", "Pi", "Pf", "Po", "Sm", "Sc", "Sk", "So"]

/-- The blanks of ASCII: tab, line feed, vertical tab, form feed, carriage return and space. -/
def isAsciiBlank (c : Char) : Bool := (9 ≤ c.toNat && c.toNat ≤ 13) || c.toNat == 32

def isAsciiDigit (c : Char) : Bool := 48 ≤ c.toNat && c.toNat ≤ 57

def isHexDigit (c : Char) : Bool :=
  isAsciiDigit c || (65 ≤ c.toNat && c.toNat ≤ 70) || (97 ≤ c.toNat && c.toNat ≤ 102)

def isAsciiLetter (c : Char) : Bool :=
  (65 ≤ c.toNat && c.toNat ≤ 90) || (97 ≤ c.toNat && c.toNat ≤ 122)

def isBlank (c : Char) : Bool :=
  let n := c.toNat
  isAsciiBlank c || n == 0x85 || n == 0xA0 || n == 0x1680 || (0x2000 ≤ n && n ≤ 0x200A) ||
    n == 0x2028 || n == 0x2029 || n == 0x202F || n == 0x205F || n == 0x3000

def isAlphabetic (c : Char) : Bool :=
  if c.toNat < 0x80 then isAsciiLetter c else alphabeticSet.contains c.toNat

def isNumeric (c : Char) : Bool :=
  if c.toNat < 0x80 then isAsciiDigit c else numericSet.contains c.toNat

def isAlphanumeric (c : Char) : Bool := isAlphabetic c || isNumeric c

def isGraphemeExtend (c : Char) : Bool :=
  if c.toNat < 0x80 then false else graphemeExtendSet.contains c.toNat

def isPrintable (c : Char) : Bool :=
  if c.toNat < 0x80 then 32 ≤ c.toNat && c.toNat < 127 else printableSet.contains c.toNat

def trim (cs : List Char) : List Char :=
  ((cs.dropWhile isBlank).reverse.dropWhile isBlank).reverse

def asciiLower (c : Char) : Char :=
  if 65 ≤ c.toNat && c.toNat ≤ 90 then Char.ofNat (c.toNat + 32) else c

def lowerAscii (s : String) : String := s.map asciiLower

end ConditionalGateway.Unicode
