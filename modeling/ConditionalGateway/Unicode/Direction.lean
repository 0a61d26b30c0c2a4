import ConditionalGateway.Unicode.Classes
import ConditionalGateway.Unicode.Data.Direction

/-!
# Directions

Which way characters run, and the rule that keeps a label of a domain name
readable where letters of both directions meet: a label runs one way, ends in a
letter or a number of that way, and does not mix two kinds of digits if it runs
from right to left.
-/

namespace ConditionalGateway.Unicode

inductive BidiClass where
  | leftToRight
  | rightToLeft
  | arabicLetter
  | europeanNumber
  | europeanSeparator
  | europeanTerminator
  | arabicNumber
  | commonSeparator
  | otherNeutral
  | boundaryNeutral
  | nonspacingMark
  deriving DecidableEq, Repr

def bidiClassNames : List (String × BidiClass) :=
  [("R", .rightToLeft), ("AL", .arabicLetter), ("EN", .europeanNumber), ("ES", .europeanSeparator),
    ("CS", .commonSeparator), ("ET", .europeanTerminator), ("AN", .arabicNumber),
    ("ON", .otherNeutral), ("BN", .boundaryNeutral), ("NSM", .nonspacingMark)]

def bidiClassSets : List (CharSet × BidiClass) :=
  bidiClassNames.map fun e => (tableSet Data.bidiClasses e.1, e.2)

def bidiClass (c : Char) : BidiClass :=
  match bidiClassSets.find? fun e => e.1.contains c.toNat with
  | some e => e.2
  | none => .leftToRight

namespace BidiClass

/-- Whether a character of the class makes a domain name one of both directions. -/
def isStrongRight (b : BidiClass) : Bool :=
  b == .rightToLeft || b == .arabicLetter || b == .arabicNumber

def isNeutral (b : BidiClass) : Bool :=
  b == .europeanNumber || b == .europeanSeparator || b == .europeanTerminator ||
    b == .commonSeparator || b == .otherNeutral || b == .boundaryNeutral || b == .nonspacingMark

def withoutMarks (bs : List BidiClass) : List BidiClass :=
  (bs.reverse.dropWhile (· == .nonspacingMark)).reverse

/-- Whether a label that begins with these classes, the first one apart, can run from left to
right. -/
def fitsLeft (bs : List BidiClass) : Bool :=
  let body := withoutMarks bs
  body.all (fun b => b == .leftToRight || b.isNeutral) &&
    body.getLast?.all fun b => b == .leftToRight || b == .europeanNumber

/-- Whether a label that begins with these classes, the first one apart, can run from right to
left. -/
def fitsRight (bs : List BidiClass) : Bool :=
  let body := withoutMarks bs
  body.all (fun b => b.isStrongRight || b.isNeutral) &&
    (body.getLast?.all fun b => b.isStrongRight || b == .europeanNumber) &&
    !(body.contains .europeanNumber && body.contains .arabicNumber)

def isReadable : List BidiClass → Bool
  | [] => true
  | first :: rest =>
    match first with
    | .leftToRight => fitsLeft rest
    | .rightToLeft | .arabicLetter => fitsRight rest
    | _ => false

end BidiClass
end ConditionalGateway.Unicode
