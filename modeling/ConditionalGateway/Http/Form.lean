import ConditionalGateway.Text.Utf8
import ConditionalGateway.Unicode.Classes

/-!
# Parameters of a query

A query as a list of names with values: pieces between ampersands, a name up
to the first equals sign, a plus for a space, and bytes by percent signs. An
escape that is not one stays as it is.
-/

namespace ConditionalGateway.Http.Form

def hexOfByte? (b : UInt8) : Option Nat :=
  let c := Char.ofNat b.toNat
  if Unicode.isHexDigit c then some (Unicode.hexValue c) else none

def percentDecode : List UInt8 → List UInt8
  | [] => []
  | [b] => [b]
  | [b, c] => [b, c]
  | b :: h :: l :: rest =>
    if b = 0x25 then
      match hexOfByte? h, hexOfByte? l with
      | some x, some y => (x * 16 + y).toUInt8 :: percentDecode rest
      | _, _ => b :: percentDecode (h :: l :: rest)
    else b :: percentDecode (h :: l :: rest)

def decodePiece (bs : List UInt8) : String :=
  Text.decodeReplacing (percentDecode (bs.map fun b => if b = 0x2B then 0x20 else b))

def splitPiece (bs : List UInt8) : String × String :=
  (decodePiece (bs.takeWhile (· ≠ 0x3D)), decodePiece ((bs.dropWhile (· ≠ 0x3D)).drop 1))

def pieces (bs : List UInt8) : List (List UInt8) :=
  bs.foldr (fun b acc =>
    if b = 0x26 then [] :: acc
    else match acc with
      | [] => [[b]]
      | p :: ps => (b :: p) :: ps) [[]]

def parameters (query : String) : List (String × String) :=
  ((pieces (Text.encode query)).filter fun p => !p.isEmpty).map splitPiece

def valuesOf (query key : String) : List String :=
  (parameters query).filterMap fun p => if p.1 = key then some p.2 else none

end ConditionalGateway.Http.Form
