/-!
# Text as bytes

UTF-8 both ways. `encode` is total; `decode?` accepts well-formed sequences
only; `decodeReplacing` reads any bytes, with one U+FFFD for each run of bytes
that starts like a character and cannot be finished.
-/

namespace ConditionalGateway.Text

def encodeChar (c : Char) : List UInt8 :=
  let n := c.toNat
  if n < 0x80 then [n.toUInt8]
  else if n < 0x800 then [(0xC0 + n / 64).toUInt8, (0x80 + n % 64).toUInt8]
  else if n < 0x10000 then
    [(0xE0 + n / 4096).toUInt8, (0x80 + n / 64 % 64).toUInt8, (0x80 + n % 64).toUInt8]
  else
    [(0xF0 + n / 262144).toUInt8, (0x80 + n / 4096 % 64).toUInt8,
      (0x80 + n / 64 % 64).toUInt8, (0x80 + n % 64).toUInt8]

def encode (s : String) : List UInt8 := s.toList.flatMap encodeChar

/-- What stands at the start of some bytes: a character with its length, or so many bytes that
start like one and go wrong. -/
inductive Unit8 where
  | char (c : Char) (length : Nat)
  | broken (length : Nat)
  deriving Repr, DecidableEq

def isTail (b : UInt8) : Bool := 0x80 ≤ b && b ≤ 0xBF

def tailBits (b : UInt8) : Nat := b.toNat % 64

def secondByteOk (first second : UInt8) : Bool :=
  if first = 0xE0 then 0xA0 ≤ second && second ≤ 0xBF
  else if first = 0xED then 0x80 ≤ second && second ≤ 0x9F
  else if first = 0xF0 then 0x90 ≤ second && second ≤ 0xBF
  else if first = 0xF4 then 0x80 ≤ second && second ≤ 0x8F
  else isTail second

def readUnit (b : UInt8) (rest : List UInt8) : Unit8 :=
  if b < 0x80 then .char (Char.ofNat b.toNat) 1
  else if 0xC2 ≤ b && b ≤ 0xDF then
    match rest with
    | b2 :: _ => if isTail b2 then .char (Char.ofNat ((b.toNat - 0xC0) * 64 + tailBits b2)) 2
                 else .broken 1
    | [] => .broken 1
  else if 0xE0 ≤ b && b ≤ 0xEF then
    match rest with
    | b2 :: rest2 =>
      if secondByteOk b b2 then
        match rest2 with
        | b3 :: _ =>
          if isTail b3 then
            .char (Char.ofNat ((b.toNat - 0xE0) * 4096 + tailBits b2 * 64 + tailBits b3)) 3
          else .broken 2
        | [] => .broken 2
      else .broken 1
    | [] => .broken 1
  else if 0xF0 ≤ b && b ≤ 0xF4 then
    match rest with
    | b2 :: rest2 =>
      if secondByteOk b b2 then
        match rest2 with
        | b3 :: rest3 =>
          if isTail b3 then
            match rest3 with
            | b4 :: _ =>
              if isTail b4 then
                .char (Char.ofNat ((b.toNat - 0xF0) * 262144 + tailBits b2 * 4096
                  + tailBits b3 * 64 + tailBits b4)) 4
              else .broken 3
            | [] => .broken 3
          else .broken 2
        | [] => .broken 2
      else .broken 1
    | [] => .broken 1
  else .broken 1

/-- Reads the units of some bytes. A unit takes the first byte and `length - 1` more. -/
def units : List UInt8 → List Unit8
  | [] => []
  | b :: rest =>
    match readUnit b rest with
    | .char c n => .char c n :: units (rest.drop (n - 1))
    | .broken n => .broken n :: units (rest.drop (n - 1))
termination_by bs => bs.length
decreasing_by all_goals simp only [List.length_drop, List.length_cons]; omega

def Unit8.char? : Unit8 → Option Char
  | .char c _ => some c
  | .broken _ => none

def decode? (bs : List UInt8) : Option String :=
  ((units bs).mapM Unit8.char?).map String.ofList

def decodeReplacing (bs : List UInt8) : String :=
  String.ofList ((units bs).map fun u => u.char?.getD '\uFFFD')

def byteLength (cs : List Char) : Nat := cs.foldl (fun n c => n + c.utf8Size) 0

end ConditionalGateway.Text
