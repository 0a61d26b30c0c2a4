import ConditionalGateway.Net.Address
import ConditionalGateway.Net.Domain
import ConditionalGateway.Http.Form

/-!
# Hosts of addresses

A host is a domain, an IPv4 address or an IPv6 address in brackets. Where the
scheme is one of the web a domain is brought into its ASCII form, and one that
ends in a number is an IPv4 address; elsewhere a host is taken as it is.
-/

namespace ConditionalGateway.Net

open Unicode (isAsciiDigit natOfRadix)

inductive UrlError where
  | relative
  | emptyHost
  | invalidDomain
  | invalidPort
  | invalidV4
  | invalidV6
  | invalidHostChar
  deriving DecidableEq, Repr

def UrlError.message : UrlError → String
  | .relative => "relative URL without a base"
  | .emptyHost => "empty host"
  | .invalidDomain => "invalid international domain name"
  | .invalidPort => "invalid port number"
  | .invalidV4 => "invalid IPv4 address"
  | .invalidV6 => "invalid IPv6 address"
  | .invalidHostChar => "invalid domain character"

inductive Host where
  | domain (name : String)
  | v4 (address : Nat)
  | v6 (groups : List Nat)
  deriving DecidableEq, Repr, Inhabited

def Host.display : Host → String
  | .domain name => name
  | .v4 n => dotted (n / 16777216) (n / 65536 % 256) (n / 256 % 256) (n % 256)
  | .v6 groups => "[" ++ shortGroups groups ++ "]"

-- IPv4 addresses

/-- A number of an IPv4 address: hexadecimal behind `0x`, octal behind `0`, or decimal. -/
def readV4Number? (cs : List Char) : Option Nat :=
  let digits := fun (radix : Nat) (ds : List Char) =>
    if ds.all fun c => isHexDigit c && hexValue c < radix then some (natOfRadix radix ds) else none
  match cs with
  | [] => none
  | '0' :: 'x' :: rest => digits 16 rest
  | '0' :: 'X' :: rest => digits 16 rest
  | '0' :: d :: rest => digits 8 (d :: rest)
  | cs => digits 10 cs

/-- The parts between points; an empty one at the end does not count. -/
def dotParts (s : String) : List String :=
  let parts := s.splitOn "."
  if 1 < parts.length && parts.getLast? == some "" then parts.dropLast else parts

/-- Whether the last part of a domain is a number, so that all of it has to be an address. -/
def endsInNumber (s : String) : Bool :=
  match (dotParts s).getLast? with
  | none => false
  | some last =>
    let cs := last.toList
    (!cs.isEmpty && cs.all isAsciiDigit) || (readV4Number? cs).isSome

/-- An IPv4 address of one to four numbers; the last one fills what the others leave. -/
def readV4Address? (s : String) : Option Nat := do
  let parts := dotParts s
  if 4 < parts.length then none
  let numbers ← parts.mapM fun p => readV4Number? p.toList
  let last ← numbers.getLast?
  let first := numbers.dropLast
  if Nat.pow 256 (4 - first.length) ≤ last || first.any (255 < ·) then none
  some (first.foldl (fun n b => n * 256 + b) 0 * Nat.pow 256 (4 - first.length) + last)

-- IPv6 addresses

/-- Four numbers with points between them, without needless zeros, as two groups. -/
def readEmbeddedV4? (cs : List Char) : Option (List Nat) := do
  let numbers ← ((String.ofList cs).splitOn ".").mapM fun p =>
    match p.toList with
    | [] => none
    | ds =>
      let n := Decimal.natOfDigits ds
      let padded := ds.head? == some '0' && 1 < ds.length
      if !ds.all isAsciiDigit || padded || 255 < n then none else some n
  match numbers with
  | [a, b, c, d] => some [a * 256 + b, c * 256 + d]
  | _ => none

def readGroups? (cs : List Char) : Option (List Nat) := do
  if cs.isEmpty then return []
  let pieces := (String.ofList cs).splitOn ":"
  let group? := fun (p : String) =>
    let ds := p.toList
    if ds.isEmpty || 4 < ds.length || !ds.all isHexDigit then none
    else some [natOfRadix 16 ds]
  let front ← pieces.dropLast.mapM group?
  let last ← pieces.getLast?
  let back ← if last.toList.contains '.' then readEmbeddedV4? last.toList else group? last
  return front.flatten ++ back

/-- An IPv6 address: eight groups, or fewer around one double colon, which stands for at least one
group of zeros. -/
def readV6Address? (cs : List Char) : Option (List Nat) :=
  match (String.ofList cs).splitOn "::" with
  | [all] => do
    let groups ← readGroups? all.toList
    if groups.length = 8 then some groups else none
  | [front, back] => do
    let before ← readGroups? front.toList
    let after ← readGroups? back.toList
    if front.toList.contains '.' || 7 < before.length + after.length then none
    else some (before ++ List.replicate (8 - before.length - after.length) 0 ++ after)
  | _ => none

def readBracketed (cs : List Char) : Except UrlError Host :=
  match cs.reverse with
  | ']' :: inner =>
    match readV6Address? inner.reverse.tail with
    | some groups => .ok (.v6 groups)
    | none => .error .invalidV6
  | _ => .error .invalidV6

def Host.read (cs : List Char) : Except UrlError Host :=
  if cs.head? = some '[' then readBracketed cs
  else
    match (Text.decode? (Http.Form.percentDecode (Text.encode (String.ofList cs)))).bind
        Domain.toAscii? with
    | none => .error .invalidDomain
    | some name =>
      if name.isEmpty then .error .emptyHost
      else if !endsInNumber name then .ok (.domain name)
      else
        match readV4Address? name with
        | some n => .ok (.v4 n)
        | none => .error .invalidV4

def isForbiddenInHost (c : Char) : Bool :=
  ['\x00', '\t', '\n', '\r', ' ', '#', '/', ':', '<', '>', '?', '@', '[', '\\', ']', '^',
    '|'].contains c

def Host.readPlain (cs : List Char) : Except UrlError Host :=
  if cs.head? = some '[' then readBracketed cs
  else if cs.any isForbiddenInHost then .error .invalidHostChar
  else .ok (.domain (String.ofList cs))

end ConditionalGateway.Net
