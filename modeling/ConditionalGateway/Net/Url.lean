import ConditionalGateway.Net.Host

/-!
# Addresses of resources

How an address is taken apart: blanks around it and line breaks in it do not
count, a backslash is a slash where the scheme is one of the web, and any
number of slashes may stand in front of such a host. Query and fragment are
passed over.
-/

namespace ConditionalGateway.Net

/-- An address of a resource. The path is kept where the scheme is one of the web. -/
structure Url where
  scheme : String
  host : Option Host
  port : Option Nat
  path : String
  deriving DecidableEq, Repr, Inhabited

inductive SchemeClass where
  | web (defaultPort : Nat)
  | file
  | other
  deriving DecidableEq, Repr

def SchemeClass.ofString : String → SchemeClass
  | "http" => .web 80
  | "https" => .web 443
  | "ws" => .web 80
  | "wss" => .web 443
  | "ftp" => .web 21
  | "file" => .file
  | _ => .other

def SchemeClass.isSpecial : SchemeClass → Bool
  | .other => false
  | _ => true

/-- Drops controls and spaces at both ends, and tabs and line breaks anywhere. -/
def cleanUrl (s : String) : List Char :=
  let trimmed := ((s.toList.dropWhile (·.toNat ≤ 32)).reverse.dropWhile (·.toNat ≤ 32)).reverse
  trimmed.filter fun c => c ≠ '\t' ∧ c ≠ '\n' ∧ c ≠ '\r'

def isUrlSchemeChar (c : Char) : Bool :=
  Unicode.isAsciiLetter c || Unicode.isAsciiDigit c || c == '+' || c == '-' || c == '.'

def splitUrlScheme? (cs : List Char) : Option (String × List Char) :=
  match cs.dropWhile isUrlSchemeChar with
  | ':' :: rest =>
    if (cs.head?.map Unicode.isAsciiLetter).getD false then
      some (String.ofList ((cs.takeWhile isUrlSchemeChar).map Unicode.asciiLower), rest)
    else none
  | _ => none

def endsUrlAuthority (special : Bool) (c : Char) : Bool :=
  c == '/' || c == '?' || c == '#' || (special && c == '\\')

/-- Splits off a user part, which ends with the last at sign of the authority, and tells whether
it says anything. -/
def splitUser (special : Bool) (cs : List Char) : Except UrlError (Bool × List Char) :=
  let authority := cs.takeWhile fun c => !endsUrlAuthority special c
  let rest := cs.dropWhile fun c => !endsUrlAuthority special c
  if !authority.contains '@' then .ok (false, cs)
  else
    let host := (authority.reverse.takeWhile (· ≠ '@')).reverse
    let user := ((authority.reverse.dropWhile (· ≠ '@')).drop 1).reverse
    if user.isEmpty && host.isEmpty && !rest.isEmpty then .error .emptyHost
    else .ok (!user.isEmpty && user ≠ [':'], host ++ rest)

/-- Splits off a host: a colon ends it unless it stands in brackets. -/
def splitHost (special : Bool) (bracketed : Bool) : List Char → List Char × List Char
  | [] => ([], [])
  | c :: cs =>
    if endsUrlAuthority special c || (c == ':' && !bracketed) then ([], c :: cs)
    else
      let inside := if c = '[' then true else if c = ']' then false else bracketed
      let (host, rest) := splitHost special inside cs
      (c :: host, rest)

def readUrlPort (cs : List Char) : Except UrlError (Option Nat × List Char) :=
  let digits := cs.takeWhile Unicode.isAsciiDigit
  let rest := cs.dropWhile Unicode.isAsciiDigit
  let n := Decimal.natOfDigits digits
  if 65535 < n then .error .invalidPort
  else if !(rest.head?.map (endsUrlAuthority true)).getD true then .error .invalidPort
  else .ok (if digits.isEmpty then none else some n, rest)

-- Paths

def isEncodedInPath (c : Char) : Bool :=
  c.toNat < 32 || 127 ≤ c.toNat || [' ', '"', '<', '>', '`', '#', '?', '\x7b', '\x7d'].contains c

def percentByte (b : UInt8) : List Char :=
  let digit := fun n : Nat => if n < 10 then Char.ofNat (48 + n) else Char.ofNat (55 + n)
  ['%', digit (b.toNat / 16), digit (b.toNat % 16)]

def encodeForPath (c : Char) : List Char :=
  if isEncodedInPath c then (Text.encodeChar c).flatMap percentByte else [c]

inductive SegmentKind where
  | stay
  | up
  | plain
  deriving DecidableEq, Repr

/-- A dot, or two, may be written by number. -/
def segmentKind (segment : List Char) : SegmentKind :=
  match String.ofList (segment.map Unicode.asciiLower) with
  | "." => .stay
  | "%2e" => .stay
  | ".." => .up
  | ".%2e" => .up
  | "%2e." => .up
  | "%2e%2e" => .up
  | _ => .plain

/-- Whether a segment names a drive, so that nothing goes above it. -/
def isDrive (segment : List Char) : Bool :=
  match segment with
  | [c, d] => Unicode.isAsciiLetter c && (d == ':' || d == '|')
  | _ => false

/-- Drops the last segment, unless it names a drive. The last one comes first. -/
def goUp : List (List Char) → List (List Char)
  | [] => []
  | s :: rest => if isDrive s then s :: rest else rest

/-- The segments of a path that are left when dots are followed, the last one first. A dot at the
end leaves an empty segment. -/
def followDots : List (List Char) → List (List Char) → List (List Char)
  | done, [] => done
  | done, s :: rest =>
    let atEnd := fun segments => if rest.isEmpty then [] :: segments else segments
    match segmentKind s with
    | .stay => followDots (atEnd done) rest
    | .up => followDots (atEnd (goUp done)) rest
    | .plain => followDots (s :: done) rest

def splitSlashes : List Char → List (List Char)
  | [] => [[]]
  | c :: cs =>
    if c = '/' ∨ c = '\\' then [] :: splitSlashes cs
    else
      match splitSlashes cs with
      | s :: rest => (c :: s) :: rest
      | [] => [[c]]

def webPath (cs : List Char) : String :=
  let text := cs.takeWhile fun c => c ≠ '?' ∧ c ≠ '#'
  let text := match text with
    | '/' :: rest => rest
    | '\\' :: rest => rest
    | text => text
  let segments := (splitSlashes text).map fun s => s.flatMap encodeForPath
  String.ofList ((followDots [] segments).reverse.flatMap ('/' :: ·))

def readAuthorityPart (scheme : String) (sc : SchemeClass) (cs : List Char) :
    Except UrlError Url := do
  let special := sc.isSpecial
  let (hasUser, rest) ← splitUser special cs
  let (hostText, rest) := splitHost special false rest
  if hostText.isEmpty && (special || rest.head? == some ':' || hasUser) then .error .emptyHost
  let host ←
    if hostText.isEmpty then .ok none
    else if special then (Host.read hostText).map some
    else (Host.readPlain hostText).map some
  let (port, rest) ←
    match rest with
    | ':' :: rest => readUrlPort rest
    | rest => .ok (none, rest)
  let port := if sc = .web (port.getD 0) then none else port
  .ok ⟨scheme, host, port, if special then webPath rest else ""⟩

/-- Reads an address of a file. Only its host can be wrong. -/
def readFileUrl (cs : List Char) : Except UrlError Url := do
  let isSlash := fun c : Char => c == '/' || c == '\\'
  let file : Option Host → Url := fun host => ⟨"file", host, none, ""⟩
  match cs with
  | a :: b :: rest =>
    if isSlash a && isSlash b then
      let host := rest.takeWhile fun c => !endsUrlAuthority true c
      if host.isEmpty || isDrive host then .ok (file none)
      else return file (some (← Host.read host))
    else .ok (file none)
  | _ => .ok (file none)

def Url.ofString (s : String) : Except UrlError Url :=
  match splitUrlScheme? (cleanUrl s) with
  | none => .error .relative
  | some (scheme, rest) =>
    match SchemeClass.ofString scheme with
    | .file => readFileUrl rest
    | .web port =>
      readAuthorityPart scheme (.web port) (rest.dropWhile fun c => c == '/' || c == '\\')
    | .other =>
      match rest with
      | '/' :: '/' :: rest => readAuthorityPart scheme .other rest
      | _ => .ok ⟨scheme, none, none, ""⟩

end ConditionalGateway.Net
