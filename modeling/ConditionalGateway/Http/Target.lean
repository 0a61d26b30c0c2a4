import ConditionalGateway.Unicode.Classes
import ConditionalGateway.Text.Utf8

/-!
# Request targets

The four forms in which a request names what it wants: a path with a query, an
asterisk, an absolute address, or an authority alone. Nothing is decoded or
normalised, but for the case of the two common schemes; a fragment is dropped.
-/

namespace ConditionalGateway.Http

inductive TargetError where
  | invalidChar
  | invalidAuthority
  | invalidFormat
  | tooLong
  | empty
  | schemeTooLong
  deriving DecidableEq, Repr

def TargetError.message : TargetError → String
  | .invalidChar => "invalid uri character"
  | .invalidAuthority => "invalid authority"
  | .invalidFormat => "invalid format"
  | .tooLong => "uri too long"
  | .empty => "empty string"
  | .schemeTooLong => "scheme too long"

def maxTargetLength : Nat := 65534

structure PathQuery where
  path : String
  query : Option String
  deriving DecidableEq, Repr, Inhabited

inductive Target where
  | origin (pq : PathQuery)
  | absolute (scheme authority : String) (pq : PathQuery)
  | authority (authority : String)
  deriving DecidableEq, Repr, Inhabited

/-- The characters of a path: those that are seen, but for three, and all beyond ASCII. -/
def isPathChar (c : Char) : Bool :=
  (33 ≤ c.toNat && c.toNat ≠ 127) && c ≠ '<' && c ≠ '>' && c ≠ '`'

def isQueryChar (c : Char) : Bool :=
  (33 ≤ c.toNat && c.toNat ≠ 127) && c ≠ '<' && c ≠ '>' && c ≠ '"'

/-- A path without the slashes at its end. -/
def dropSlashes (path : String) : String :=
  String.ofList ((path.toList.reverse.dropWhile (· = '/')).reverse)

def beforeFragment (cs : List Char) : List Char := cs.takeWhile (· ≠ '#')

/-- Reads a path and a query; what follows a `#` is not looked at. -/
def PathQuery.ofChars (cs : List Char) : Except TargetError PathQuery :=
  if maxTargetLength < Text.byteLength cs then .error .tooLong
  else
    let body := beforeFragment cs
    let path := body.takeWhile (· ≠ '?')
    let query := match body.dropWhile (· ≠ '?') with
      | [] => none
      | _ :: q => some q
    if !path.all isPathChar || !(query.getD []).all isQueryChar then .error .invalidChar
    else .ok ⟨String.ofList path, query.map String.ofList⟩

def PathQuery.ofString (s : String) : Except TargetError PathQuery := PathQuery.ofChars s.toList

/-- The path as it is answered for: an empty one stands for the root. -/
def PathQuery.shownPath (pq : PathQuery) : String := if pq.path.isEmpty then "/" else pq.path

/-- The path and the query as they are sent; nothing at all stands for the root. -/
def PathQuery.text (pq : PathQuery) : String :=
  match pq.query with
  | none => if pq.path.isEmpty then "/" else pq.path
  | some q => pq.path ++ "?" ++ q

def isSchemeChar (c : Char) : Bool :=
  Unicode.isAsciiLetter c || Unicode.isAsciiDigit c || ['+', '-', '.', '~'].contains c

/-- The characters of an authority, but for `%`, which has rules of its own. -/
def isAuthorityChar (c : Char) : Bool :=
  Unicode.isAsciiLetter c || Unicode.isAsciiDigit c ||
    ['!', '$', '&', '\'', '(', ')', '*', '+', ',', '-', '.', ':', ';', '=', '@', '[', ']', '_',
      '~'].contains c

structure AuthorityScan where
  colons : Nat := 0
  opened : Bool := false
  closed : Bool := false
  percent : Bool := false
  endsWithAt : Bool := false

/-- One more character of an authority. A user part takes back the colons and percent signs it
had, and so does an address in brackets. -/
def AuthorityScan.step (s : AuthorityScan) (c : Char) : Except TargetError AuthorityScan :=
  if c = ':' then
    if 8 ≤ s.colons then .error .invalidAuthority
    else .ok { s with colons := s.colons + 1, endsWithAt := false }
  else if c = '[' then
    if s.percent || s.opened then .error .invalidAuthority
    else .ok { s with opened := true, endsWithAt := false }
  else if c = ']' then
    if !s.opened || s.closed then .error .invalidAuthority
    else .ok { s with closed := true, colons := 0, percent := false, endsWithAt := false }
  else if c = '@' then .ok { s with colons := 0, percent := false, endsWithAt := true }
  else if c = '%' then .ok { s with percent := true, endsWithAt := false }
  else if isAuthorityChar c then .ok { s with endsWithAt := false }
  else .error .invalidChar

def endsAuthority (c : Char) : Bool := c = '/' || c = '?' || c = '#'

def splitAuthority (cs : List Char) : Except TargetError (List Char × List Char) := do
  let text := cs.takeWhile fun c => !endsAuthority c
  let s ← text.foldlM AuthorityScan.step {}
  if s.opened ≠ s.closed || 1 < s.colons || s.endsWithAt || s.percent then
    .error .invalidAuthority
  else .ok (text, cs.dropWhile fun c => !endsAuthority c)

def checkAuthority (s : String) : Except TargetError Unit := do
  if s.isEmpty then .error .empty
  let (_, rest) ← splitAuthority s.toList
  if rest.isEmpty then .ok () else .error .invalidChar

def dropPrefixAnyCase? (pre : String) (cs : List Char) : Option (List Char) :=
  let p := pre.toList
  if (cs.take p.length).map Unicode.asciiLower = p then some (cs.drop p.length) else none

def maxSchemeLength : Nat := 64

def splitScheme (cs : List Char) : Except TargetError (Option (String × List Char)) :=
  match dropPrefixAnyCase? "http://" cs, dropPrefixAnyCase? "https://" cs with
  | some rest, _ => .ok (some ("http", rest))
  | none, some rest => .ok (some ("https", rest))
  | none, none =>
    let scheme := cs.takeWhile isSchemeChar
    match cs.dropWhile isSchemeChar with
    | ':' :: '/' :: '/' :: rest =>
      if cs.length ≤ 3 then .ok none
      else if maxSchemeLength < scheme.length then .error .schemeTooLong
      else .ok (some (String.ofList scheme, rest))
    | _ => .ok none

def Target.ofString (s : String) : Except TargetError Target :=
  let cs := s.toList
  if maxTargetLength < s.utf8ByteSize then .error .tooLong
  else
    match cs with
    | [] => .error .empty
    | ['*'] => .ok (.origin ⟨"*", none⟩)
    | '/' :: _ => do .ok (.origin (← PathQuery.ofChars cs))
    | [_] => do
      checkAuthority s
      .ok (.authority s)
    | _ => do
      match ← splitScheme cs with
      | none =>
        let (_, rest) ← splitAuthority cs
        if rest.isEmpty then .ok (.authority s) else .error .invalidFormat
      | some (scheme, rest) =>
        let (host, rest) ← splitAuthority rest
        if host.isEmpty then .error .invalidFormat
        else .ok (.absolute scheme (String.ofList host) (← PathQuery.ofChars rest))

def Target.path : Target → String
  | .origin pq => pq.shownPath
  | .absolute _ _ pq => pq.shownPath
  | .authority _ => ""

def Target.query? : Target → Option String
  | .origin pq => pq.query
  | .absolute _ _ pq => pq.query
  | .authority _ => none

def Target.authority? : Target → Option String
  | .origin _ => none
  | .absolute _ a _ => some a
  | .authority a => some a

def Target.scheme? : Target → Option String
  | .absolute s _ _ => some s
  | _ => none

def Target.pathQueryText : Target → String
  | .origin pq => pq.text
  | .absolute _ _ pq => pq.text
  | .authority _ => "/"

def Target.display (t : Target) : String :=
  let front := match t with
    | .origin _ => ""
    | .absolute s a _ => s ++ "://" ++ a
    | .authority a => a
  let query := match t.query? with
    | none => ""
    | some q => "?" ++ q
  front ++ t.path ++ query

/-- The target with another path and the query it has, unless that is no target. The path is read
again together with the query, so a mark in it can start a query or a fragment. -/
def Target.withPath? (t : Target) (path : String) : Option Target :=
  let text := match t.query? with
    | none => path
    | some q => path ++ "?" ++ q
  match PathQuery.ofString text, t with
  | .ok pq, .origin _ => some (.origin pq)
  | .ok pq, .absolute s a _ => some (.absolute s a pq)
  | _, _ => none

end ConditionalGateway.Http
