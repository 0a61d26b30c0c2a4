import ConditionalGateway.Unicode.Classes
import ConditionalGateway.Text.Utf8

/-!
# Headers

A header name is a token in lower case; a header value is any bytes but the
controls, and it is text if all its bytes are visible ASCII, space or tab.
A message has its headers in order, and one name can have several values.
-/

namespace ConditionalGateway.Http

structure HeaderName where
  text : String
  deriving DecidableEq, Repr, Inhabited

structure HeaderValue where
  bytes : List UInt8
  deriving DecidableEq, Repr, Inhabited

def isTokenChar (c : Char) : Bool :=
  Unicode.isAsciiLetter c || Unicode.isAsciiDigit c ||
    ['!', '#', '$', '%', '&', '\'', '*', '+', '-', '.', '^', '_', '`', '|', '~'].contains c

def isToken (s : String) : Bool := !s.isEmpty && s.toList.all isTokenChar

def maxHeaderNameLength : Nat := 65535

def HeaderName.ofString? (s : String) : Option HeaderName :=
  if isToken s && s.utf8ByteSize ≤ maxHeaderNameLength then some ⟨Unicode.lowerAscii s⟩ else none

def isValueByte (b : UInt8) : Bool := (32 ≤ b && b ≠ 127) || b == 9

def isTextByte (b : UInt8) : Bool := (32 ≤ b && b < 127) || b == 9

def HeaderValue.ofBytes? (bs : List UInt8) : Option HeaderValue :=
  if bs.all isValueByte then some ⟨bs⟩ else none

def HeaderValue.ofString? (s : String) : Option HeaderValue := HeaderValue.ofBytes? (Text.encode s)

def HeaderValue.text? (v : HeaderValue) : Option String :=
  if v.bytes.all isTextByte then some (String.ofList (v.bytes.map fun b => Char.ofNat b.toNat))
  else none

def HeaderValue.ofText (s : String) : HeaderValue := ⟨Text.encode s⟩

abbrev Headers := List (HeaderName × HeaderValue)

namespace Headers

def getAll (h : Headers) (n : HeaderName) : List HeaderValue :=
  h.filterMap fun e => if e.1 = n then some e.2 else none

def get? (h : Headers) (n : HeaderName) : Option HeaderValue := (h.getAll n).head?

def contains (h : Headers) (n : HeaderName) : Bool := (h.get? n).isSome

def remove (h : Headers) (n : HeaderName) : Headers := h.filter fun e => e.1 ≠ n

def insert (h : Headers) (n : HeaderName) (v : HeaderValue) : Headers := h.remove n ++ [(n, v)]

theorem getAll_append_single (h : Headers) (n m : HeaderName) (v : HeaderValue) :
    getAll (h ++ [(n, v)]) m = getAll h m ++ if n = m then [v] else [] := by
  by_cases e : n = m <;> simp [getAll, List.filterMap_append, e]

theorem getAll_remove (h : Headers) (n m : HeaderName) :
    (h.remove n).getAll m = if m = n then [] else h.getAll m := by
  induction h with
  | nil => simp [remove, getAll]
  | cons e h ih =>
    simp only [remove, getAll, List.filter_cons, List.filterMap_cons] at ih ⊢
    by_cases h1 : e.1 = n <;> by_cases h2 : e.1 = m <;> grind

theorem getAll_insert (h : Headers) (n m : HeaderName) (v : HeaderValue) :
    (h.insert n v).getAll m = if m = n then [v] else h.getAll m := by
  rw [insert, getAll_append_single, getAll_remove]
  by_cases e : m = n <;> grind

end Headers

/-- The names that the gateway itself reads or writes. -/
def hostName : HeaderName := ⟨"host"⟩
def contentLengthName : HeaderName := ⟨"content-length"⟩
def contentTypeName : HeaderName := ⟨"content-type"⟩
def forwardedPrefixName : HeaderName := ⟨"x-forwarded-prefix"⟩
def replacedPathName : HeaderName := ⟨"x-replaced-path"⟩
def requestIdName : HeaderName := ⟨"x-request-id"⟩

end ConditionalGateway.Http
