import ConditionalGateway.Http.Message
import ConditionalGateway.Http.Form
import ConditionalGateway.Text.Quoted
import ConditionalGateway.Decimal.Shortest

/-!
# Request fields

The fields of a request that a predicate can ask for: how a selector names one
(`Field.resolve`), how it is shown (`Field.display`), what kind of value it has
(`Field.kind`), and what it reads from a request (`Field.read`). Headers and
query parameters without an index are lists, and an absent list is empty; an
absent value is an error.
-/

namespace ConditionalGateway.Predicate

open Http

inductive Segment where
  | name (text : String)
  | key (text : String)
  | index (n : Nat)
  deriving DecidableEq, Repr, Inhabited

inductive Field where
  | method
  | path
  | rawQuery
  | host
  | proto
  | contentLength
  | header (name : HeaderName) (index : Option Nat)
  | query (key : String) (index : Option Nat)
  deriving DecidableEq, Repr, Inhabited

inductive FieldKind where
  | text
  | number
  | list
  deriving DecidableEq, Repr, Inhabited

inductive FieldValue where
  | text (s : String)
  | number (x : Float)
  | list (values : List String)
  deriving Inhabited

inductive SelectorError where
  | unknownField (selector : String)
  | invalidHeaderName (name : String)
  deriving DecidableEq, Repr

inductive Expected where
  | number
  | boolean
  | singleValue
  | textOrList
  | text
  deriving DecidableEq, Repr

def Expected.display : Expected → String
  | .number => "number"
  | .boolean => "boolean"
  | .singleValue => "single value"
  | .textOrList => "text or list"
  | .text => "text"

inductive EvaluationError where
  | missingField (field : Field)
  | indexOutOfRange (field : Field) (index length : Nat)
  | typeMismatch (field : Field) (expected : Expected) (found : String)
  | invalidEncoding (field : Field)
  deriving DecidableEq, Repr

def indexText (n : Nat) : String := "[" ++ toString n ++ "]"

def keyText (key : String) : String := "[" ++ Text.quoted key ++ "]"

def Segment.display : Segment → String
  | .name text => text
  | .key text => keyText text
  | .index n => indexText n

def Segment.displayTail : Segment → String
  | .name text => "." ++ text
  | s => s.display

def renderSelector : List Segment → String
  | [] => ""
  | s :: rest => s.display ++ String.join (rest.map Segment.displayTail)

/-- The key that a segment names: `["X"]` and `.X` are one key. -/
def Segment.mapKey? : Segment → Option String
  | .name text => some text
  | .key text => some text
  | .index _ => none

def indexTail? : List Segment → Option (Option Nat)
  | [] => some none
  | [.index n] => some (some n)
  | _ => none

namespace Field

def ofName? : String → Option Field
  | "Method" => some .method
  | "Path" => some .path
  | "RawQuery" => some .rawQuery
  | "Host" => some .host
  | "Proto" => some .proto
  | "ContentLength" => some .contentLength
  | _ => none

def ofUrlName? : String → Option Field
  | "Path" => some .path
  | "RawQuery" => some .rawQuery
  | _ => none

/-- The field that a selector names. The name of a header is checked before what follows it. -/
def resolve (segments : List Segment) : Except SelectorError Field :=
  let unknown : Except SelectorError Field := .error (.unknownField (renderSelector segments))
  match segments with
  | [.name "URL", .name field] =>
    match ofUrlName? field with
    | some f => .ok f
    | none => unknown
  | .name "Header" :: key :: tail =>
    match key.mapKey? with
    | none => unknown
    | some key =>
      match HeaderName.ofString? key with
      | none => .error (.invalidHeaderName key)
      | some name =>
        match indexTail? tail with
        | some index => .ok (.header name index)
        | none => unknown
  | .name "Query" :: key :: tail =>
    match key.mapKey?, indexTail? tail with
    | some key, some index => .ok (.query key index)
    | _, _ => unknown
  | [.name root] =>
    match ofName? root with
    | some f => .ok f
    | none => unknown
  | _ => unknown

def indexDisplay : Option Nat → String
  | none => ""
  | some n => indexText n

def display : Field → String
  | .method => "Method"
  | .path => "Path"
  | .rawQuery => "RawQuery"
  | .host => "Host"
  | .proto => "Proto"
  | .contentLength => "ContentLength"
  | .header name index => "Header" ++ keyText name.text ++ indexDisplay index
  | .query key index => "Query" ++ keyText key ++ indexDisplay index

def kind : Field → FieldKind
  | .contentLength => .number
  | .header _ none => .list
  | .query _ none => .list
  | _ => .text

def maxContentLength : Nat := 18446744073709551615

def select (f : Field) (values : List String) : Option Nat → Except EvaluationError FieldValue
  | none => .ok (.list values)
  | some i =>
    if values.isEmpty then .error (.missingField f)
    else
      match values[i]? with
      | some v => .ok (.text v)
      | none => .error (.indexOutOfRange f i values.length)

def textOf (f : Field) (v : HeaderValue) : Except EvaluationError String :=
  match v.text? with
  | some s => .ok s
  | none => .error (.invalidEncoding f)

/-- Reads the field from a request; the body is not looked at. -/
def read (f : Field) (r : Request) : Except EvaluationError FieldValue :=
  match f with
  | .method => .ok (.text r.method)
  | .path => .ok (.text r.target.path)
  | .rawQuery => .ok (.text (r.target.query?.getD ""))
  | .proto => .ok (.text r.version.display)
  | .host =>
    match r.target.authority? with
    | some a => .ok (.text a)
    | none =>
      match r.headers.get? hostName with
      | some v => (f.textOf v).map .text
      | none => .error (.missingField f)
  | .contentLength => do
    match r.headers.get? contentLengthName with
    | none => .error (.missingField f)
    | some v =>
      let text ← f.textOf v
      match Decimal.readNat? maxContentLength (Unicode.trim text.toList) with
      | some n => .ok (.number (Decimal.ofRatio false n 1))
      | none => .error (.typeMismatch f .number text)
  | .header name index => do
    f.select (← (r.headers.getAll name).mapM f.textOf) index
  | .query key index => f.select (Form.valuesOf (r.target.query?.getD "") key) index

end Field

def EvaluationError.message : EvaluationError → String
  | .missingField f => "field " ++ f.display ++ " is missing"
  | .indexOutOfRange f i n =>
    "index " ++ toString i ++ " out of range for " ++ f.display ++ " (" ++ toString n ++ " values)"
  | .typeMismatch f expected found =>
    f.display ++ " value " ++ Text.quoted found ++ " is not a " ++ expected.display
  | .invalidEncoding f => f.display ++ " has a value that is not valid text"

end ConditionalGateway.Predicate
