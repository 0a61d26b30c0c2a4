/-!
# Configuration values

The data of a configuration, whatever text it was written in, and how parts of
it are read: each reader gives nothing if the value has another shape. A record
is written as a table of its fields, or as a list of them in their order.
-/

namespace ConditionalGateway.Config

inductive Value where
  | null
  | bool (b : Bool)
  | integer (n : Int)
  | real (x : Float)
  | text (s : String)
  | list (values : List Value)
  | table (entries : List (String × Value))
  deriving Inhabited, Repr

namespace Value

def text? : Value → Option String
  | .text s => some s
  | _ => none

def bool? : Value → Option Bool
  | .bool b => some b
  | _ => none

def nat? (limit : Nat) : Value → Option Nat
  | .integer n => if 0 ≤ n ∧ n < limit then some n.toNat else none
  | _ => none

def texts? : Value → Option (List String)
  | .list vs => vs.mapM text?
  | _ => none

/-- The fields of a record by name. A list has at most one value for each name. -/
def record? (names : List String) : Value → Option (List (String × Value))
  | .table entries => some entries
  | .list vs => if vs.length ≤ names.length then some (names.zip vs) else none
  | _ => none

end Value

def required {α : Type} (read : Value → Option α) (v : Option Value) : Option α := v.bind read

def defaulted {α : Type} (value : α) (read : Value → Option α) (v : Option Value) : Option α :=
  match v with
  | none => some value
  | some v => read v

/-- Reads a field that can be absent, or be null, which is the same. -/
def optional {α : Type} (read : Value → Option α) (v : Option Value) : Option (Option α) :=
  match v with
  | none => some none
  | some .null => some none
  | some v => (read v).map some

def entryLe {α : Type} (a b : String × α) : Bool := !(b.1 < a.1)

def sortEntries {α : Type} (entries : List (String × α)) : List (String × α) :=
  entries.mergeSort entryLe

def tableOf? {α : Type} (read : Value → Option α) : Value → Option (List (String × α))
  | .table entries =>
    (entries.mapM fun e => (read e.2).map fun a => (e.1, a)).map sortEntries
  | _ => none

end ConditionalGateway.Config
