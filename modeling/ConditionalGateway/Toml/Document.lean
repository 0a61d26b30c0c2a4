import ConditionalGateway.Config.Value

/-!
# Documents

The names of a TOML document and what they stand for while it is read. A table
is implicit as long as only longer names mention it; one that dotted keys made
can take more dotted keys but no header, and one that a header made can take no
dotted keys from outside. Nothing can be said twice.
-/

namespace ConditionalGateway.Toml

open Config

inductive Node where
  | value (v : Value)
  | table (implicit dotted : Bool) (entries : List (String × Node))
  /-- Tables that headers in double brackets started, in order. -/
  | tables (items : List (List (String × Node)))
  deriving Inhabited

abbrev Entries := List (String × Node)

/-- Changes what a name stands for; the change sees nothing if the name is new. -/
def alterEntry (name : String) (change : Option Node → Option Node) : Entries → Option Entries
  | [] => (change none).map fun n => [(name, n)]
  | (k, n) :: rest =>
    if k = name then (change (some n)).map fun n => (k, n) :: rest
    else (alterEntry name change rest).map fun rest => (k, n) :: rest

/-- Changes the table at the end of a path. Tables on the way are made if they are missing; of
tables in double brackets the last one is taken. `change` is told whether dotted keys made the
table. -/
def descend (dotted : Bool) (change : Bool → Entries → Option Entries) :
    List String → Bool → Entries → Option Entries
  | [], isDotted, es => change isDotted es
  | key :: path, _, es =>
    let step : Option Node → Option Node
      | none => (descend dotted change path dotted []).map (.table true dotted)
      | some (.value _) => none
      | some (.tables items) =>
        match items.getLast? with
        | none => none
        | some last =>
          (descend dotted change path false last).map fun last =>
            .tables (items.dropLast ++ [last])
      | some (.table implicit isDotted inner) =>
        if dotted && !implicit then none
        else (descend dotted change path isDotted inner).map (.table implicit isDotted)
    alterEntry key step es

def putNew (name : String) (v : Value) (es : Entries) : Option Entries :=
  alterEntry name (fun
    | none => some (.value v)
    | some _ => none) es

def putDotted (path : List String) (name : String) (v : Value) (es : Entries) : Option Entries :=
  descend true (fun isDotted es => if isDotted = path.isEmpty then none else putNew name v es)
    path false es

def openTable (path : List String) (name : String) (es : Entries) : Option Entries :=
  descend false (fun _ => alterEntry name fun
    | none => some (.table false false [])
    | some (.table true false inner) => some (.table false false inner)
    | some _ => none) path false es

def openItem (path : List String) (name : String) (es : Entries) : Option Entries :=
  descend false (fun _ => alterEntry name fun
    | none => some (.tables [[]])
    | some (.tables items) => some (.tables (items ++ [[]]))
    | some _ => none) path false es

mutual

def Node.toValue : Node → Value
  | .value v => v
  | .table _ _ entries => .table (entryValues entries)
  | .tables items => .list (itemValues items)

def entryValues : List (String × Node) → List (String × Value)
  | [] => []
  | (k, n) :: rest => (k, n.toValue) :: entryValues rest

def itemValues : List (List (String × Node)) → List Value
  | [] => []
  | es :: rest => .table (entryValues es) :: itemValues rest

end

end ConditionalGateway.Toml
