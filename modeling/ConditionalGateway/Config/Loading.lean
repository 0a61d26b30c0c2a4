import ConditionalGateway.Config.Validation
import ConditionalGateway.Toml.Reader

/-!
# Loading a configuration

From the bytes of a file to a configuration that has no problems. A file is laxer
than the schema in two ways, which `relax` takes back: a section given as a list
may have more values than fields, and a log format given as a table has an empty
table or list for null, which TOML cannot write.
-/

namespace ConditionalGateway.Config

def mapField (name : String) (index : Nat) (f : Value → Value) : Value → Value
  | .table entries => .table (entries.map fun e => if e.1 = name then (e.1, f e.2) else e)
  | .list vs => .list (vs.modify index f)
  | v => v

def truncate (fields : Nat) : Value → Value
  | .list vs => .list (vs.take fields)
  | v => v

def blankToNull : Value → Value
  | .table [(name, .list [])] => .table [(name, .null)]
  | .table [(name, .table [])] => .table [(name, .null)]
  | v => v

/-- The value of a file as the schema has it. -/
def relax (v : Value) : Value :=
  let trim := fun (name : String) (index fields : Nat) (v : Value) =>
    mapField name index (truncate fields) v
  let trimmed := trim "observability" 3 4 <| trim "timeouts" 2 1 <|
    trim "upstream" 1 1 <| trim "listener" 0 1 v
  mapField "observability" 3 (mapField "log_format" 1 blankToNull) trimmed

inductive LoadError where
  | notFound
  | notText
  | malformed
  | invalid (problems : List Problem)
  deriving DecidableEq, Repr

def LoadError.message : LoadError → String
  | .notFound => "no such file"
  | .notText => "stream did not contain valid UTF-8"
  | .malformed => "Parse error"
  | .invalid problems =>
    "Validation failed: " ++ String.intercalate ", " (problems.map Problem.message)

def ofToml (text : String) : Except LoadError Config :=
  match (Toml.ofString? text).bind fun v => Config.ofValue? (relax v) with
  | none => .error .malformed
  | some c => if c.problems.isEmpty then .ok c else .error (.invalid c.problems)

def ofFile (bytes : Option (List UInt8)) : Except LoadError Config :=
  match bytes with
  | none => .error .notFound
  | some bytes =>
    match Text.decode? bytes with
    | none => .error .notText
    | some text => ofToml text

end ConditionalGateway.Config
