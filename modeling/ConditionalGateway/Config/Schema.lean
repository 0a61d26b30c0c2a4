import ConditionalGateway.Config.Value
import ConditionalGateway.Pipeline.Descriptor

/-!
# The schema of a configuration

What a configuration says, how it is read from a value and how it is written as
one. Sections and most of their fields have defaults; fields that nobody knows
are passed over. `Config.ofValue?` and `Config.toValue` are each other's
counterpart.
-/

namespace ConditionalGateway

open Pipeline RateLimit

inductive LogFormat where
  | pretty
  | json
  deriving DecidableEq, Repr, Inhabited

def LogFormat.display : LogFormat → String
  | .pretty => "pretty"
  | .json => "json"

def LogFormat.ofString? : String → Option LogFormat
  | "pretty" => some .pretty
  | "json" => some .json
  | _ => none

structure Observability where
  logLevel : String := "info"
  logFormat : LogFormat := .pretty
  metricsEnabled : Bool := false
  metricsAddress : String := "0.0.0.0:9090"
  deriving Inhabited, Repr

structure Config where
  bindAddress : String := "0.0.0.0:8080"
  /-- Where requests go in the end. -/
  originUrl : String := "http://127.0.0.1:3000"
  /-- The longest that a request may take, in seconds. -/
  requestSeconds : Nat := 30
  observability : Observability := {}
  /-- The routers, outermost first. -/
  branches : List Branch := []
  deriving Inhabited, Repr

namespace Config

def limit64 : Nat := 18446744073709551616

def limit32 : Nat := 4294967296

/-- A log format by its name, or by a table with null under its name. -/
def readLogFormat : Value → Option LogFormat
  | .text s => LogFormat.ofString? s
  | .table [(s, .null)] => LogFormat.ofString? s
  | _ => none

def readHeaderEdits : Value → Option HeaderEdits := tableOf? Value.text?

def readHeaders (v : Value) : Option Descriptor := do
  let r ← v.record? ["custom_request_headers", "custom_response_headers"]
  let request ← defaulted [] readHeaderEdits (r.lookup "custom_request_headers")
  let response ← defaulted [] readHeaderEdits (r.lookup "custom_response_headers")
  some (.headers request response)

def readStripPrefix (v : Value) : Option Descriptor := do
  let r ← v.record? ["prefixes"]
  some (.stripPrefix (← required Value.texts? (r.lookup "prefixes")))

def readAddPrefix (v : Value) : Option Descriptor := do
  let r ← v.record? ["prefix"]
  some (.addPrefix (← required Value.text? (r.lookup "prefix")))

def readReplacePath (v : Value) : Option Descriptor := do
  let r ← v.record? ["path"]
  some (.replacePath (← required Value.text? (r.lookup "path")))

def readRateLimit (v : Value) : Option Descriptor := do
  let r ← v.record? ["average", "burst", "source_header"]
  let average ← required (Value.nat? limit32) (r.lookup "average")
  let burst ← optional (Value.nat? limit32) (r.lookup "burst")
  let sourceHeader ← optional Value.text? (r.lookup "source_header")
  some (.rateLimit ⟨average, burst, sourceHeader⟩)

def readChain (v : Value) : Option Descriptor := do
  let r ← v.record? ["middlewares"]
  some (.chain (← required Value.texts? (r.lookup "middlewares")))

mutual

/-- Reads a descriptor: a table with the name of a kind and nothing else. -/
def readDescriptor : Value → Option Descriptor
  | .table [(kind, v)] =>
    match Kind.ofString? kind with
    | some .headers => readHeaders v
    | some .stripPrefix => readStripPrefix v
    | some .addPrefix => readAddPrefix v
    | some .replacePath => readReplacePath v
    | some .rateLimit => readRateLimit v
    | some .chain => readChain v
    | some .branching => (readSpec v).map .branching
    | none => none
  | _ => none

def readSpec : Value → Option (BranchSpec Descriptor)
  | .table entries => do
    let condition ← required Value.text? (entries.lookup "condition")
    let chain ← optional Value.texts? (entries.lookup "chain")
    let middlewares ← readTableIn entries
    some ⟨condition, chain, middlewares⟩
  | .list [condition] => do
    some ⟨← condition.text?, none, []⟩
  | .list [condition, chain] => do
    some ⟨← condition.text?, ← optional Value.texts? (some chain), []⟩
  | .list [condition, chain, middlewares] => do
    some ⟨← condition.text?, ← optional Value.texts? (some chain), ← readTable middlewares⟩
  | _ => none

/-- Reads the descriptors among the fields of a branch. -/
def readTableIn : List (String × Value) → Option Table
  | [] => some []
  | (name, v) :: rest => if name = "middlewares" then readTable v else readTableIn rest

def readTable : Value → Option Table
  | .table entries => (readDescriptors entries).map sortEntries
  | _ => none

def readDescriptors : List (String × Value) → Option Table
  | [] => some []
  | (name, v) :: rest => do
    let d ← readDescriptor v
    let more ← readDescriptors rest
    some ((name, d) :: more)

end

/-- Reads a router: its name stands among the fields of what it guards. -/
def readBranch : Value → Option Branch
  | .table entries => do
    let name ← required Value.text? (entries.lookup "name")
    some ⟨name, ← readSpec (.table entries)⟩
  | _ => none

def readBranches : Value → Option (List Branch)
  | .list vs => vs.mapM readBranch
  | _ => none

def readSection {α : Type} (name : String) (value : α) (read : Value → Option α) (v : Value) :
    Option α := do
  let r ← v.record? [name]
  defaulted value read (r.lookup name)

def readObservability (v : Value) : Option Observability := do
  let r ← v.record? ["log_level", "log_format", "metrics_enabled", "metrics_address"]
  let d : Observability := {}
  let logLevel ← defaulted d.logLevel Value.text? (r.lookup "log_level")
  let logFormat ← defaulted d.logFormat readLogFormat (r.lookup "log_format")
  let metricsEnabled ← defaulted d.metricsEnabled Value.bool? (r.lookup "metrics_enabled")
  let metricsAddress ← defaulted d.metricsAddress Value.text? (r.lookup "metrics_address")
  some ⟨logLevel, logFormat, metricsEnabled, metricsAddress⟩

def ofValue? (v : Value) : Option Config := do
  let r ← v.record? ["listener", "upstream", "timeouts", "observability", "branches"]
  let d : Config := {}
  let bindAddress ← defaulted d.bindAddress
    (readSection "bind_address" d.bindAddress Value.text?) (r.lookup "listener")
  let originUrl ← defaulted d.originUrl
    (readSection "url" d.originUrl Value.text?) (r.lookup "upstream")
  let requestSeconds ← defaulted d.requestSeconds
    (readSection "request_secs" d.requestSeconds (Value.nat? limit64)) (r.lookup "timeouts")
  let observability ← defaulted d.observability readObservability (r.lookup "observability")
  let branches ← defaulted d.branches readBranches (r.lookup "branches")
  some ⟨bindAddress, originUrl, requestSeconds, observability, branches⟩

def headerEditsValue (edits : HeaderEdits) : Value := .table (edits.map fun e => (e.1, .text e.2))

def textsValue (texts : List String) : Value := .list (texts.map .text)

def optionValue {α : Type} (write : α → Value) : Option α → Value
  | none => .null
  | some a => write a

/-- The order of a branch, which is left out if none is given. -/
def chainEntry : Option (List String) → List (String × Value)
  | none => []
  | some names => [("chain", textsValue names)]

mutual

def payloadValue : Descriptor → Value
  | .headers request response =>
    .table [("custom_request_headers", headerEditsValue request),
      ("custom_response_headers", headerEditsValue response)]
  | .stripPrefix prefixes => .table [("prefixes", textsValue prefixes)]
  | .addPrefix pre => .table [("prefix", .text pre)]
  | .replacePath path => .table [("path", .text path)]
  | .rateLimit settings =>
    .table [("average", .integer settings.average),
      ("burst", optionValue (fun n : Nat => .integer n) settings.burst),
      ("source_header", optionValue .text settings.sourceHeader)]
  | .chain members => .table [("middlewares", textsValue members)]
  | .branching spec => .table (specEntries spec)

def specEntries : BranchSpec Descriptor → List (String × Value)
  | ⟨condition, chain, middlewares⟩ =>
    [("condition", .text condition)] ++ chainEntry chain ++
      [("middlewares", .table (tableEntries middlewares))]

def tableEntries : Table → List (String × Value)
  | [] => []
  | (name, d) :: rest => (name, .table [(d.kind.display, payloadValue d)]) :: tableEntries rest

end

def branchValue (b : Branch) : Value := .table (("name", .text b.name) :: specEntries b.spec)

def observabilityValue (o : Observability) : Value :=
  .table [("log_level", .text o.logLevel), ("log_format", .text o.logFormat.display),
    ("metrics_enabled", .bool o.metricsEnabled), ("metrics_address", .text o.metricsAddress)]

def toValue (c : Config) : Value :=
  .table [("listener", .table [("bind_address", .text c.bindAddress)]),
    ("upstream", .table [("url", .text c.originUrl)]),
    ("timeouts", .table [("request_secs", .integer c.requestSeconds)]),
    ("observability", observabilityValue c.observability),
    ("branches", .list (c.branches.map branchValue))]

end Config
end ConditionalGateway
