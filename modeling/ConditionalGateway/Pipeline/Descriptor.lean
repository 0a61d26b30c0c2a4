import ConditionalGateway.RateLimit.Limiter

/-!
# Descriptors

What a configuration says about the links of a pipeline. A table gives each
descriptor a name; a chain names other descriptors of its table, and a branch
has a condition with a table of its own.
-/

namespace ConditionalGateway.Pipeline

inductive Kind where
  | headers
  | stripPrefix
  | addPrefix
  | replacePath
  | rateLimit
  | chain
  | branching
  deriving DecidableEq, Repr, Inhabited

def Kind.display : Kind → String
  | .headers => "headers"
  | .stripPrefix => "strip_prefix"
  | .addPrefix => "add_prefix"
  | .replacePath => "replace_path"
  | .rateLimit => "rate_limit"
  | .chain => "chain"
  | .branching => "branching"

def Kind.all : List Kind :=
  [.headers, .stripPrefix, .addPrefix, .replacePath, .rateLimit, .chain, .branching]

def Kind.ofString? (s : String) : Option Kind := Kind.all.find? fun k => k.display == s

/-- Header names with the values they get; an empty value removes the header. -/
abbrev HeaderEdits := List (String × String)

/-- What a condition guards: descriptors by name, and the order in which they are linked. -/
structure BranchSpec (δ : Type) where
  condition : String
  chain : Option (List String)
  middlewares : List (String × δ)
  deriving DecidableEq, Repr, Inhabited

/-- The names of the links, in order; all of the table in its own order if none is given. -/
def BranchSpec.order {δ : Type} (s : BranchSpec δ) : List String :=
  match s.chain with
  | some names => names
  | none => s.middlewares.map (·.1)

inductive Descriptor where
  | headers (request response : HeaderEdits)
  | stripPrefix (prefixes : List String)
  | addPrefix (pre : String)
  | replacePath (path : String)
  | rateLimit (settings : RateLimit.Settings)
  | chain (members : List String)
  | branching (spec : BranchSpec Descriptor)
  deriving Inhabited, Repr

def Descriptor.kind : Descriptor → Kind
  | .headers _ _ => .headers
  | .stripPrefix _ => .stripPrefix
  | .addPrefix _ => .addPrefix
  | .replacePath _ => .replacePath
  | .rateLimit _ => .rateLimit
  | .chain _ => .chain
  | .branching _ => .branching

def Descriptor.members? : Descriptor → Option (List String)
  | .chain members => some members
  | _ => none

abbrev Table := List (String × Descriptor)

structure Branch where
  name : String
  spec : BranchSpec Descriptor
  deriving Inhabited, Repr

end ConditionalGateway.Pipeline
