import ConditionalGateway.Config.Schema
import ConditionalGateway.Gateway.Origin
import ConditionalGateway.Predicate.Basic

/-!
# Problems of a configuration

Everything that is wrong with a configuration beyond its shape: addresses, the
timeout, the names of routers, their conditions, and names that stand for
nothing. Nested branches are looked at whether anything names them or not.
-/

namespace ConditionalGateway.Config

open Net Pipeline Predicate

inductive Problem where
  | bindAddress (text : String)
  | origin (url : String) (e : OriginError)
  | zeroTimeout
  | metricsAddress (text : String)
  | emptyBranchName (index : Nat)
  | duplicateBranchName (name : String)
  | condition (branch : String) (e : CompileError)
  | unknownMiddleware (branch middleware : String)
  deriving DecidableEq, Repr

def Problem.message : Problem → String
  | .bindAddress text => "listener.bind_address " ++ Text.quoted text ++ " is not a socket address"
  | .origin url e => "upstream.url " ++ Text.quoted url ++ ": " ++ e.reason
  | .zeroTimeout => "timeouts.request_secs must be greater than zero"
  | .metricsAddress text =>
    "observability.metrics_address " ++ Text.quoted text ++ " is not a socket address"
  | .emptyBranchName i => "branches[" ++ toString i ++ "]: name must not be empty"
  | .duplicateBranchName name => "duplicate branch name " ++ Text.quoted name
  | .condition branch e =>
    "branch " ++ Text.quoted branch ++ ": invalid condition: " ++ e.message
  | .unknownMiddleware branch middleware =>
    "branch " ++ Text.quoted branch ++ ": no middleware defined for " ++ Text.quoted middleware

def problemIf (holds : Bool) (p : Problem) : List Problem := if holds then [p] else []

def isSocketAddress (text : String) : Bool := (SocketAddress.ofString? text).isSome

def distinct (seen : List String) : List String → List String
  | [] => []
  | name :: rest => if name ∈ seen then distinct seen rest else name :: distinct (name :: seen) rest

/-- The names that a branch mentions: those in its order, then the members of its chains. -/
def mentioned (spec : BranchSpec Descriptor) : List String :=
  spec.order ++ spec.middlewares.flatMap fun e => (e.2.members?).getD []

def unknownNames (spec : BranchSpec Descriptor) : List String :=
  distinct [] ((mentioned spec).filter fun name => (spec.middlewares.lookup name).isNone)

def conditionProblems (path condition : String) : List Problem :=
  match Predicate.compile condition with
  | .ok _ => []
  | .error e => [.condition path e]

def ownProblems (path : String) (spec : BranchSpec Descriptor) : List Problem :=
  conditionProblems path spec.condition ++ (unknownNames spec).map (.unknownMiddleware path)

mutual

def descriptorProblems (path : String) : Descriptor → List Problem
  | .branching ⟨condition, chain, middlewares⟩ =>
    ownProblems path ⟨condition, chain, middlewares⟩ ++ tableProblems path middlewares
  | _ => []

/-- What is wrong with the branches in a table; each is known by the names on the way to it. -/
def tableProblems (path : String) : Table → List Problem
  | [] => []
  | (name, d) :: rest => descriptorProblems (path ++ "/" ++ name) d ++ tableProblems path rest

end

def specProblems (path : String) (spec : BranchSpec Descriptor) : List Problem :=
  ownProblems path spec ++ tableProblems path spec.middlewares

def isBlankName (name : String) : Bool := (Unicode.trim name.toList).isEmpty

def nameProblems (index : Nat) (before : List String) (name : String) : List Problem :=
  if isBlankName name then [.emptyBranchName index]
  else problemIf (before.contains name) (.duplicateBranchName name)

def branchProblems (index : Nat) (before : List String) : List Branch → List Problem
  | [] => []
  | b :: rest =>
    nameProblems index before b.name ++ specProblems b.name b.spec ++
      branchProblems (index + 1) (b.name :: before) rest

def originProblems (url : String) : List Problem :=
  match checkOrigin url with
  | .ok _ => []
  | .error e => [.origin url e]

def problems (c : Config) : List Problem :=
  problemIf (!isSocketAddress c.bindAddress) (.bindAddress c.bindAddress) ++
    originProblems c.originUrl ++
    problemIf (c.requestSeconds == 0) .zeroTimeout ++
    problemIf (c.observability.metricsEnabled && !isSocketAddress c.observability.metricsAddress)
      (.metricsAddress c.observability.metricsAddress) ++
    branchProblems 0 [] c.branches

end ConditionalGateway.Config
