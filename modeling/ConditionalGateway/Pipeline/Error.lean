import ConditionalGateway.Pipeline.Descriptor
import ConditionalGateway.Predicate.Basic

/-!
# Errors of construction

Why a link, a chain or a router cannot be made. A link that is itself a router
fails with the error of that router.
-/

namespace ConditionalGateway.Pipeline

open Predicate

inductive ResolutionError where
  | missing (names : List String)
  | cycle (path : List String)
  | tooLong (limit : Nat)
  deriving DecidableEq, Repr

def ResolutionError.message : ResolutionError → String
  | .missing names => "no middleware defined for: " ++ String.intercalate ", " names
  | .cycle path => "middleware chain cycle: " ++ String.intercalate " -> " path
  | .tooLong limit => "middleware chain expands to more than " ++ toString limit ++ " links"

/-- Why a chain cannot be built, `ε` being why a link cannot be made. -/
inductive ChainError (ε : Type) where
  | unresolved (e : ResolutionError)
  | link (name : String) (e : ε)
  deriving DecidableEq, Repr

inductive RouterError (ε : Type) where
  | compile (router condition : String) (e : CompileError)
  | chain (router : String) (e : ChainError ε)
  deriving DecidableEq, Repr

inductive HeaderProblem where
  | name
  | value
  deriving DecidableEq, Repr

def HeaderProblem.display : HeaderProblem → String
  | .name => "invalid HTTP header name"
  | .value => "failed to parse header value"

inductive PathProblem where
  | noPrefix
  | notRooted
  | notUriPath
  deriving DecidableEq, Repr

def PathProblem.display : PathProblem → String
  | .noPrefix => "at least one prefix is required"
  | .notRooted => "must start with '/'"
  | .notUriPath => "not a valid URI path"

inductive RateProblem where
  | zeroAverage
  | zeroBurst
  deriving DecidableEq, Repr

def RateProblem.display : RateProblem → String
  | .zeroAverage => "average must be greater than zero"
  | .zeroBurst => "burst must be greater than zero"

inductive LinkError where
  | invalidHeader (name : String) (problem : HeaderProblem)
  | invalidPath (path : String) (problem : PathProblem)
  | invalidRate (problem : RateProblem)
  | unsupported (kind : Kind)
  | branching (e : RouterError LinkError)
  deriving Repr

def aboutLink (name text : String) : String := "middleware " ++ Text.quoted name ++ ": " ++ text

def aboutRouter (name text : String) : String := "router " ++ Text.quoted name ++ ": " ++ text

def aboutCondition (condition : String) (e : CompileError) : String :=
  "invalid condition `" ++ condition ++ "`: " ++ e.message

def ChainError.messageFrom {ε : Type} (link : ε → String) : ChainError ε → String
  | .unresolved e => e.message
  | .link name e => aboutLink name (link e)

def RouterError.messageFrom {ε : Type} (link : ε → String) : RouterError ε → String
  | .compile router condition e => aboutRouter router (aboutCondition condition e)
  | .chain router e => aboutRouter router (e.messageFrom link)

def LinkError.message : LinkError → String
  | .invalidHeader name problem =>
    "invalid header " ++ Text.quoted name ++ ": " ++ problem.display
  | .invalidPath path problem => "invalid path " ++ Text.quoted path ++ ": " ++ problem.display
  | .invalidRate problem => "invalid rate: " ++ problem.display
  | .unsupported kind => kind.display ++ " descriptors must be expanded by the chain builder"
  | .branching (.compile router condition e) =>
    "nested branching: " ++ aboutRouter router (aboutCondition condition e)
  | .branching (.chain router (.unresolved e)) =>
    "nested branching: " ++ aboutRouter router e.message
  | .branching (.chain router (.link name e)) =>
    "nested branching: " ++ aboutRouter router (aboutLink name e.message)

def ChainError.message (e : ChainError LinkError) : String := e.messageFrom LinkError.message

def RouterError.message (e : RouterError LinkError) : String := e.messageFrom LinkError.message

end ConditionalGateway.Pipeline
