import ConditionalGateway.Predicate.Expr

/-!
# Counters

What the gateway counts. A counter shows up when it is registered, or else on
first use, and starts at zero.
-/

namespace ConditionalGateway.Pipeline

inductive Outcome where
  | branch
  | default
  | error
  deriving DecidableEq, Repr, Inhabited

def Outcome.display : Outcome → String
  | .branch => "branch"
  | .default => "default"
  | .error => "error"

def Outcome.all : List Outcome := [.branch, .default, .error]

/-- What a counter counts. Routers of one name share their counters. -/
inductive Counter where
  | decision (router : String) (outcome : Outcome)
  | rateLimited (middleware : String)
  | request (method : String) (status : Nat)
  deriving DecidableEq, Repr, Inhabited

def Counter.name : Counter → String
  | .decision _ _ => "branching_decisions_total"
  | .rateLimited _ => "rate_limited_total"
  | .request _ _ => "gateway_requests_total"

def Counter.labels : Counter → List (String × String)
  | .decision router outcome => [("outcome", outcome.display), ("router", router)]
  | .rateLimited middleware => [("middleware", middleware)]
  | .request method status => [("method", method), ("status", toString status)]

abbrev Counters := List (Counter × Nat)

namespace Counters

def count (cs : Counters) (c : Counter) : Nat := (cs.lookup c).getD 0

def register (cs : Counters) (c : Counter) : Counters :=
  if (cs.lookup c).isSome then cs else cs ++ [(c, 0)]

def bump (cs : Counters) (c : Counter) : Counters :=
  (cs.register c).map fun e => if e.1 = c then (e.1, e.2 + 1) else e

def registerRouter (cs : Counters) (router : String) : Counters :=
  Outcome.all.foldl (fun cs o => cs.register (.decision router o)) cs

end Counters
end ConditionalGateway.Pipeline
