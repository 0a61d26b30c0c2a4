import ConditionalGateway.Pipeline.Counter
import ConditionalGateway.Pipeline.Error
import ConditionalGateway.RateLimit.Limiter

/-!
# Handlers

A handler is a tree: a link in front of another handler, a router in front of
two, or the end of the pipeline. Calling one takes a request through links and
routers; it ends when a link answers by itself or when the request is delivered
at the end. The two arms of a router can end in one and the same handler.

Rate limiters, counters, the clock and the record of what was delivered are the
world of a handler. A link that limits a rate knows its limiter by number, so
that two uses of one handler share it.
-/

namespace ConditionalGateway.Pipeline

open Http Predicate RateLimit

structure World (Q : Type) where
  /-- The time in nanoseconds. -/
  now : Nat := 0
  limiters : List (Limiter Q) := []
  counters : Counters := []
  /-- The requests that reached the end, in order. -/
  delivered : List Request := []

/-- What a link makes of a request: it passes a request on and edits the response that comes back,
or it answers by itself. -/
inductive Passage where
  | pass (r : Request) (edit : Response → Response)
  | answer (r : Response)

class Link (Q α : Type) where
  receive : α → Request → World Q → Passage × World Q

structure Router where
  name : String
  predicate : Predicate
  deriving Inhabited

inductive Handler (α : Type) where
  | terminal
  | link (l : α) (next : Handler α)
  | router (router : Router) (branch next : Handler α)
  deriving Inhabited

/-- The end of a pipeline: the response to a request, from those delivered before it. -/
abbrev Terminal := List Request → Request → Response

inductive Decision where
  | branch
  | default
  /-- The condition has no value for the request, which goes on as if it did not hold. -/
  | failOpen (e : EvaluationError)
  deriving Repr

def Decision.ofValue : Except EvaluationError Bool → Decision
  | .ok true => .branch
  | .ok false => .default
  | .error e => .failOpen e

def Decision.outcome : Decision → Outcome
  | .branch => .branch
  | .default => .default
  | .failOpen _ => .error

section

variable {Q : Type}

def World.count (w : World Q) (c : Counter) : World Q := { w with counters := w.counters.bump c }

def World.advance (w : World Q) (duration : Nat) : World Q := { w with now := w.now + duration }

def Router.decide (router : Router) (r : Request) (w : World Q) : Decision × World Q :=
  let d := Decision.ofValue (router.predicate.evaluate r)
  (d, w.count (.decision router.name d.outcome))

def Handler.call {α : Type} [Link Q α] (terminal : Terminal) :
    Handler α → Request → World Q → Response × World Q
  | .terminal, r, w => (terminal w.delivered r, { w with delivered := w.delivered ++ [r] })
  | .link l next, r, w =>
    match Link.receive l r w with
    | (.answer response, w) => (response, w)
    | (.pass r edit, w) =>
      let (response, w) := next.call terminal r w
      (edit response, w)
  | .router rt branch next, r, w =>
    match rt.decide r w with
    | (.branch, w) => branch.call terminal r w
    | (_, w) => next.call terminal r w

end

end ConditionalGateway.Pipeline
