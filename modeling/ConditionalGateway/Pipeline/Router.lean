import ConditionalGateway.Pipeline.Chain
import ConditionalGateway.Pipeline.Handler

/-!
# Making routers

A router is made from a condition and a chain: the condition is compiled, the
chain is built in front of the handler that the router continues with, and only
then are the router's counters taken into use.
-/

namespace ConditionalGateway.Pipeline

variable {Q α δ ε : Type}

/-- A factory that makes handlers in front of handlers, from what a table of `δ` holds. -/
abbrev LinkFactory (Q α δ ε : Type) : Type := Factory δ ε (Handler α) (World Q)

/-- Makes the router of a branch. Both of its arms end in `next`. -/
def makeRouter (members : δ → Option (List String)) (factory : LinkFactory Q α δ ε)
    (name : String) (spec : BranchSpec δ) (next : Handler α) :
    Build (World Q) (RouterError ε) (Handler α) := fun w =>
  match Predicate.compile spec.condition with
  | .error e => (.error (.compile name spec.condition e), w)
  | .ok predicate =>
    match buildChain members factory spec.middlewares spec.order next w with
    | (.error e, w) => (.error (.chain name e), w)
    | (.ok branch, w) =>
      (.ok (.router ⟨name, predicate⟩ branch next),
        { w with counters := w.counters.registerRouter name })

/-- Stacks routers in front of a handler: the first branch is outermost, and each router goes on
with the next one. They are made from the last to the first. -/
def stackBranches (factory : LinkFactory Q α Descriptor ε) :
    List Branch → Handler α → Build (World Q) (RouterError ε) (Handler α)
  | [], next, w => (.ok next, w)
  | b :: rest, next, w =>
    match stackBranches factory rest next w with
    | (.error e, w) => (.error e, w)
    | (.ok inner, w) => makeRouter Descriptor.members? factory b.name b.spec inner w

end ConditionalGateway.Pipeline
