import ConditionalGateway.Predicate.Parser

/-!
# Predicates

A predicate is an expression with the text it was compiled from.
-/

namespace ConditionalGateway

open Predicate

def maxSourceLength : Nat := 4096

structure Predicate where
  source : String
  root : Expr
  deriving Inhabited

namespace Predicate

def compile (source : String) : Except CompileError Predicate := do
  if maxSourceLength < source.utf8ByteSize then
    .error (.tooLong source.utf8ByteSize maxSourceLength)
  else
    let root ← parse (← tokenize source)
    .ok ⟨source, root⟩

def evaluate (p : Predicate) (r : Http.Request) : Except EvaluationError Bool := p.root.eval r

end Predicate
end ConditionalGateway
