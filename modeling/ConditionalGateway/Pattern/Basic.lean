import ConditionalGateway.Pattern.Parser

/-!
# Patterns

A pattern is a regular expression with the text it was compiled from. It
compiles if the text is well formed and the machines that recognise it stay
within the limit, and it matches a text if a match lies anywhere in it.
-/

namespace ConditionalGateway

def maxPatternSize : Nat := 1048576

structure Pattern where
  source : String
  root : Pattern.Node
  deriving Inhabited, Repr

namespace Pattern

def compile? (source : String) : Option Pattern := do
  let root ← Node.ofString? source
  if maxPatternSize < root.footprint .forward || maxPatternSize < root.footprint .backward then none
  some ⟨source, root⟩

def isMatch (p : Pattern) (s : String) : Bool := p.root.isMatch s

end Pattern
end ConditionalGateway
