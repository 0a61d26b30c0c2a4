import ConditionalGateway.Unicode.CharSet
import ConditionalGateway.Unicode.Data.CaseOrbit

/-!
# Sets without regard to case

Characters that simple case folding makes equal form an orbit. `foldCase` adds
to a set whatever lies in an orbit with one of its members; `foldAsciiCase`
knows the letters of ASCII alone.
-/

namespace ConditionalGateway.Unicode

def caseOrbits : List (List Nat) :=
  ((Data.caseOrbits.replace "\n" " ").splitOn " ").map fun orbit =>
    (orbit.splitOn ",").map fun digits => natOfRadix 16 digits.toList

namespace CharSet

/-- The set with everything that differs from a member in case only. -/
def foldCase (s : CharSet) : CharSet :=
  let touched := caseOrbits.filter fun orbit => orbit.any s.contains
  ofRanges (s.ranges.toList ++ touched.flatten.map fun n => (n, n))

def foldAsciiCase (s : CharSet) : CharSet :=
  let uppers := (List.range' 65 26).filter fun n => s.contains n || s.contains (n + 32)
  ofRanges (s.ranges.toList ++ uppers.flatMap fun n => [(n, n), (n + 32, n + 32)])

end CharSet
end ConditionalGateway.Unicode
