import ConditionalGateway.Pipeline.Builtin
import ConditionalGateway.Pipeline.Router

/-!
# The factory of built-in links

`makeLink` makes a link from a descriptor; for a branch it makes a router with
the same factory, so branches can lie in the tables of other branches.
`makeLink_branching` says so in terms of the table itself.
-/

namespace ConditionalGateway.Pipeline

open RateLimit

variable {Q : Type} [Amount Q]

/-- A descriptor that is ready to be made: the names of its members, if it is a chain, and how a
link is made from it. -/
structure Maker (Q : Type) where
  members : Option (List String)
  make : String → Handler Builtin → Build (World Q) LinkError (Handler Builtin)

def linkChecked (check : Except LinkError Builtin) (next : Handler Builtin) :
    Build (World Q) LinkError (Handler Builtin) := fun w =>
  match check with
  | .error e => (.error e, w)
  | .ok l => (.ok (.link l next), w)

def checkHeaders (request response : HeaderEdits) : Except LinkError Builtin := do
  let request ← request.mapM HeaderRule.ofEntry
  let response ← response.mapM HeaderRule.ofEntry
  .ok (.headers request response)

def makeRateLimit (name : String) (settings : Settings) (next : Handler Builtin) :
    Build (World Q) LinkError (Handler Builtin) := fun w =>
  match checkLimits settings with
  | .error e => (.error e, w)
  | .ok limits =>
    let (slot, w) := w.addLimiter limits
    (.ok (.link (.rateLimit name limits slot) next), w)

def asLink (build : Build (World Q) (RouterError LinkError) (Handler Builtin)) :
    Build (World Q) LinkError (Handler Builtin) := fun w =>
  match build w with
  | (.error e, w) => (.error (.branching e), w)
  | (.ok h, w) => (.ok h, w)

mutual

def Descriptor.make : Descriptor → String → Handler Builtin →
    Build (World Q) LinkError (Handler Builtin)
  | .headers request response => fun _ next => linkChecked (checkHeaders request response) next
  | .stripPrefix prefixes => fun _ next => linkChecked (checkStrip prefixes) next
  | .addPrefix pre => fun _ next => linkChecked (checkAdd pre) next
  | .replacePath path => fun _ next => linkChecked (checkReplace path) next
  | .rateLimit settings => fun name next => makeRateLimit name settings next
  | .chain _ => fun _ _ w => (.error (.unsupported .chain), w)
  | .branching ⟨condition, chain, middlewares⟩ => fun name next =>
    asLink (makeRouter Maker.members (fun name m => m.make name) name
      ⟨condition, chain, makers middlewares⟩ next)

def makers : Table → List (String × Maker Q)
  | [] => []
  | (name, d) :: rest => (name, ⟨d.members?, d.make⟩) :: makers rest

end

def makeLink : LinkFactory Q Builtin Descriptor LinkError := fun name d next => d.make name next

def Descriptor.maker (d : Descriptor) : Maker Q := ⟨d.members?, d.make⟩

theorem makers_eq_map (t : Table) : makers (Q := Q) t = t.map (seenAs Descriptor.maker) := by
  induction t with
  | nil => rfl
  | cons e t ih => obtain ⟨name, d⟩ := e; simp [makers, seenAs, Descriptor.maker, ih]

/-- A branch among the descriptors is made a router by the same factory. -/
theorem makeLink_branching (name : String) (spec : BranchSpec Descriptor)
    (next : Handler Builtin) :
    makeLink (Q := Q) name (.branching spec) next =
      asLink (makeRouter Descriptor.members? makeLink name spec next) := by
  obtain ⟨condition, chain, middlewares⟩ := spec
  simp only [makeLink, Descriptor.make]
  congr 1
  funext w
  have order : (⟨condition, chain, makers middlewares⟩ : BranchSpec (Maker Q)).order =
      (⟨condition, chain, middlewares⟩ : BranchSpec Descriptor).order := by
    cases chain with
    | some names => rfl
    | none => simp only [BranchSpec.order, makers_eq_map, List.map_map]; rfl
  simp only [makeRouter, order]
  rw [makers_eq_map, buildChain_map Descriptor.maker Maker.members Descriptor.members?
    (fun _ => rfl)]
  rfl

end ConditionalGateway.Pipeline
