import ConditionalGateway.Proofs.Pipeline.Construction

/-!
# What holds of everything that is built

Handlers are built from descriptors: a descriptor is made a link, or a router
around a chain of its own (`Built`). What links keep that descriptors make, and
routers keep, holds of everything built (`Built.keeps`); so every link of such a
handler has a descriptor that makes it (`Built.made`).
-/

namespace ConditionalGateway.Pipeline

open RateLimit

variable {Q : Type}

inductive Descriptor.Makes : Descriptor → Builtin → Prop
  | headers : checkHeaders request response = .ok l → Makes (.headers request response) l
  | stripPrefix : checkStrip prefixes = .ok l → Makes (.stripPrefix prefixes) l
  | addPrefix : checkAdd pre = .ok l → Makes (.addPrefix pre) l
  | replacePath : checkReplace path = .ok l → Makes (.replacePath path) l
  | rateLimit (name : String) (slot : Nat) : checkLimits settings = .ok limits →
      Makes (.rateLimit settings) (.rateLimit name limits slot)

/-- A construction gives handlers of which something holds, if it holds of those it is given. -/
def Keeps (P : Handler Builtin → Prop)
    (make : Handler Builtin → Build (World Q) ε (Handler Builtin)) : Prop :=
  ∀ next w h w', make next w = (.ok h, w') → P next → P h

variable (Q) in
/-- What can be built: links, chains, routers and stacks of routers, all from descriptors. -/
inductive Built [Amount Q] : Handler Builtin → Prop
  | terminal : Built .terminal
  | link : makeLink (Q := Q) name d next w = (.ok h, w') → Built next → Built h
  | chain : buildChain Descriptor.members? (makeLink (Q := Q)) table names next w = (.ok h, w') →
      Built next → Built h
  | router : makeRouter Descriptor.members? (makeLink (Q := Q)) name spec next w = (.ok h, w') →
      Built next → Built h
  | stack : stackBranches (makeLink (Q := Q)) branches next w = (.ok h, w') → Built next → Built h

section
variable {P : Handler Builtin → Prop}

theorem linkChecked_keeps
    (hl : ∀ l next, check = .ok l → P next → P (.link l next)) :
    Keeps P (linkChecked (Q := Q) check) := by
  intro next w h w' hm hp
  unfold linkChecked at hm
  split at hm
  · cases hm
  · cases hm
    exact hl _ next rfl hp

theorem asLink_keeps
    {make : Handler Builtin → Build (World Q) (RouterError LinkError) (Handler Builtin)}
    (hm : Keeps P make) : Keeps P fun next => asLink (make next) := by
  intro next w h w' ha hp
  simp only [asLink] at ha
  split at ha
  · cases ha
  · rename_i hb
    cases ha
    exact hm _ _ _ _ hb hp

theorem makeLinks_keeps {factory : LinkFactory Q Builtin δ ε} {links : List (String × δ)}
    (hf : ∀ e ∈ links, Keeps P (factory e.1 e.2)) : Keeps P (makeLinks factory links) := by
  intro next w h w' hm hp
  induction links generalizing h w' with
  | nil =>
    cases hm
    exact hp
  | cons e rest ih =>
    obtain ⟨hfirst, hrest⟩ := List.forall_mem_cons.mp hf
    unfold makeLinks at hm
    split at hm
    · cases hm
    · rename_i inner v hr
      split at hm
      · cases hm
      · rename_i hl
        cases hm
        exact hfirst _ _ _ _ hl (ih hrest _ _ hr)

theorem buildChain_keeps {members : δ → Option (List String)}
    {factory : LinkFactory Q Builtin δ ε} {table : List (String × δ)}
    (hf : ∀ e ∈ table, Keeps P (factory e.1 e.2)) :
    Keeps P (buildChain members factory table names) := by
  intro next w h w' hm hp
  unfold buildChain at hm
  split at hm
  · cases hm
  · rename_i links hr
    have hlinks : ∀ e ∈ links, Keeps P (factory e.1 e.2) := fun e he =>
      hf e (mem_of_lookup (resolve_ok hr he).2.1)
    exact makeLinks_keeps hlinks _ _ _ _ hm hp

variable (hrouter : ∀ rt branch next, P branch → P next → P (.router rt branch next))
include hrouter

theorem makeRouter_keeps {members : δ → Option (List String)}
    {factory : LinkFactory Q Builtin δ ε} {spec : BranchSpec δ}
    (hf : ∀ e ∈ spec.middlewares, Keeps P (factory e.1 e.2)) :
    Keeps P (makeRouter members factory name spec) := by
  intro next w h w' hm hp
  unfold makeRouter at hm
  split at hm
  · cases hm
  · rename_i p _
    split at hm
    · cases hm
    · rename_i branch v hb
      cases hm
      exact hrouter _ _ _ (buildChain_keeps hf _ _ _ _ hb hp) hp

variable [Amount Q]
variable (hlink : ∀ d l next, Descriptor.Makes d l → P next → P (.link l next))
include hlink

theorem makeLink_keeps (d : Descriptor) : ∀ name, Keeps P (makeLink (Q := Q) name d) := by
  -- only a branch makes a router of its own, from a table of smaller descriptors
  induction d using Descriptor.nested with
  | step d ih =>
    intro name
    cases d with
    | headers => exact linkChecked_keeps fun l next h => hlink _ l next (.headers h)
    | stripPrefix => exact linkChecked_keeps fun l next h => hlink _ l next (.stripPrefix h)
    | addPrefix => exact linkChecked_keeps fun l next h => hlink _ l next (.addPrefix h)
    | replacePath => exact linkChecked_keeps fun l next h => hlink _ l next (.replacePath h)
    | rateLimit settings =>
      intro next w h w' hm hp
      replace hm : makeRateLimit name settings next w = (.ok h, w') := hm
      unfold makeRateLimit at hm
      split at hm
      · cases hm
      · rename_i limits hc
        cases hm
        exact hlink _ _ _ (.rateLimit name _ hc) hp
    | chain =>
      intro next w h w' hm
      cases hm
    | branching spec =>
      rw [funext (makeLink_branching name spec)]
      exact asLink_keeps (makeRouter_keeps hrouter fun e he => ih spec rfl e he e.1)

theorem stackBranches_keeps (branches : List Branch) :
    Keeps P (stackBranches (makeLink (Q := Q)) branches) := by
  intro next w h w' hm hp
  induction branches generalizing h w' with
  | nil =>
    cases hm
    exact hp
  | cons b rest ih =>
    unfold stackBranches at hm
    split at hm
    · cases hm
    · rename_i inner v hr
      exact makeRouter_keeps hrouter (fun e _ => makeLink_keeps hrouter hlink e.2 e.1)
        _ _ _ _ hm (ih _ _ hr)

theorem Built.keeps (hterminal : P .terminal) (h : Built Q handler) : P handler := by
  have hmake : ∀ (d : Descriptor) name, Keeps P (makeLink (Q := Q) name d) :=
    makeLink_keeps hrouter hlink
  induction h with
  | terminal => exact hterminal
  | link hm _ ih => exact hmake _ _ _ _ _ _ hm ih
  | chain hm _ ih => exact buildChain_keeps (fun e _ => hmake e.2 e.1) _ _ _ _ hm ih
  | router hm _ ih => exact makeRouter_keeps hrouter (fun e _ => hmake e.2 e.1) _ _ _ _ hm ih
  | stack hm _ ih => exact stackBranches_keeps hrouter hlink _ _ _ _ _ hm ih

end

def Handler.Links (P : Builtin → Prop) : Handler Builtin → Prop
  | .terminal => True
  | .link l next => P l ∧ next.Links P
  | .router _ branch next => branch.Links P ∧ next.Links P

theorem Built.made [Amount Q] (h : Built Q handler) : handler.Links fun l => ∃ d, Descriptor.Makes d l :=
  h.keeps (fun _ _ _ hb hn => ⟨hb, hn⟩) (fun d _ _ hm hn => ⟨⟨d, hm⟩, hn⟩) trivial

end ConditionalGateway.Pipeline
