import ConditionalGateway.Pipeline.Handler

/-!
# Built-in links

The links that descriptors stand for: edits of headers, three kinds of edits of
the path, and the rate limiter. What can be wrong with one is found when it is
made, so a request never fails at a link. A link that cannot give a request its
new path lets it through as it is.
-/

namespace ConditionalGateway.Pipeline

open Http RateLimit

structure HeaderRule where
  name : HeaderName
  value : Option HeaderValue
  deriving DecidableEq, Repr

def HeaderRule.ofEntry (entry : String × String) : Except LinkError HeaderRule :=
  match HeaderName.ofString? entry.1 with
  | none => .error (.invalidHeader entry.1 .name)
  | some name =>
    if entry.2.isEmpty then .ok ⟨name, none⟩
    else
      match HeaderValue.ofString? entry.2 with
      | none => .error (.invalidHeader entry.1 .value)
      | some value => .ok ⟨name, some value⟩

def HeaderRule.apply (h : Headers) (rule : HeaderRule) : Headers :=
  match rule.value with
  | some value => h.insert rule.name value
  | none => h.remove rule.name

def applyRules (rules : List HeaderRule) (h : Headers) : Headers := rules.foldl HeaderRule.apply h

inductive Builtin where
  | headers (request response : List HeaderRule)
  | stripPrefix (prefixes : List String)
  | addPrefix (pre : String)
  | replacePath (path : String)
  | rateLimit (name : String) (limits : Limits) (slot : Nat)
  deriving Repr

def checkRooted (path : String) : Except LinkError Unit :=
  if path.toList.head? = some '/' then .ok () else .error (.invalidPath path .notRooted)

def checkStrip (prefixes : List String) : Except LinkError Builtin := do
  if prefixes.isEmpty then .error (.invalidPath "" .noPrefix)
  prefixes.forM checkRooted
  .ok (.stripPrefix prefixes)

def checkAdd (pre : String) : Except LinkError Builtin := do
  checkRooted pre
  .ok (.addPrefix (dropSlashes pre))

def checkReplace (path : String) : Except LinkError Builtin := do
  checkRooted path
  match PathQuery.ofString path with
  | .ok _ => .ok (.replacePath path)
  | .error _ => .error (.invalidPath path .notUriPath)

def checkLimits (settings : Settings) : Except LinkError Limits :=
  match settings.check with
  | .ok limits => .ok limits
  | .error .zeroAverage => .error (.invalidRate .zeroAverage)
  | .error .zeroBurst => .error (.invalidRate .zeroBurst)
  | .error (.invalidHeader name) => .error (.invalidHeader name .name)

def dropPrefix? (pre path : String) : Option String :=
  if pre.toList.isPrefixOf path.toList then
    some (String.ofList (path.toList.drop pre.toList.length))
  else none

/-- The first prefix that a path starts with, and the path without it, which starts at the root
again. -/
def stripFirst? (prefixes : List String) (path : String) : Option (String × String) :=
  prefixes.findSome? fun pre =>
    (dropPrefix? pre path).map fun rest =>
      (pre, if rest.toList.head? = some '/' then rest else "/" ++ rest)

def setPath? (r : Request) (path : String) : Option Request :=
  (r.target.withPath? path).map fun target => { r with target }

def setHeader (r : Request) (name : HeaderName) (text : String) : Request :=
  match HeaderValue.ofString? text with
  | some value => { r with headers := r.headers.insert name value }
  | none => r

def stripRequest (prefixes : List String) (r : Request) : Request :=
  match stripFirst? prefixes r.target.path with
  | none => r
  | some (pre, rest) =>
    match setPath? r rest with
    | none => r
    | some r => setHeader r forwardedPrefixName pre

def addRequest (pre : String) (r : Request) : Request :=
  (setPath? r (pre ++ r.target.path)).getD r

def replaceRequest (path : String) (r : Request) : Request :=
  match setPath? r path with
  | none => r
  | some changed => setHeader changed replacedPathName r.target.path

def rejection : Response := Response.plain 429 "Rate limit exceeded"

section

variable {Q : Type} [Amount Q]

def World.limiter (w : World Q) (limits : Limits) (slot : Nat) : Limiter Q :=
  w.limiters[slot]?.getD (.start limits w.now)

def World.setLimiter (w : World Q) (slot : Nat) (s : Limiter Q) : World Q :=
  { w with limiters := w.limiters.set slot s }

def World.addLimiter (w : World Q) (limits : Limits) : Nat × World Q :=
  (w.limiters.length, { w with limiters := w.limiters ++ [.start limits w.now] })

/-- Asks a limiter about the client of a request. -/
def World.allow (w : World Q) (limits : Limits) (slot : Nat) (r : Request) : Bool × World Q :=
  let (admitted, s) := (w.limiter limits slot).allow limits w.now (limits.clientKey r)
  (admitted, w.setLimiter slot s)

def unedited (r : Response) : Response := r

def Builtin.receive (l : Builtin) (r : Request) (w : World Q) : Passage × World Q :=
  match l with
  | .headers request response =>
    (.pass { r with headers := applyRules request r.headers }
      (fun s => { s with headers := applyRules response s.headers }), w)
  | .stripPrefix prefixes => (.pass (stripRequest prefixes r) unedited, w)
  | .addPrefix pre => (.pass (addRequest pre r) unedited, w)
  | .replacePath path => (.pass (replaceRequest path r) unedited, w)
  | .rateLimit name limits slot =>
    match w.allow limits slot r with
    | (true, w) => (.pass r unedited, w)
    | (false, w) => (.answer rejection, w.count (.rateLimited name))

instance : Link Q Builtin where
  receive := Builtin.receive

end

end ConditionalGateway.Pipeline
