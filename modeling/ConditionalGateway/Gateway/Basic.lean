import ConditionalGateway.Config.Schema
import ConditionalGateway.Gateway.Origin
import ConditionalGateway.Pipeline.Factory

/-!
# The gateway

The routers of a configuration in front of its origin. Every request has an
identifier, which it brings or is given, and which comes back with the
response; every answer is counted.
-/

namespace ConditionalGateway

open Http Pipeline RateLimit

inductive GatewayError where
  | origin (url : String) (e : OriginError)
  | router (e : RouterError LinkError)
  deriving Repr

def GatewayError.message : GatewayError → String
  | .origin url e => "invalid upstream url " ++ Text.quoted url ++ ": " ++ e.reason
  | .router e => e.message

structure Gateway where
  origin : Origin
  handler : Handler Builtin
  deriving Inhabited

variable {Q : Type} [Amount Q]

def Gateway.ofConfig (c : Config) : Build (World Q) GatewayError Gateway := fun w =>
  match Origin.ofUrl c.originUrl with
  | .error e => (.error (.origin c.originUrl e), w)
  | .ok origin =>
    match stackBranches makeLink c.branches .terminal w with
    | (.error e, w) => (.error (.router e), w)
    | (.ok handler, w) => (.ok ⟨origin, handler⟩, w)

def withRequestId (newId : String) (r : Request) : HeaderValue × Request :=
  match r.headers.get? requestIdName with
  | some id => (id, r)
  | none =>
    let id := HeaderValue.ofText newId
    (id, { r with headers := r.headers.insert requestIdName id })

/-- The response with the identifier of its request, unless it has one of its own. -/
def returnRequestId (id : HeaderValue) (s : Response) : Response :=
  if s.headers.contains requestIdName then s
  else { s with headers := s.headers.insert requestIdName id }

/-- Whether the target is none that a path from the root can name. -/
def isUnrouted (r : Request) : Bool := r.target.path.toList.head? ≠ some '/'

/-- The response to a request that names no path from the root: its length is told, and a request
that asks for the head alone gets no body. -/
def finishUnrouted (method : String) (s : Response) : Response :=
  let headers :=
    if s.headers.contains contentLengthName then s.headers
    else s.headers.insert contentLengthName (.ofText (toString s.body.length))
  { s with headers, body := if method = "HEAD" then [] else s.body }

/-- Answers a request. `newId` is the identifier for a request that brings none. -/
def Gateway.answer (g : Gateway) (send : Request → Option Response) (newId : String)
    (r : Request) (w : World Q) : Response × World Q :=
  let (id, r) := withRequestId newId r
  let (s, w) := g.handler.call (fun _ r => g.origin.forward send r) r w
  let w := w.count (.request r.method s.status)
  let s := returnRequestId id s
  (if isUnrouted r then finishUnrouted r.method s else s, w)

end ConditionalGateway
