import ConditionalGateway.Http.Message
import ConditionalGateway.Net.Url
import ConditionalGateway.Text.Quoted

/-!
# The origin server

Where requests go that nothing answers before. `checkOrigin` is what an address
of an origin has to satisfy; `Origin.ofUrl` asks in addition that its host can
stand in a request, since an address can hold characters that a request cannot.
-/

namespace ConditionalGateway

open Http Net

inductive OriginError where
  | invalid (e : UrlError)
  | unsupportedScheme (scheme : String)
  | missingHost
  | authority (e : TargetError)
  deriving DecidableEq, Repr

def OriginError.reason : OriginError → String
  | .invalid e => e.message
  | .unsupportedScheme scheme => "unsupported scheme " ++ Text.quoted scheme
  | .missingHost => "missing host"
  | .authority e => e.message

/-- The address of an origin: one of the scheme `http` with a host. -/
def checkOrigin (text : String) : Except OriginError (Url × Host) :=
  match Url.ofString text with
  | .error e => .error (.invalid e)
  | .ok url =>
    if url.scheme ≠ "http" then .error (.unsupportedScheme url.scheme)
    else
      match url.host with
      | none => .error .missingHost
      | some host => .ok (url, host)

structure Origin where
  authority : String
  basePath : String
  deriving DecidableEq, Repr, Inhabited

/-- The host with a port that is not the usual one. -/
def authorityText (host : Host) (port : Option Nat) : String :=
  match port with
  | some n => host.display ++ ":" ++ toString n
  | none => host.display

def Origin.ofUrl (text : String) : Except OriginError Origin := do
  let (url, host) ← checkOrigin text
  let authority := authorityText host url.port
  match checkAuthority authority with
  | .ok () => .ok ⟨authority, dropSlashes url.path⟩
  | .error e => .error (.authority e)

def Origin.outgoing? (o : Origin) (r : Request) : Option Request :=
  match PathQuery.ofString (o.basePath ++ r.target.pathQueryText) with
  | .ok pq => some { r with target := .absolute "http" o.authority pq, version := .http11 }
  | .error _ => none

/-- Forwards a request: `send` gives the response of the origin, or nothing if it cannot be
reached. -/
def Origin.forward (o : Origin) (send : Request → Option Response) (r : Request) : Response :=
  match o.outgoing? r with
  | none => .plain 502 "Invalid upstream URI"
  | some r => (send r).getD (.plain 502 "Upstream request failed")

end ConditionalGateway
