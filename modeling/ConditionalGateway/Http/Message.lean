import ConditionalGateway.Http.Header
import ConditionalGateway.Http.Target
import ConditionalGateway.Net.Address

/-!
# Requests and responses
-/

namespace ConditionalGateway.Http

inductive Version where
  | http09
  | http10
  | http11
  | http2
  | http3
  deriving DecidableEq, Repr, Inhabited

def Version.display : Version → String
  | .http09 => "HTTP/0.9"
  | .http10 => "HTTP/1.0"
  | .http11 => "HTTP/1.1"
  | .http2 => "HTTP/2.0"
  | .http3 => "HTTP/3.0"

def Version.all : List Version := [.http09, .http10, .http11, .http2, .http3]

def Version.ofString? (s : String) : Option Version := Version.all.find? fun v => v.display == s

structure Request where
  method : String
  target : Target
  version : Version
  headers : Headers
  body : List UInt8
  peer : Option Net.SocketAddress
  deriving DecidableEq, Repr, Inhabited

structure Response where
  status : Nat
  headers : Headers
  body : List UInt8
  deriving DecidableEq, Repr, Inhabited

def Response.plain (status : Nat) (text : String) : Response where
  status := status
  headers := [(contentTypeName, .ofText "text/plain; charset=utf-8")]
  body := Text.encode text

/-- The identifier that a request carries, or a hyphen if it has none that is text. -/
def Request.id (r : Request) : String :=
  ((r.headers.get? requestIdName).bind HeaderValue.text?).getD "-"

end ConditionalGateway.Http
