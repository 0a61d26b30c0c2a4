import ConditionalGateway.Lifecycle.Broadcast

/-!
# Shutdown

One signal, sent at most once, tells every part of the gateway that subscribed
before it to stop. Any handle can trigger it; all triggers but the first do
nothing, so no receiver falls behind.
-/

namespace ConditionalGateway.Lifecycle

/-- A coordinator of a shutdown, seen through any of its handles. -/
structure Shutdown where
  channel : Broadcast := {}
  triggered : Bool := false
  deriving DecidableEq, Repr, Inhabited

namespace Shutdown

def clone (s : Shutdown) : Shutdown := { s with channel := s.channel.addSender }

def drop (s : Shutdown) : Shutdown := { s with channel := s.channel.dropSender }

def subscribe (s : Shutdown) : Nat × Shutdown :=
  let (receiver, channel) := s.channel.subscribe
  (receiver, { s with channel })

/-- Sends the signal, if it was not sent. -/
def trigger (s : Shutdown) : Shutdown :=
  if s.triggered then s else ⟨s.channel.send, true⟩

def receive (s : Shutdown) (receiver : Nat) : Reception × Shutdown :=
  let (found, channel) := s.channel.receive receiver
  (found, { s with channel })

end Shutdown
end ConditionalGateway.Lifecycle
