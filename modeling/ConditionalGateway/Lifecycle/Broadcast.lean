/-!
# Broadcast channels

A channel that keeps the latest message only. A receiver sees what is sent
after it subscribed; if more than one message was sent since it looked, all but
the latest are lost to it, and it is told so. The messages carry nothing, so
the channel is a count of them with the place of each receiver.
-/

namespace ConditionalGateway.Lifecycle

inductive Reception where
  | received
  | empty
  /-- Nothing waits and nobody can send any more. -/
  | closed
  | lagged (lost : Nat)
  deriving DecidableEq, Repr

/-- A channel: how many messages were sent, how many each receiver is past, in the order in which
they subscribed, and how many senders there are. -/
structure Broadcast where
  sent : Nat := 0
  seen : List Nat := []
  senders : Nat := 1
  deriving DecidableEq, Repr, Inhabited

namespace Broadcast

def send (c : Broadcast) : Broadcast := { c with sent := c.sent + 1 }

def subscribe (c : Broadcast) : Nat × Broadcast :=
  (c.seen.length, { c with seen := c.seen ++ [c.sent] })

def addSender (c : Broadcast) : Broadcast := { c with senders := c.senders + 1 }

def dropSender (c : Broadcast) : Broadcast := { c with senders := c.senders - 1 }

def receive (c : Broadcast) (receiver : Nat) : Reception × Broadcast :=
  match c.seen[receiver]? with
  | none => (.closed, c)
  | some n =>
    if c.sent ≤ n then (if c.senders = 0 then .closed else .empty, c)
    else if n + 1 < c.sent then
      (.lagged (c.sent - n - 1), { c with seen := c.seen.set receiver (c.sent - 1) })
    else (.received, { c with seen := c.seen.set receiver (n + 1) })

end Broadcast
end ConditionalGateway.Lifecycle
