import RemoteCall.Panic
import RemoteCall.Transport.Error

/-!
Contract: what carries a request to a server and brings back its answer.

Owns:
- transports, which make one exchange at a time and keep a state between exchanges;
- a transport that keeps the requests it was given.

Does not own: what the bytes say.
-/

namespace RemoteCall

set_option autoImplicit false

/-- What carries requests, with a state of type `τ` between two of them. An exchange brings an
answer or says why there is none. A panic in it is one that a server in the same process let
out. -/
structure Transport (τ : Type) where
  exchange : Bytes → τ → Except Panic (Except TransportError Bytes) × τ

/-- A transport's state, with the requests that it was given, the first one in front. -/
structure Recorded (τ : Type) where
  state : τ
  sent : List Bytes

/-- Keeps the requests that a transport is given, whatever becomes of them. -/
def Transport.recorded {τ : Type} (transport : Transport τ) : Transport (Recorded τ) where
  exchange request recorded :=
    let (outcome, state) := transport.exchange request recorded.state
    (outcome, ⟨state, recorded.sent ++ [request]⟩)

end RemoteCall
