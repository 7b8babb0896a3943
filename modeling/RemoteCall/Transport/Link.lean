import RemoteCall.Frame
import RemoteCall.Transport.Basic

/-!
Contract: the transport over a connection, on which requests and answers go as frames.

Owns:
- peers, which answer what is written on a connection at once, late or not at all;
- the client's side of a connection, and one exchange on it;
- the limit on the wait for an answer, after which the connection is no longer used.

Bytes that arrive too early or too late are not thrown away: they are read as the answer to a
later request. So a connection on which an answer was late can no longer be trusted, and is shut
out after the limit.

Does not own: how a connection comes about, and what a peer answers.
-/

namespace RemoteCall

set_option autoImplicit false

/-- What a peer writes when a frame reaches it. -/
structure Delivery where
  /-- What arrives while the answer is waited for. -/
  prompt : Bytes
  /-- What arrives only later, but before the next request. -/
  late : Bytes
  /-- Whether the peer ends its stream behind these bytes. -/
  ends : Bool
deriving DecidableEq, Repr

/-- The other side of a connection, with a state of type `π`. -/
structure Peer (π : Type) where
  deliver : Bytes → π → Delivery × π

/-- The client's side of a connection, and its peer. -/
structure Link (π : Type) where
  peer : π
  /-- What has arrived and was not read. -/
  arrived : Bytes
  /-- What will have arrived before the next request. -/
  underway : Bytes
  /-- Whether the peer has ended its stream. -/
  ended : Bool
  /-- Whether the limit was exceeded once. -/
  shutOut : Bool

namespace Link

variable {π : Type}

/-- A connection that was just made. -/
def fresh (peer : π) : Link π := ⟨peer, [], [], false, false⟩

/-- Takes one message off what is there to be read. If none is there, the wait ends at the limit;
without a limit it goes on until the peer ends its stream. -/
def take (limit : Option Duration) (link : Link π) : Except TransportError Bytes × Link π :=
  let awaited :=
    if limit.isSome then link
    else { link with arrived := link.arrived ++ link.underway, underway := [] }
  let complete := limit.isNone || link.ended && link.underway.isEmpty
  match Frame.next complete awaited.arrived, limit with
  | .message answer rest, _ => (.ok answer, { awaited with arrived := rest })
  | .failed error rest, _ => (.error (.framing error), { awaited with arrived := rest })
  | .waiting, some span => (.error (.timedOut span), { awaited with shutOut := true })
  | .waiting, none | .finished, _ => (.error .closed, awaited)

/-- Writes a request and reads its answer. -/
def exchange (peer : Peer π) (limit : Option Duration) (request : Bytes) (link : Link π) :
    Except TransportError Bytes × Link π :=
  if link.shutOut then (.error .closed, link)
  else
    let (delivery, state) := peer.deliver (Frame.encode request) link.peer
    take limit ⟨state, link.arrived ++ link.underway ++ delivery.prompt, delivery.late,
      link.ended || delivery.ends, false⟩

end Link

/-- The transport over one connection. -/
def Transport.stream {π : Type} (peer : Peer π) (limit : Option Duration) :
    Transport (Link π) where
  exchange request link :=
    let (outcome, link) := link.exchange peer limit request
    (.ok outcome, link)

end RemoteCall
