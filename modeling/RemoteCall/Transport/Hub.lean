import RemoteCall.Server
import RemoteCall.Transport.Link

/-!
Contract: the transport over a connection to a server.

Owns:
- the server's side of a connection as a peer;
- connections to one server side by side, each with a client of its own.

Clients that share a server take turns: a request on one connection is answered before the next
one is written on any.

Does not own: serving, and the client's side of a connection.
-/

namespace RemoteCall

set_option autoImplicit false

/-- A server and its side of a connection. It answers at once. -/
def Peer.server {σ : Type} : Peer (Server σ × Connection) where
  deliver arrived served :=
    let (written, server, connection) := served.1.receive served.2 arrived false
    (⟨written, [], !connection.isOpen⟩, server, connection)

structure Hub (σ : Type) where
  server : Server σ
  links : List (Link Connection)

/-- As many fresh connections to a server. -/
def Hub.connect {σ : Type} (server : Server σ) (count : Nat) : Hub σ :=
  ⟨server, List.replicate count (.fresh .fresh)⟩

/-- The transport over one of the connections to a server. -/
def Transport.ofHub {σ : Type} (limit : Option Duration) (index : Nat) :
    Transport (Hub σ) where
  exchange request hub :=
    match hub.links[index]? with
    | none => (.ok (.error .closed), hub)
    | some link =>
        let (outcome, after) := Link.exchange .server limit request
          ⟨(hub.server, link.peer), link.arrived, link.underway, link.ended, link.shutOut⟩
        let left : Link Connection :=
          ⟨after.peer.2, after.arrived, after.underway, after.ended, after.shutOut⟩
        (.ok outcome, ⟨after.peer.1, hub.links.set index left⟩)

end RemoteCall
