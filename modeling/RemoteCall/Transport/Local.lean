import RemoteCall.Server
import RemoteCall.Transport.Basic

/-!
Contract: the transport to a server in the same process.

Owns: handing a request to the server; a panic that leaves the server's dispatcher leaves the
exchange.

Does not own: connections.
-/

namespace RemoteCall

set_option autoImplicit false

/-- The transport to a server in the same process. -/
def Transport.inProcess {σ : Type} : Transport (Server σ) where
  exchange request server :=
    let (outcome, server) := server.serve request
    (outcome.map .ok, server)

end RemoteCall
