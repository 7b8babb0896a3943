import RemoteCall.Transport.Error

/-!
Contract: whether one host can be reached from another.

Owns: what an attempt to connect comes to.

Does not own: what goes over a connection.
-/

namespace RemoteCall

set_option autoImplicit false

/-- The network between a client and a server. -/
inductive Network where
  /-- Every host can be reached. -/
  | joined
  /-- No host can be reached, for the same reason each. -/
  | severed (error : HostError)
deriving DecidableEq, Repr

/-- What an attempt to connect comes to, depending on whether somebody listens at the address. -/
def Network.connect : Network → (listening : Bool) → Except HostError Unit
  | .severed error, _ => .error error
  | .joined, true => .ok ()
  | .joined, false => .error .connectionRefused

end RemoteCall
