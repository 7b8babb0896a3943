import RemoteCall.Transport.Basic

/-!
Contract: the transport whose answers are laid down in front.

Owns: giving one answer for each request, in order, and none when they are used up.

Does not own: what is asked.
-/

namespace RemoteCall

set_option autoImplicit false

/-- The transport that gives the answers of a list, one for each request. -/
def Transport.canned : Transport (List (Except TransportError Bytes)) where
  exchange
    | _, [] => (.ok (.error .closed), [])
    | _, answer :: answers => (.ok answer, answers)

end RemoteCall
