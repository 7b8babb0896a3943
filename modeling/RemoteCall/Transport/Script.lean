import RemoteCall.Transport.Link

/-!
Contract: peers that follow a script, whatever they are sent.

Owns: writing the items of a script, and keeping what was sent to it.

Does not own: whether the bytes of a script are frames.
-/

namespace RemoteCall

set_option autoImplicit false

/-- What a script writes for one frame. -/
structure ScriptItem where
  raw : Bytes
  /-- Whether it ends its stream behind the bytes. -/
  closes : Bool
deriving DecidableEq, Repr

/-- A peer that writes the items of a list, whatever it is sent. -/
structure Script where
  items : List ScriptItem
  /-- The frames that it was sent, the first one in front. -/
  received : List Bytes
  /-- Whether it has ended its stream. -/
  ended : Bool
deriving DecidableEq, Repr

/-- A script that was not sent anything yet. -/
def Script.start (items : List ScriptItem) : Script := ⟨items, [], false⟩

/-- Writes the next item for each frame, and ends the stream at a frame for which there is none.
It goes on reading in any case. -/
def Peer.script : Peer Script where
  deliver frame script :=
    let received := script.received ++ [frame]
    if script.ended then (⟨[], [], true⟩, { script with received })
    else
      match script.items with
      | [] => (⟨[], [], true⟩, ⟨[], received, true⟩)
      | item :: items => (⟨item.raw, [], item.closes⟩, ⟨items, received, item.closes⟩)

end RemoteCall
