import RemoteCall.Wire.Transferable

/-!
Contract: the wire types of the records and alternatives that the small application declares.

Owns: the types, and the member of the one that is written by names.

Does not own: commands.
-/

namespace RemoteCall.Sample

set_option autoImplicit false

open Wire

/-- A length in metres, a record of a single number. -/
def meters : WireType :=
  .record [.float64]

/-- A number with any number of trees below it. -/
def tree : WireType :=
  .recursive (.record [.integer .i32, .list (.recur 0)])

/-- Nothing, a circle by its radius, a rectangle by its sides, or a label by its text and whether
it is bold. -/
def shape : WireType :=
  .choice
    [.unit,
     .integer .u32,
     .tuple [.integer ⟨true, .bits16⟩, .integer ⟨true, .bits16⟩],
     .record [.text, .bool]]

/-- A record of a sum, written by names. -/
def flattenedSum : WireType :=
  .flattened "sum" (.record [.integer .u64])

def sumMember (sum : UInt64) : flattenedSum.Member :=
  ⟨.flattened (.tuple [Transferable.toValue sum]),
    ⟨_, rfl, _, rfl, _, _, rfl, Transferable.toValue_conforms sum, rfl⟩⟩

end RemoteCall.Sample
