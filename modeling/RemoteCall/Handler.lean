import RemoteCall.Program

/-!
Contract: what serves a command: the types of its argument and its result, and its body.

Owns:
- handlers over members of wire types;
- handlers over ordinary types.

Does not own: names, and serving.
-/

namespace RemoteCall

set_option autoImplicit false

open Wire

/-- What serves a command. -/
structure Handler (σ : Type) where
  argument : WireType
  result : WireType
  body : argument.Member → Program σ result.Member

/-- A body over ordinary types. -/
def Handler.of {σ α β : Type} [Transferable α] [Transferable β] (body : α → Program σ β) :
    Handler σ where
  argument := Transferable.type α
  result := Transferable.type β
  body argument := (body (Transferable.ofMember argument)).bind fun result =>
    .done (.returned (Transferable.toMember result))

end RemoteCall
