import RemoteCall.Wire.Value

/-!
Contract: panics, which end what is being done unless somebody catches them.

Owns:
- what a panic carries;
- writing a value where failing to do so is a panic.

What a panic carries is taken to be given up without another panic. The same is taken of results,
and of the errors with which commands fail.

Does not own: who catches panics.
-/

namespace RemoteCall

set_option autoImplicit false

/-- What a panic carries. -/
inductive Panic where
  | text (message : String)
  /-- Something that is not a text. -/
  | other
deriving DecidableEq, Repr

def Panic.message : Panic → String
  | .text message => message
  | .other => "unknown panic payload"

namespace Wire

/-- The panic of a value that cannot be written. -/
def EncodeError.panic : EncodeError → Panic
  | .unknownSize => .text "Wire values always serialize: EncodeError(SequenceMustHaveLength)"

/-- The bytes of a value that is taken to be one that can be written. -/
def Value.encodeOrPanic (value : Value) : Except Panic Bytes :=
  value.encode.mapError EncodeError.panic

end Wire

end RemoteCall
