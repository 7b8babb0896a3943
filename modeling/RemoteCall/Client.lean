import RemoteCall.BuiltIn
import RemoteCall.Dispatch.Refusal
import RemoteCall.Transport.Basic

/-!
Contract: what a caller of remote commands sees.

Owns:
- the three ways in which a call comes to nothing, and their wording;
- sending an envelope, calling a command, running a batch of it, and listing the names;
- what an answer's bytes say to the caller.

Each call makes one exchange, or none if its argument cannot be written.

Does not own: how exchanges are made.
-/

namespace RemoteCall

set_option autoImplicit false

open Wire

/-- The refusal of a request by a server. -/
structure RemoteRefusal where
  reason : String
deriving DecidableEq, Repr

namespace RemoteRefusal

def message (error : RemoteRefusal) : String :=
  "server error: " ++ error.reason

/-- Whether the refusal says that there is no such command. -/
def isUnknownName (error : RemoteRefusal) : Bool :=
  unknownCommandText.toList.isPrefixOf error.reason.toList

end RemoteRefusal

/-- Why a call comes to nothing. -/
inductive CallFailure where
  | transport (error : TransportError)
  | decode (error : DecodeError)
  | remote (error : RemoteRefusal)
deriving DecidableEq, Repr

def CallFailure.message : CallFailure → String
  | .transport error => error.message
  | .decode error => error.message
  | .remote error => error.message

/-- A command as its callers know it. -/
structure Command where
  name : String
  argument : WireType
  result : WireType
deriving Repr

/-- What comes of a call, if it does not panic. -/
abbrev Attempt (α : Type) := Except Panic (Except CallFailure α)

namespace Response

/-- The result of a type that a response carries. -/
def toResult (response : Response) (type : WireType) : Except CallFailure type.Member :=
  match response.outcome with
  | .error error => .error (.decode error)
  | .ok (.error reason) => .error (.remote ⟨reason⟩)
  | .ok (.ok payload) => (type.decode payload).mapError .decode

/-- The result of a type that the bytes of a response carry. -/
def resultOfBytes (input : Bytes) (type : WireType) : Except CallFailure type.Member :=
  match Response.decode input with
  | .error error => .error (.decode error)
  | .ok response => response.toResult type

end Response

namespace Client

variable {τ : Type}

/-- Sends a request and returns the response as it is. -/
def exchange (transport : Transport τ) (request : Request) (state : τ) : Attempt Response × τ :=
  match transport.exchange request.encode state with
  | (.error panic, state) => (.error panic, state)
  | (.ok (.error error), state) => (.ok (.error (.transport error)), state)
  | (.ok (.ok answer), state) => (.ok ((Response.decode answer).mapError .decode), state)

/-- Calls a command by its name, with an argument, for a result of a type. -/
def call (transport : Transport τ) (name : String) (argument : Value) (type : WireType)
    (state : τ) : Attempt type.Member × τ :=
  match argument.encodeOrPanic with
  | .error panic => (.error panic, state)
  | .ok args =>
      match exchange transport ⟨name, args⟩ state with
      | (.error panic, state) => (.error panic, state)
      | (.ok (.error error), state) => (.ok (.error error), state)
      | (.ok (.ok response), state) => (.ok (response.toResult type), state)

def invoke (transport : Transport τ) (command : Command) (argument : Value) (state : τ) :
    Attempt command.result.Member × τ :=
  call transport command.name argument command.result state

/-- Calls a command with each of some arguments, in a single exchange. Each answer has an outcome
of its own. -/
def invokeEach (transport : Transport τ) (command : Command) (arguments : List Value) (state : τ) :
    Attempt (List (Except CallFailure command.result.Member)) × τ :=
  match Batch.ofValues command.name arguments with
  | .error panic => (.error panic, state)
  | .ok batch =>
      match call transport batchName (Transferable.toValue batch)
          (Transferable.type (List Bytes)) state with
      | (.error panic, state) => (.error panic, state)
      | (.ok (.error error), state) => (.ok (.error error), state)
      | (.ok (.ok slots), state) =>
          (.ok (.ok ((Transferable.ofMember slots).map fun slot =>
            Response.resultOfBytes slot command.result)), state)

/-- The names that the server serves. -/
def servedNames (transport : Transport τ) (state : τ) : Attempt (List String) × τ :=
  match call transport namesName .unit (Transferable.type (List String)) state with
  | (.error panic, state) => (.error panic, state)
  | (.ok (.error error), state) => (.ok (.error error), state)
  | (.ok (.ok names), state) => (.ok (.ok (Transferable.ofMember names)), state)

end Client

end RemoteCall
