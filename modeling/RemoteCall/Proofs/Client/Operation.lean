import RemoteCall.Client
import RemoteCall.Proofs.Wire.Spelling

/-!
Contract: whatever a client is asked for, it makes one exchange and works with what that brings.

Owns:
- the operations of a client, and performing some of them one after the other;
- the bytes with which an operation asks, and what it makes of an exchange;
- that an operation over any transport is that one exchange, or none.

Does not own: what servers answer.
-/

namespace RemoteCall

set_option autoImplicit false

open Wire

variable {τ : Type}

/-! ## One exchange -/

/-- Makes one exchange and draws a conclusion from it, or none if there is nothing to send. -/
def Transport.ask {α : Type} (transport : Transport τ) (request : Except Panic Bytes)
    (conclude : Except TransportError Bytes → Except CallFailure α) (state : τ) : Attempt α × τ :=
  match request with
  | .error panic => (.error panic, state)
  | .ok request =>
      let exchanged := transport.exchange request state
      (exchanged.1.map conclude, exchanged.2)

theorem Transport.ask_ok {α : Type} (transport : Transport τ) (request : Bytes)
    (conclude : Except TransportError Bytes → Except CallFailure α) (state : τ) :
    transport.ask (.ok request) conclude state =
      ((transport.exchange request state).1.map conclude,
        (transport.exchange request state).2) := rfl

/-- The conclusion of what was asked can be drawn in two steps. -/
theorem Transport.ask_map {α β : Type} (transport : Transport τ) (request : Except Panic Bytes)
    (conclude : Except TransportError Bytes → Except CallFailure α) (f : α → β) (state : τ) :
    transport.ask request (fun exchanged => (conclude exchanged).map f) state =
      ((transport.ask request conclude state).1.map (·.map f),
        (transport.ask request conclude state).2) := by
  cases request with
  | error panic => rfl
  | ok request =>
      rw [ask_ok, ask_ok]
      obtain ⟨outcome, next⟩ := transport.exchange request state
      cases outcome <;> rfl

namespace Client

/-- The response that an exchange brings. -/
def responseOf : Except TransportError Bytes → Except CallFailure Response
  | .error error => .error (.transport error)
  | .ok answer => (Response.decode answer).mapError .decode

/-- The result of a type that an exchange brings. -/
def resultOf (type : WireType) (exchanged : Except TransportError Bytes) :
    Except CallFailure type.Member :=
  (responseOf exchanged).bind fun response => response.toResult type

theorem exchange_eq_ask (transport : Transport τ) (request : Request) (state : τ) :
    exchange transport request state = transport.ask (.ok request.encode) responseOf state := by
  rw [Transport.ask_ok, exchange]
  obtain ⟨outcome, next⟩ := transport.exchange request.encode state
  cases outcome with
  | error panic => rfl
  | ok exchanged => cases exchanged <;> rfl

theorem call_eq_ask (transport : Transport τ) (name : String) (argument : Value) (type : WireType)
    (state : τ) :
    call transport name argument type state =
      transport.ask (argument.encodeOrPanic.map fun args => Request.encode ⟨name, args⟩)
        (resultOf type) state := by
  unfold call
  cases argument.encodeOrPanic with
  | error panic => rfl
  | ok args =>
      simp only [exchange_eq_ask, Except.map, Transport.ask_ok]
      obtain ⟨outcome, next⟩ := transport.exchange (Request.encode ⟨name, args⟩) state
      cases outcome with
      | error panic => rfl
      | ok exchanged =>
          simp only [resultOf]
          cases responseOf exchanged <;> rfl

end Client

/-! ## Operations -/

/-- What a client can be asked for. -/
inductive Operation where
  | exchange (request : Request)
  | call (name : String) (argument : Value) (type : WireType)
  | invoke (command : Command) (argument : Value)
  | invokeEach (command : Command) (arguments : List Value)
  | servedNames

namespace Operation

/-- What an operation that succeeds results in. -/
abbrev Result : Operation → Type
  | .exchange _ => Response
  | .call _ _ type => type.Member
  | .invoke command _ => command.result.Member
  | .invokeEach command _ => List (Except CallFailure command.result.Member)
  | .servedNames => List String

def perform (transport : Transport τ) :
    (operation : Operation) → τ → Attempt operation.Result × τ
  | .exchange request => Client.exchange transport request
  | .call name argument type => Client.call transport name argument type
  | .invoke command argument => Client.invoke transport command argument
  | .invokeEach command arguments => Client.invokeEach transport command arguments
  | .servedNames => Client.servedNames transport

/-- Performs operations one after the other, whatever they come to. -/
def performEach (transport : Transport τ) :
    List Operation → τ → List (Σ operation : Operation, Attempt operation.Result) × τ
  | [], state => ([], state)
  | operation :: operations, state =>
      let first := operation.perform transport state
      let others := performEach transport operations first.2
      (⟨operation, first.1⟩ :: others.1, others.2)

/-- The bytes with which an operation asks. It panics without asking if they cannot be written. -/
def request : Operation → Except Panic Bytes
  | .exchange request => .ok request.encode
  | .call name argument _ =>
      argument.encodeOrPanic.map fun args => Request.encode ⟨name, args⟩
  | .invoke command argument =>
      argument.encodeOrPanic.map fun args => Request.encode ⟨command.name, args⟩
  | .invokeEach command arguments =>
      (Batch.ofValues command.name arguments).map fun batch =>
        Request.encode ⟨batchName, batch.encode⟩
  | .servedNames => .ok (Request.encode ⟨namesName, []⟩)

/-- What an operation makes of what its exchange comes to. -/
def conclude : (operation : Operation) → Except TransportError Bytes →
    Except CallFailure operation.Result
  | .exchange _, exchanged => Client.responseOf exchanged
  | .call _ _ type, exchanged => Client.resultOf type exchanged
  | .invoke command _, exchanged => Client.resultOf command.result exchanged
  | .invokeEach command _, exchanged =>
      (Client.resultOf (Transferable.type (List Bytes)) exchanged).map fun slots =>
        (Transferable.ofMember slots).map fun slot => Response.resultOfBytes slot command.result
  | .servedNames, exchanged =>
      (Client.resultOf (Transferable.type (List String)) exchanged).map Transferable.ofMember

theorem invokeEach_eq_ask (transport : Transport τ) (command : Command) (arguments : List Value)
    (state : τ) :
    Client.invokeEach transport command arguments state =
      transport.ask (invokeEach command arguments).request (invokeEach command arguments).conclude
        state := by
  refine Eq.trans ?_ (transport.ask_map _ _ _ state).symm
  simp only [Client.invokeEach, request]
  cases Batch.ofValues command.name arguments with
  | error panic => rfl
  | ok batch =>
      have written : (Transferable.toValue batch).encodeOrPanic = .ok batch.encode :=
        congrArg (Except.mapError EncodeError.panic) batch.encode_eq
      simp only [Client.call_eq_ask, written, Except.map]
      obtain ⟨outcome, next⟩ := transport.ask (.ok (Request.encode ⟨batchName, batch.encode⟩))
        (Client.resultOf (Transferable.type (List Bytes))) state
      cases outcome with
      | error panic => rfl
      | ok result => cases result <;> rfl

theorem servedNames_eq_ask (transport : Transport τ) (state : τ) :
    Client.servedNames transport state =
      transport.ask servedNames.request servedNames.conclude state := by
  refine Eq.trans ?_ (transport.ask_map _ _ _ state).symm
  have written : Value.unit.encodeOrPanic = .ok [] := rfl
  simp only [Client.servedNames, Client.call_eq_ask, written, Except.map, request]
  obtain ⟨outcome, next⟩ := transport.ask (.ok (Request.encode ⟨namesName, []⟩))
    (Client.resultOf (Transferable.type (List String))) state
  cases outcome with
  | error panic => rfl
  | ok result => cases result <;> rfl

/-- An operation is one exchange and its conclusion, over any transport. -/
theorem perform_eq_ask (transport : Transport τ) (operation : Operation) (state : τ) :
    operation.perform transport state =
      transport.ask operation.request operation.conclude state := by
  cases operation with
  | exchange request => exact Client.exchange_eq_ask transport request state
  | call name argument type => exact Client.call_eq_ask transport name argument type state
  | invoke command argument =>
      exact Client.call_eq_ask transport command.name argument command.result state
  | invokeEach command arguments => exact invokeEach_eq_ask transport command arguments state
  | servedNames => exact servedNames_eq_ask transport state

theorem perform_of_unwritten {transport : Transport τ} {operation : Operation} {panic : Panic}
    (unwritten : operation.request = .error panic) (state : τ) :
    operation.perform transport state = (.error panic, state) := by
  rw [perform_eq_ask, unwritten]
  rfl

/-- Of a transport, an operation depends only on the one exchange. -/
theorem perform_of_exchanged {transport : Transport τ} {operation : Operation} {request : Bytes}
    {state next : τ} {exchanged : Except TransportError Bytes}
    (written : operation.request = .ok request)
    (carried : transport.exchange request state = (.ok exchanged, next)) :
    operation.perform transport state = (.ok (operation.conclude exchanged), next) := by
  rw [perform_eq_ask, written, Transport.ask_ok, carried]
  rfl

end Operation

end RemoteCall
