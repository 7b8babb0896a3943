import RemoteCall.BuiltIn
import RemoteCall.Dispatch.Run
import RemoteCall.Registry

/-!
Contract: serving requests by the handlers registered under their names.

Owns:
- registration, which never replaces a handler;
- the checks on a request, in their order: depth, name, argument;
- what becomes of the way in which a command ends, and the one panic that is let out;
- serving the bytes of a request.

A request may dispatch further ones, each one level deeper. The levels left are what serving
recurs on, so every request comes to an end.

Does not own: who brings requests, and the state between them.
-/

namespace RemoteCall

set_option autoImplicit false

open Wire

/-- A name was registered that already has a handler. -/
structure NameTaken where
  name : String
deriving DecidableEq, Repr

def NameTaken.message (error : NameTaken) : String :=
  "command " ++ Quoted.quote error.name ++ " is already registered"

structure Dispatcher (σ : Type) where
  handlers : Registry (Handler σ)

namespace Dispatcher

variable {σ : Type}

/-! ## Registration -/

/-- Gives a handler to a name that has none. -/
def register (dispatcher : Dispatcher σ) (name : String) (handler : Handler σ) :
    Except NameTaken (Dispatcher σ) :=
  match dispatcher.handlers.insert? name handler with
  | some handlers => .ok ⟨handlers⟩
  | none => .error ⟨name⟩

/-- The dispatcher that has only the commands that every one has. -/
def initial : Dispatcher σ where
  handlers := ⟨[(namesName, .names), (batchName, .batch)], by
    have before : NameBefore namesName batchName := by decide
    simpa using before⟩

def contains (dispatcher : Dispatcher σ) (name : String) : Bool :=
  dispatcher.handlers.contains name

/-- The names that have handlers, in ascending order of their bytes. -/
def names (dispatcher : Dispatcher σ) : List String :=
  dispatcher.handlers.names

/-- The names, quoted, on one line. -/
def summary (dispatcher : Dispatcher σ) : String :=
  "\x7b" ++ String.intercalate ", " (dispatcher.names.map Quoted.quote) ++ "\x7d"

/-- The names, quoted, on a line each. -/
def listing (dispatcher : Dispatcher σ) : String :=
  let line name := "    " ++ Quoted.quote name ++ ",\n"
  "\x7b\n" ++ String.join (dispatcher.names.map line) ++ "\x7d"

/-! ## Serving -/

/-- What becomes of the way in which a command ends. Its panics are caught; an error that panics
when it is put into words is not, as the error is put into words only after the command. Once they
are written or put into words, the result, the error and what a panic carries are given up, which is
taken not to panic. -/
def settle {result : WireType} :
    Ending result.Member → Except Panic (Except Refusal Bytes)
  | .returned member => .ok (member.val.encode.mapError .result)
  | .failed (.message text) => .ok (.error (.failed text))
  | .failed (.unspeakable panic) => .error panic
  | .panicked panic => .ok (.error (.panicked panic.message))

/-- The response to a request, and the event of a failure. -/
def respond (request : Request) (result : Except Refusal Bytes) (state : σ)
    (events : List Event) : Run σ (Except Panic Response) :=
  match result with
  | .ok payload => ⟨.ok (.success payload), state, events⟩
  | .error error =>
      ⟨.ok (.failure error.message), state, events ++ [.failed request.name error]⟩

/-- Serves a request that may go down `levels` levels, itself included. -/
def answerWithin (dispatcher : Dispatcher σ) :
    (levels : Nat) → Request → σ → Run σ (Except Panic Response)
  | 0, request, state => respond request (.error .tooDeep) state [.received request.name]
  | levels + 1, request, state =>
      match dispatcher.handlers.find? request.name with
      | none =>
          respond request (.error (.unknownCommand request.name)) state [.received request.name]
      | some handler =>
          let start := [.received request.name, .dispatching request.name request.args.length]
          match handler.argument.decode request.args with
          | .error error => respond request (.error (.argument error)) state start
          | .ok argument =>
              let ran := (handler.body argument).run dispatcher.names
                (dispatcher.answerWithin levels) state
              match settle ran.outcome with
              | .ok result => respond request result ran.state (start ++ ran.events)
              | .error panic => ⟨.error panic, ran.state, start ++ ran.events⟩

/-- Serves a request that was dispatched from within `depth` others. -/
def answerAt (dispatcher : Dispatcher σ) (depth : Nat) :
    Request → σ → Run σ (Except Panic Response) :=
  dispatcher.answerWithin (nestingLimit + 1 - depth)

/-- Serves a request that comes from outside. -/
def answer (dispatcher : Dispatcher σ) :
    Request → σ → Run σ (Except Panic Response) :=
  dispatcher.answerAt 0

def serve (dispatcher : Dispatcher σ) (input : Bytes) (state : σ) :
    Run σ (Except Panic Bytes) :=
  match Request.decode input with
  | .error error =>
      let refusal := Refusal.malformedRequest error
      ⟨.ok (Response.failure refusal.message).encode, state, [.malformed refusal]⟩
  | .ok request =>
      let served := dispatcher.answer request state
      ⟨served.outcome.map Response.encode, served.state, served.events⟩

end Dispatcher

end RemoteCall
