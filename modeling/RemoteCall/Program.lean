import RemoteCall.Envelope
import RemoteCall.Panic

/-!
Contract: what a command does while it runs, as a program over the application's state.

Owns:
- failures, and the ways in which a command ends;
- programs: reading and writing the state, asking for the registered names, dispatching a further
  request one level deeper, and ending;
- running one program after another.

A program says what it does and not how it is served, so what may happen while a command runs can
be read off it.

Does not own: the meaning of a dispatched request. Left out are commands that bring a request to the
dispatcher as one from outside, with all levels still ahead of it, and commands that catch the panic
of a request that they dispatched and go on.
-/

namespace RemoteCall

set_option autoImplicit false

/-- The error with which a command fails. -/
inductive Failure where
  | message (text : String)
  /-- An error that panics when it is put into words. -/
  | unspeakable (panic : Panic)
deriving DecidableEq, Repr

/-- How a command ends. -/
inductive Ending (α : Type) where
  | returned (result : α)
  | failed (failure : Failure)
  | panicked (panic : Panic)
deriving DecidableEq, Repr

/-- What a command does, over a state of type `σ` and up to a result of type `α`. -/
inductive Program (σ α : Type) where
  | done (ending : Ending α)
  | readState (next : σ → Program σ α)
  | writeState (state : σ) (next : Program σ α)
  /-- Goes on with the registered names. -/
  | readNames (next : List String → Program σ α)
  /-- Goes on with the response to a request; if serving it panics, the command panics. -/
  | dispatch (request : Request) (next : Response → Program σ α)

namespace Program

variable {σ α β : Type}

/-- Runs a program, and another one on its result. -/
def bind : Program σ α → (α → Program σ β) → Program σ β
  | .done (.returned result), next => next result
  | .done (.failed failure), _ => .done (.failed failure)
  | .done (.panicked panic), _ => .done (.panicked panic)
  | .readState rest, next => .readState fun state => (rest state).bind next
  | .writeState state rest, next => .writeState state (rest.bind next)
  | .readNames rest, next => .readNames fun names => (rest names).bind next
  | .dispatch request rest, next => .dispatch request fun response => (rest response).bind next

instance : Monad (Program σ) where
  pure result := .done (.returned result)
  bind := bind

def state : Program σ σ :=
  .readState pure

def setState (state : σ) : Program σ Unit :=
  .writeState state (pure ())

def names : Program σ (List String) :=
  .readNames pure

/-- The response to a request that is dispatched one level deeper. -/
def request (request : Request) : Program σ Response :=
  .dispatch request pure

def fail (message : String) : Program σ α :=
  .done (.failed (.message message))

def panic (panic : Panic) : Program σ α :=
  .done (.panicked panic)

end Program

end RemoteCall
