import RemoteCall.Dispatch.Event

/-!
Contract: what comes of running a program: its outcome, the state it leaves and what happened.

Owns:
- runs;
- running a program, given how a dispatched request is served.

Does not own: serving.
-/

namespace RemoteCall

set_option autoImplicit false

/-- What came of something that was run over a state. -/
structure Run (σ α : Type) where
  outcome : α
  state : σ
  events : List Event

/-- Runs a program from a state. `serve` serves the requests that it dispatches; a panic that
comes out of one of them ends the program. -/
def Program.run {σ α : Type} (names : List String)
    (serve : Request → σ → Run σ (Except Panic Response)) :
    Program σ α → σ → Run σ (Ending α)
  | .done ending, state => ⟨ending, state, []⟩
  | .readState next, state => (next state).run names serve state
  | .writeState written next, _ => next.run names serve written
  | .readNames next, state => (next names).run names serve state
  | .dispatch request next, state =>
      let served := serve request state
      match served.outcome with
      | .error panic => ⟨.panicked panic, served.state, served.events⟩
      | .ok response =>
          let rest := (next response).run names serve served.state
          ⟨rest.outcome, rest.state, served.events ++ rest.events⟩

end RemoteCall
