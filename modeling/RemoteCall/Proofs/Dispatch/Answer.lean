import RemoteCall.Dispatcher

/-!
Contract: what a request is answered with, and what running a program comes to.

Owns:
- the answer to a request of an unknown name, and to one whose handler is run;
- programs that dispatch nothing, for which it does not matter how deep they are dispatched;
- names whose requests let no panic out.

Does not own: what the built-in commands do.
-/

namespace RemoteCall

set_option autoImplicit false

open Wire

variable {σ α β : Type}

/-- The response that carries a result, or the message of the refusal that stands in its place. -/
def Response.ofResult : Except Refusal Bytes → Response
  | .ok payload => .success payload
  | .error refusal => .failure refusal.message

/-! ## Programs -/

namespace Program

/-- A program that dispatches no request when it is run from a state. -/
def DispatchesNothing (names : List String) : Program σ α → σ → Prop
  | .done _, _ => True
  | .readState next, state => (next state).DispatchesNothing names state
  | .writeState written next, _ => next.DispatchesNothing names written
  | .readNames next, state => (next names).DispatchesNothing names state
  | .dispatch _ _, _ => False

/-- It does not matter how requests are served if none is dispatched. -/
theorem run_eq_of_dispatchesNothing {names : List String} {program : Program σ α} {state : σ}
    (quiet : program.DispatchesNothing names state)
    (serve other : Request → σ → Run σ (Except Panic Response)) :
    program.run names serve state = program.run names other state := by
  induction program generalizing state with
  | done ending => rfl
  | readState next inductionHypothesis => exact inductionHypothesis state quiet
  | writeState written next inductionHypothesis => exact inductionHypothesis quiet
  | readNames next inductionHypothesis => exact inductionHypothesis names quiet
  | dispatch request next => exact quiet.elim

/-- A program and another one on its result run one after the other, unless the first does not
return. -/
theorem run_bind (names : List String) (serve : Request → σ → Run σ (Except Panic Response))
    (program : Program σ α) (next : α → Program σ β) (state : σ) :
    (program.bind next).run names serve state =
      let first := program.run names serve state
      match first.outcome with
      | .returned result =>
          let rest := (next result).run names serve first.state
          ⟨rest.outcome, rest.state, first.events ++ rest.events⟩
      | .failed failure => ⟨.failed failure, first.state, first.events⟩
      | .panicked panic => ⟨.panicked panic, first.state, first.events⟩ := by
  induction program generalizing state with
  | done ending => cases ending <;> rfl
  | readState rest inductionHypothesis => exact inductionHypothesis state state
  | writeState written rest inductionHypothesis => exact inductionHypothesis written
  | readNames rest inductionHypothesis => exact inductionHypothesis names state
  | dispatch request rest inductionHypothesis =>
      rw [bind, run, run]
      cases served : (serve request state).outcome with
      | error panic => simp only
      | ok response =>
          simp only [inductionHypothesis response]
          cases ((rest response).run names serve (serve request state).state).outcome <;>
            simp [List.append_assoc]

end Program

/-- A run with another outcome. -/
def Run.map (change : α → β) (ran : Run σ α) : Run σ β :=
  ⟨change ran.outcome, ran.state, ran.events⟩

/-- An ending with another result. -/
def Ending.map (change : α → β) : Ending α → Ending β
  | .returned result => .returned (change result)
  | .failed failure => .failed failure
  | .panicked panic => .panicked panic

/-- A handler over ordinary types runs its body on the value that stands behind the argument. -/
theorem Handler.run_of [Transferable α] [Transferable β] (body : α → Program σ β) (argument : α)
    (names : List String) (serve : Request → σ → Run σ (Except Panic Response)) (state : σ) :
    ((Handler.of body).body (Transferable.toMember argument)).run names serve state =
      ((body argument).run names serve state).map (Ending.map Transferable.toMember) := by
  show ((body (Transferable.ofMember (Transferable.toMember argument))).bind fun result =>
    .done (.returned (Transferable.toMember result))).run names serve state = _
  rw [Transferable.ofMember_toMember, Program.run_bind, Run.map]
  simp only
  cases ((body argument).run names serve state).outcome with
  | returned result =>
      simp only [Program.run, List.append_nil]
      rfl
  | failed failure => rfl
  | panicked panic => rfl

/-! ## Answers -/

namespace Dispatcher

variable {dispatcher : Dispatcher σ} {levels : Nat} {request : Request} {handler : Handler σ}
  {state : σ}

theorem respond_outcome (result : Except Refusal Bytes) (events : List Event) :
    (respond request result state events).outcome = .ok (.ofResult result) := by
  cases result <;> rfl

theorem respond_state (result : Except Refusal Bytes) (events : List Event) :
    (respond request result state events).state = state := by
  cases result <;> rfl

theorem answerWithin_of_unknown (unknown : dispatcher.handlers.find? request.name = none) :
    dispatcher.answerWithin (levels + 1) request state =
      respond request (.error (.unknownCommand request.name)) state [.received request.name] := by
  rw [answerWithin, unknown]

section Ran

variable {argument : handler.argument.Member}
  (found : dispatcher.handlers.find? request.name = some handler)
  (decoded : handler.argument.decode request.args = .ok argument)

include found decoded

/-- The handler is run once on the argument, and the request is answered with what it ends in. -/
theorem answerWithin_outcome_of_decoded :
    (dispatcher.answerWithin (levels + 1) request state).outcome =
      (settle ((handler.body argument).run dispatcher.names (dispatcher.answerWithin levels)
        state).outcome).map Response.ofResult := by
  rw [answerWithin, found]
  simp only [decoded]
  split
  · rename_i settled
    rw [respond_outcome, settled]
    rfl
  · rename_i settled
    rw [settled]
    rfl

theorem answerWithin_state_of_decoded :
    (dispatcher.answerWithin (levels + 1) request state).state =
      ((handler.body argument).run dispatcher.names (dispatcher.answerWithin levels)
        state).state := by
  rw [answerWithin, found]
  simp only [decoded]
  split
  · rw [respond_state]
  · rfl

end Ran

/-- A request whose handler dispatches nothing is answered alike at all depths that are
permitted. -/
theorem answerWithin_eq_of_dispatchesNothing
    (quiet : ∀ handler, dispatcher.handlers.find? request.name = some handler →
      ∀ argument state, (handler.body argument).DispatchesNothing dispatcher.names state)
    (levels others : Nat) (state : σ) :
    dispatcher.answerWithin (levels + 1) request state =
      dispatcher.answerWithin (others + 1) request state := by
  cases found : dispatcher.handlers.find? request.name with
  | none => rw [answerWithin_of_unknown found, answerWithin_of_unknown found]
  | some handler =>
      rw [answerWithin, answerWithin, found]
      simp only
      cases decoded : handler.argument.decode request.args with
      | error error => rfl
      | ok argument =>
          simp only
          rw [Program.run_eq_of_dispatchesNothing (quiet handler found argument state)
            (dispatcher.answerWithin levels) (dispatcher.answerWithin others)]

/-- Bytes that spell a request are served like the request itself. -/
theorem serve_of_decode {input : Bytes} (decoded : Request.decode input = .ok request) :
    dispatcher.serve input state =
      (let served := dispatcher.answer request state
       ⟨served.outcome.map Response.encode, served.state, served.events⟩) := by
  unfold serve
  rw [decoded]

/-- No panic leaves the dispatch of a request of this name, at whatever depth. -/
def LetsNoPanicOut (dispatcher : Dispatcher σ) (name : String) : Prop :=
  ∀ depth args state, ∃ response,
    (dispatcher.answerAt depth ⟨name, args⟩ state).outcome = .ok response

end Dispatcher

end RemoteCall
