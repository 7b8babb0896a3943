import RemoteCall.Proofs.Dispatch.Composition
import RemoteCall.Proofs.Dispatch.Result
import RemoteCall.Sample.Notepad

/-!
Contract: a handler whose errors can all be put into words lets no panic out of its dispatch.

Owns:
- programs, handlers and dispatchers that speak, which never end in an unspeakable error;
- the built-in handlers and registration under this condition;
- its consequence for requests.

Does not own: what becomes of a panic that is let out.
-/

namespace RemoteCall

set_option autoImplicit false

open Wire

variable {σ α β : Type}

namespace Program

/-- A program that, whatever it reads and is answered, ends in no unspeakable error. -/
def Speaks : Program σ α → Prop
  | .done (.failed (.unspeakable _)) => False
  | .done _ => True
  | .readState next => ∀ state, (next state).Speaks
  | .writeState _ next => next.Speaks
  | .readNames next => ∀ names, (next names).Speaks
  | .dispatch _ next => ∀ response, (next response).Speaks

theorem Speaks.bind {program : Program σ α} {next : α → Program σ β} (speaks : program.Speaks)
    (nextSpeaks : ∀ result, (next result).Speaks) : (program.bind next).Speaks := by
  induction program with
  | done ending =>
      cases ending with
      | returned result => exact nextSpeaks result
      | failed failure =>
          cases failure with
          | message text => trivial
          | unspeakable panic => exact speaks.elim
      | panicked panic => trivial
  | readState rest inductionHypothesis =>
      exact fun state => inductionHypothesis state (speaks state)
  | writeState written rest inductionHypothesis => exact inductionHypothesis speaks
  | readNames rest inductionHypothesis =>
      exact fun names => inductionHypothesis names (speaks names)
  | dispatch request rest inductionHypothesis =>
      exact fun response => inductionHypothesis response (speaks response)

theorem Speaks.run_outcome_ne {program : Program σ α} (speaks : program.Speaks)
    (names : List String) (serve : Request → σ → Run σ (Except Panic Response)) (state : σ)
    (panic : Panic) : (program.run names serve state).outcome ≠ .failed (.unspeakable panic) := by
  induction program generalizing state with
  | done ending =>
      intro same
      rw [run] at same
      simp only at same
      subst same
      exact speaks
  | readState rest inductionHypothesis => exact inductionHypothesis state (speaks state) state
  | writeState written rest inductionHypothesis => exact inductionHypothesis speaks written
  | readNames rest inductionHypothesis => exact inductionHypothesis names (speaks names) state
  | dispatch request rest inductionHypothesis =>
      rw [run]
      cases (serve request state).outcome with
      | error panic => simp
      | ok response => exact inductionHypothesis response (speaks response) _

end Program

/-- A handler whose body speaks on every argument. -/
def Handler.Speaks (handler : Handler σ) : Prop :=
  ∀ argument, (handler.body argument).Speaks

theorem Handler.speaks_of [Transferable α] [Transferable β] {body : α → Program σ β}
    (speaks : ∀ argument, (body argument).Speaks) : (Handler.of body).Speaks :=
  fun argument => (speaks (Transferable.ofMember argument)).bind fun _ => trivial

theorem Handler.speaks_names : (Handler.names : Handler σ).Speaks :=
  speaks_of fun _ _ => trivial

theorem Handler.speaks_batch : (Handler.batch : Handler σ).Speaks := by
  refine speaks_of fun batch => ?_
  induction batch.arguments with
  | nil => trivial
  | cons args others inductionHypothesis =>
      exact fun response => inductionHypothesis.bind fun _ => trivial

namespace Dispatcher

/-- A dispatcher whose handlers all speak. -/
def Speaks (dispatcher : Dispatcher σ) : Prop :=
  ∀ name handler, dispatcher.handlers.find? name = some handler → handler.Speaks

theorem speaks_initial : (initial : Dispatcher σ).Speaks := by
  intro name handler found
  obtain ⟨entry, isFirst, rfl⟩ := Option.map_eq_some_iff.1 found
  have member : entry ∈ [(namesName, Handler.names), (batchName, Handler.batch)] :=
    List.mem_of_find?_eq_some isFirst
  simp only [List.mem_cons, List.not_mem_nil, or_false] at member
  rcases member with rfl | rfl
  · exact Handler.speaks_names
  · exact Handler.speaks_batch

theorem Speaks.register {dispatcher larger : Dispatcher σ} {name : String} {handler : Handler σ}
    (speaks : dispatcher.Speaks) (handlerSpeaks : handler.Speaks)
    (registered : dispatcher.register name handler = .ok larger) : larger.Speaks := by
  intro other found isFound
  rw [find?_register registered] at isFound
  by_cases same : name = other
  · rw [if_pos same] at isFound
    cases isFound
    exact handlerSpeaks
  · rw [if_neg same] at isFound
    exact speaks other found isFound

/-- A request lets no panic out if the handler of its name, if there is one, speaks. -/
theorem letsNoPanicOut_of_speaks {dispatcher : Dispatcher σ} {name : String}
    (speaks : ∀ handler, dispatcher.handlers.find? name = some handler → handler.Speaks) :
    dispatcher.LetsNoPanicOut name := by
  intro depth args state
  have neverFails : ∀ panic, ¬ dispatcher.FailsUnspeakably depth ⟨name, args⟩ state panic := by
    rintro panic ⟨handler, argument, admitted, fails⟩
    exact (speaks handler admitted.registered argument).run_outcome_ne _ _ state panic fails
  obtain ⟨result, _, answered⟩ := exists_resultAt neverFails
  exact ⟨.ofResult result, answered⟩

/-- No request lets a panic out of a dispatcher that speaks. -/
theorem Speaks.letsNoPanicOut {dispatcher : Dispatcher σ} (speaks : dispatcher.Speaks)
    (name : String) : dispatcher.LetsNoPanicOut name :=
  letsNoPanicOut_of_speaks fun handler found => speaks name handler found

end Dispatcher

/-! ## The notepad -/

private theorem register_note : Dispatcher.initial.register "Note" Sample.note =
    .ok Sample.notepad.dispatcher := rfl

theorem Sample.composed_notepad : Sample.notepad.dispatcher.Composed :=
  .register .initial register_note

theorem Sample.speaks_notepad : Sample.notepad.dispatcher.Speaks := by
  have bodySpeaks : ∀ item, (Sample.pushFail item).Speaks := fun _ _ _ => trivial
  exact Dispatcher.speaks_initial.register (Handler.speaks_of bodySpeaks) register_note

end RemoteCall
