import RemoteCall.Proofs.Dispatch.Answer
import RemoteCall.Proofs.Wire.Spelling

/-!
Contract: a request is refused by the first check that it fails, or its handler is run on its
argument; the answer says what came of it.

Owns:
- the checks that a request passes, and the first one that it fails;
- a plain view of serving a request, before what it comes to is put into a response;
- the answer to a request in terms of this view;
- the one way in which a panic leaves the dispatch of a request.

Does not own: what handlers do.
-/

namespace RemoteCall

set_option autoImplicit false

open Wire

variable {σ : Type}

/-- Runs the body of a handler on an argument, for a request that was dispatched from within `depth`
others. What the body dispatches is one level deeper. -/
def Handler.runAt (handler : Handler σ) (dispatcher : Dispatcher σ) (depth : Nat)
    (argument : handler.argument.Member) (state : σ) : Run σ (Ending handler.result.Member) :=
  (handler.body argument).run dispatcher.names (dispatcher.answerAt (depth + 1)) state

namespace Dispatcher

variable {dispatcher : Dispatcher σ} {depth : Nat} {request : Request} {state : σ}

/-! ## Checks -/

/-- A request passes all checks: it is not too deep, its name has the handler, and its argument is
read as the one given. -/
structure Admits (dispatcher : Dispatcher σ) (depth : Nat) (request : Request)
    (handler : Handler σ) (argument : handler.argument.Member) : Prop where
  permitted : depth ≤ 32
  registered : dispatcher.handlers.find? request.name = some handler
  decoded : handler.argument.decode request.args = .ok argument

/-- The first check that a request fails. -/
inductive Refuses (dispatcher : Dispatcher σ) (depth : Nat) (request : Request) : Refusal → Prop
  | tooDeep : 32 < depth → Refuses dispatcher depth request .tooDeep
  | unknownCommand : depth ≤ 32 → dispatcher.handlers.find? request.name = none →
      Refuses dispatcher depth request (.unknownCommand request.name)
  | argument {handler : Handler σ} {error : DecodeError} : depth ≤ 32 →
      dispatcher.handlers.find? request.name = some handler →
      handler.argument.decode request.args = .error error →
      Refuses dispatcher depth request (.argument error)

/-- Every request passes all checks or fails one first. -/
theorem admits_or_refuses (dispatcher : Dispatcher σ) (depth : Nat) (request : Request) :
    (∃ handler argument, dispatcher.Admits depth request handler argument) ∨
      ∃ refusal, dispatcher.Refuses depth request refusal := by
  by_cases permitted : depth ≤ 32
  · cases registered : dispatcher.handlers.find? request.name with
    | none => exact .inr ⟨_, .unknownCommand permitted registered⟩
    | some handler =>
        cases decoded : handler.argument.decode request.args with
        | error error => exact .inr ⟨_, .argument permitted registered decoded⟩
        | ok argument => exact .inl ⟨handler, argument, permitted, registered, decoded⟩
  · exact .inr ⟨_, .tooDeep (Nat.lt_of_not_le permitted)⟩

/-! ## Depth and levels -/

/-- Below the nesting limit every request is refused, and nothing happens to the state. -/
theorem answerAt_of_tooDeep (below : 32 < depth) (request : Request) (state : σ) :
    dispatcher.answerAt depth request state =
      respond request (.error .tooDeep) state [.received request.name] := by
  have noLevels : nestingLimit + 1 - depth = 0 := Nat.sub_eq_zero_of_le below
  rw [answerAt, noLevels, answerWithin]

/-- At a permitted level there is one level less for the requests of a batch. -/
theorem answerAt_eq_answerWithin (permitted : depth ≤ 32) :
    dispatcher.answerAt depth = dispatcher.answerWithin (nestingLimit + 1 - (depth + 1) + 1) := by
  have levels : nestingLimit + 1 - depth = nestingLimit + 1 - (depth + 1) + 1 := by
    unfold nestingLimit
    omega
  rw [answerAt, levels]

/-! ## Results -/

/-- What a request comes to, before it is put into a response. -/
def resultAt (dispatcher : Dispatcher σ) (depth : Nat) (request : Request) (state : σ) :
    Run σ (Except Panic (Except Refusal Bytes)) :=
  if 32 < depth then ⟨.ok (.error .tooDeep), state, []⟩
  else
    match dispatcher.handlers.find? request.name with
    | none => ⟨.ok (.error (.unknownCommand request.name)), state, []⟩
    | some handler =>
        let found := [.dispatching request.name request.args.length]
        match handler.argument.decode request.args with
        | .error error => ⟨.ok (.error (.argument error)), state, found⟩
        | .ok argument =>
            let ran := handler.runAt dispatcher depth argument state
            ⟨settle ran.outcome, ran.state, found ++ ran.events⟩

/-- What happens when a request has come to a result: a refusal is noted. -/
def closingEvents (request : Request) : Except Panic (Except Refusal Bytes) → List Event
  | .ok (.error refusal) => [.failed request.name refusal]
  | _ => []

/-- The answer to a request says what the request comes to, and nothing else happens. -/
theorem answerAt_eq_resultAt (dispatcher : Dispatcher σ) (depth : Nat) (request : Request)
    (state : σ) :
    let result := dispatcher.resultAt depth request state
    dispatcher.answerAt depth request state =
      ⟨result.outcome.map Response.ofResult, result.state,
        .received request.name :: (result.events ++ closingEvents request result.outcome)⟩ := by
  intro result
  subst result
  by_cases below : 32 < depth
  · rw [resultAt, if_pos below, answerAt_of_tooDeep below]
    rfl
  · rw [resultAt, if_neg below, answerAt_eq_answerWithin (Nat.le_of_not_lt below), answerWithin]
    cases dispatcher.handlers.find? request.name with
    | none => rfl
    | some handler =>
        simp only
        cases handler.argument.decode request.args with
        | error error => rfl
        | ok argument =>
            simp only [Handler.runAt, answerAt]
            generalize (handler.body argument).run dispatcher.names
              (dispatcher.answerWithin (nestingLimit + 1 - (depth + 1))) state = ran
            rcases settle ran.outcome with panic | refusal | payload
            · simp [closingEvents, Except.map]
            · simp [respond, closingEvents, Except.map, Response.ofResult]
            · simp [respond, closingEvents, Except.map, Response.ofResult]

theorem answerAt_outcome (dispatcher : Dispatcher σ) (depth : Nat) (request : Request) (state : σ) :
    (dispatcher.answerAt depth request state).outcome =
      (dispatcher.resultAt depth request state).outcome.map Response.ofResult := by
  rw [answerAt_eq_resultAt]

theorem answerAt_state (dispatcher : Dispatcher σ) (depth : Nat) (request : Request) (state : σ) :
    (dispatcher.answerAt depth request state).state =
      (dispatcher.resultAt depth request state).state := by
  rw [answerAt_eq_resultAt]

theorem resultAt_of_refuses {refusal : Refusal} (refused : dispatcher.Refuses depth request refusal)
    (state : σ) :
    (dispatcher.resultAt depth request state).outcome = .ok (.error refusal) ∧
      (dispatcher.resultAt depth request state).state = state := by
  unfold resultAt
  cases refused with
  | tooDeep below =>
      rw [if_pos below]
      exact ⟨rfl, rfl⟩
  | unknownCommand permitted unknown =>
      rw [if_neg (Nat.not_lt.2 permitted), unknown]
      exact ⟨rfl, rfl⟩
  | argument permitted registered mismatch =>
      rw [if_neg (Nat.not_lt.2 permitted), registered]
      simp only [mismatch, and_self]

/-- What comes of a request that passes all checks is what comes of one run of its handler. -/
theorem resultAt_of_admits {handler : Handler σ} {argument : handler.argument.Member}
    (admitted : dispatcher.Admits depth request handler argument) :
    let ran := handler.runAt dispatcher depth argument state
    dispatcher.resultAt depth request state =
      ⟨settle ran.outcome, ran.state,
        .dispatching request.name request.args.length :: ran.events⟩ := by
  unfold resultAt
  rw [if_neg (Nat.not_lt.2 admitted.permitted), admitted.registered]
  simp only [admitted.decoded]
  rfl

/-- A run of a handler is settled as a refusal only for what came of it. -/
theorem settle_ne_unknownCommand {result : WireType} (ending : Ending result.Member)
    (name : String) : settle ending ≠ .ok (.error (.unknownCommand name)) := by
  cases ending with
  | returned member =>
      intro same
      rw [settle] at same
      cases written : member.val.encode with
      | error error =>
          rw [written] at same
          cases same
      | ok payload =>
          rw [written] at same
          cases same
  | failed failure => cases failure <;> simp [settle]
  | panicked panic => simp [settle]

/-- A permitted request comes to the refusal of an unknown command exactly if its name has no
handler. -/
theorem resultAt_unknownCommand_iff (permitted : depth ≤ 32) :
    (dispatcher.resultAt depth request state).outcome =
        .ok (.error (.unknownCommand request.name)) ↔
      dispatcher.handlers.find? request.name = none := by
  constructor
  · intro isUnknown
    rcases dispatcher.admits_or_refuses depth request with ⟨handler, argument, admitted⟩ | refused
    · rw [resultAt_of_admits admitted] at isUnknown
      exact absurd isUnknown (settle_ne_unknownCommand _ _)
    · obtain ⟨refusal, refused⟩ := refused
      rw [(resultAt_of_refuses refused state).1] at isUnknown
      cases refused with
      | tooDeep below => cases isUnknown
      | unknownCommand _ unknown => exact unknown
      | argument _ _ _ => cases isUnknown
  · intro unknown
    exact (resultAt_of_refuses (.unknownCommand permitted unknown) state).1

/-! ## Panics -/

theorem settle_eq_error_iff {result : WireType} {ending : Ending result.Member} {panic : Panic} :
    settle ending = .error panic ↔ ending = .failed (.unspeakable panic) := by
  cases ending with
  | returned member => simp [settle]
  | failed failure => cases failure <;> simp [settle]
  | panicked panic => simp [settle]

/-- A request passes all checks, and the run of its handler fails with an error that panics when it
is put into words. -/
def FailsUnspeakably (dispatcher : Dispatcher σ) (depth : Nat) (request : Request) (state : σ)
    (panic : Panic) : Prop :=
  ∃ handler argument, dispatcher.Admits depth request handler argument ∧
    (handler.runAt dispatcher depth argument state).outcome = .failed (.unspeakable panic)

/-- This is the one way in which a panic leaves the dispatch of a request. -/
theorem answerAt_eq_panic_iff {panic : Panic} :
    (dispatcher.answerAt depth request state).outcome = .error panic ↔
      dispatcher.FailsUnspeakably depth request state panic := by
  rw [answerAt_outcome, map_eq_error]
  constructor
  · intro panicked
    rcases dispatcher.admits_or_refuses depth request with ⟨handler, argument, admitted⟩ | refused
    · rw [resultAt_of_admits admitted] at panicked
      exact ⟨handler, argument, admitted, settle_eq_error_iff.1 panicked⟩
    · obtain ⟨refusal, refused⟩ := refused
      rw [(resultAt_of_refuses refused state).1] at panicked
      cases panicked
  · rintro ⟨handler, argument, admitted, unspeakable⟩
    rw [resultAt_of_admits admitted]
    exact settle_eq_error_iff.2 unspeakable

/-- A request that no panic leaves is answered with what it comes to. -/
theorem exists_resultAt (speaks : ∀ panic, ¬ dispatcher.FailsUnspeakably depth request state panic) :
    ∃ result, (dispatcher.resultAt depth request state).outcome = .ok result ∧
      (dispatcher.answerAt depth request state).outcome = .ok (.ofResult result) := by
  rw [answerAt_outcome]
  cases came : (dispatcher.resultAt depth request state).outcome with
  | error panic =>
      have panicked : (dispatcher.answerAt depth request state).outcome = .error panic := by
        rw [answerAt_outcome, came]
        rfl
      exact absurd (answerAt_eq_panic_iff.1 panicked) (speaks panic)
  | ok result => exact ⟨result, rfl, rfl⟩

end Dispatcher

end RemoteCall
