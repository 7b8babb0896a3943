import Mathlib.Data.List.Forall2
import RemoteCall.Proofs.Dispatch.Workload

/-!
Contract: the answers that come about while a request is served, and the ones that can be read off
its answer.

Owns:
- the requests that are answered on account of one, in the order in which their answers come about;
- a batch, in any spelling: what it dispatches, and the responses to it that its answer carries;
- the answers inside an answer, slot by slot and to any depth, each of which came about, and all of
  which did where only batches dispatch.

A request is answered after those that it dispatches, so its answer comes last. What a handler
dispatches and does not pass on can be seen in no slot.

Does not own: what the answers say.
-/

namespace RemoteCall

set_option autoImplicit false

open Wire

variable {σ : Type}

/-! ## Answers that come about -/

namespace Dispatcher

variable {dispatcher : Dispatcher σ} {depth : Nat} {request : Request} {state : σ}

/-- A request with its response, unless a panic leaves its dispatch. -/
def ownAnswer (dispatcher : Dispatcher σ) (depth : Nat) (request : Request) (state : σ) :
    List (Request × Response) :=
  match (dispatcher.answerAt depth request state).outcome with
  | .ok response => [(request, response)]
  | .error _ => []

/-- The requests that are answered on account of one in up to `levels` levels below it, each with
its response: those that it dispatches with theirs, in their order, and then the request itself. -/
def answersWithin (dispatcher : Dispatcher σ) :
    (levels depth : Nat) → Request → σ → List (Request × Response)
  | 0, depth, request, state => dispatcher.ownAnswer depth request state
  | levels + 1, depth, request, state =>
      ((dispatcher.dispatchedFrom depth request state).flatMap fun served =>
        dispatcher.answersWithin levels (depth + 1) served.1 served.2) ++
          dispatcher.ownAnswer depth request state

/-- The same in all levels that are permitted. -/
def answersAt (dispatcher : Dispatcher σ) (depth : Nat) :
    Request → σ → List (Request × Response) :=
  dispatcher.answersWithin (nestingLimit + 1 - depth) depth

theorem ownAnswer_of_answered {response : Response}
    (answered : (dispatcher.answerAt depth request state).outcome = .ok response) :
    dispatcher.ownAnswer depth request state = [(request, response)] := by
  rw [ownAnswer, answered]

theorem answersAt_eq (dispatcher : Dispatcher σ) (depth : Nat) (request : Request) (state : σ) :
    dispatcher.answersAt depth request state =
      ((dispatcher.dispatchedFrom depth request state).flatMap fun served =>
        dispatcher.answersAt (depth + 1) served.1 served.2) ++
          dispatcher.ownAnswer depth request state := by
  by_cases permitted : depth ≤ 32
  · have levels : nestingLimit + 1 - depth = nestingLimit + 1 - (depth + 1) + 1 := by
      unfold nestingLimit
      omega
    rw [answersAt, levels, answersWithin]
    rfl
  · have below : 32 < depth := Nat.lt_of_not_le permitted
    have noLevels : nestingLimit + 1 - depth = 0 := Nat.sub_eq_zero_of_le below
    rw [answersAt, noLevels, answersWithin, dispatchedFrom_of_refuses (.tooDeep below)]
    rfl

/-- What holds of all answers that come about holds of those on account of a dispatched request. -/
theorem mem_answersAt_of_dispatched {served : Request × σ} {answered : Request × Response}
    (isDispatched : served ∈ dispatcher.dispatchedFrom depth request state)
    (found : answered ∈ dispatcher.answersAt (depth + 1) served.1 served.2) :
    answered ∈ dispatcher.answersAt depth request state := by
  rw [answersAt_eq]
  exact List.mem_append_left _ (List.mem_flatMap.2 ⟨served, isDispatched, found⟩)

theorem mem_answersAt_self {response : Response}
    (answered : (dispatcher.answerAt depth request state).outcome = .ok response) :
    (request, response) ∈ dispatcher.answersAt depth request state := by
  rw [answersAt_eq, ownAnswer_of_answered answered]
  exact List.mem_append_right _ List.mem_cons_self

/-- The requests that a request can dispatch end at the nesting limit, so that a property of all
requests follows for each from those that it dispatches. -/
theorem dispatched_induction (dispatcher : Dispatcher σ) {motive : Nat → Request → σ → Prop}
    (step : ∀ depth request state,
      (∀ served ∈ dispatcher.dispatchedFrom depth request state,
        motive (depth + 1) served.1 served.2) → motive depth request state)
    (depth : Nat) (request : Request) (state : σ) : motive depth request state := by
  obtain ⟨levels, enough⟩ : ∃ levels, 33 ≤ depth + levels := ⟨33, Nat.le_add_left 33 depth⟩
  induction levels generalizing depth request state with
  | zero =>
      have below : 32 < depth := enough
      refine step depth request state fun served isDispatched => ?_
      rw [dispatchedFrom_of_refuses (.tooDeep below)] at isDispatched
      cases isDispatched
  | succ levels inductionHypothesis =>
      exact step depth request state fun served _ =>
        inductionHypothesis (depth + 1) served.1 served.2 (by omega)

end Dispatcher

/-! ## Batches -/

/-- If its requests are answered in every state, a batch dispatches all of them, and returns the
bytes of the responses. -/
theorem Batch.run_respond (names : List String)
    {serve : Request → σ → Run σ (Except Panic Response)} {command : String}
    (answers : ∀ args state, ∃ response, (serve ⟨command, args⟩ state).outcome = .ok response)
    (arguments : List Bytes) (state : σ) :
    let dispatched := (respond command arguments).dispatched names serve state
    ∃ responses,
      ((respond command arguments).run names serve state).outcome =
        .returned (responses.map Response.encode) ∧
      dispatched.map Prod.fst = requests ⟨command, arguments⟩ ∧
      List.Forall₂ (fun served response => (serve served.1 served.2).outcome = .ok response)
        dispatched responses := by
  induction arguments generalizing state with
  | nil => exact ⟨[], rfl, rfl, .nil⟩
  | cons args others inductionHypothesis =>
      have step : (respond command (args :: others) : Program σ (List Bytes)) =
        .dispatch ⟨command, args⟩ fun response =>
          (respond command others).bind fun slots =>
            .done (.returned (response.encode :: slots)) := rfl
      obtain ⟨response, answered⟩ := answers args state
      obtain ⟨responses, ran, upTo, each⟩ := inductionHypothesis (serve ⟨command, args⟩ state).state
      intro dispatched
      refine ⟨response :: responses, ?_, ?_, ?_⟩
      · rw [step, Program.run]
        simp only [answered, Program.run_bind, ran]
        rfl
      · subst dispatched
        rw [step, Program.dispatched]
        simp only [answered, Program.dispatched_bind_done, List.map_cons, upTo]
        rfl
      · subst dispatched
        rw [step, Program.dispatched]
        simp only [answered, Program.dispatched_bind_done]
        exact .cons answered each

namespace Dispatcher

variable {dispatcher : Dispatcher σ} {depth : Nat} {request : Request}

/-- A batch that is read, in whatever spelling, is answered with the responses to the requests that
it dispatches. -/
theorem answerAt_batch_of_decode (composed : dispatcher.Composed)
    (noPanicOut : ∀ name, dispatcher.LetsNoPanicOut name) (permitted : depth ≤ 32)
    (isBatch : request.name = batchName) {batch : Batch}
    (decoded : Transferable.decode Batch request.args = .ok batch) (state : σ) :
    ∃ responses,
      (dispatcher.answerAt depth request state).outcome =
        .ok (.success (listBytes (responses.map Response.encode))) ∧
      (dispatcher.dispatchedFrom depth request state).map Prod.fst = batch.requests ∧
      List.Forall₂ (fun served response =>
        (dispatcher.answerAt (depth + 1) served.1 served.2).outcome = .ok response)
        (dispatcher.dispatchedFrom depth request state) responses := by
  have registered : dispatcher.handlers.find? request.name = some .batch := by
    rw [isBatch]
    exact composed.find?_builtIn.1
  have admitted : dispatcher.Admits depth request .batch (Transferable.toMember batch) :=
    ⟨permitted, registered, Transferable.decode_eq_ok.1 decoded⟩
  obtain ⟨responses, returned, upTo, each⟩ := Batch.run_respond dispatcher.names
    (noPanicOut batch.command (depth + 1)) batch.arguments state
  rw [← dispatchedFrom_batch composed permitted isBatch decoded] at upTo each
  refine ⟨responses, ?_, upTo, each⟩
  have ran : (Handler.batch.runAt dispatcher depth (Transferable.toMember batch) state).outcome =
      .returned (Transferable.toMember (responses.map Response.encode)) := by
    have ranAs := Handler.run_of (fun batch : Batch => Batch.respond batch.command batch.arguments)
      batch dispatcher.names (dispatcher.answerAt (depth + 1)) state
    exact (congrArg Run.outcome ranAs).trans (congrArg (Ending.map Transferable.toMember) returned)
  have written : (Transferable.toValue (responses.map Response.encode)).encode =
      .ok (listBytes (responses.map Response.encode)) := encode_bytesList _
  rw [answerAt_outcome, resultAt_of_admits admitted, ran]
  show Except.map Response.ofResult (.ok ((Transferable.toValue
    (responses.map Response.encode)).encode.mapError Refusal.result)) = _
  rw [written]
  rfl

end Dispatcher

/-! ## Answers inside an answer -/

mutual

/-- The answers that can be read off the response to a request: those in the slots of a batch that
succeeded, to any depth, in front of the response itself. -/
inductive Holds : Request → Response → List (Request × Response) → Prop
  | alone {request : Request} {response : Response} :
      (request.name = batchName → response.ok = false) →
      Holds request response [(request, response)]
  | batch {request : Request} {response : Response} {batch : Batch} {responses : List Response}
      {held : List (Request × Response)} : request.name = batchName →
      Transferable.decode Batch request.args = .ok batch → response.CarriesSlots responses →
      HoldEach batch.requests responses held →
      Holds request response (held ++ [(request, response)])

/-- The answers that can be read off the responses to some requests, one after the other. -/
inductive HoldEach : List Request → List Response → List (Request × Response) → Prop
  | nil : HoldEach [] [] []
  | cons {request : Request} {requests : List Request} {response : Response}
      {responses : List Response} {held others : List (Request × Response)} :
      Holds request response held → HoldEach requests responses others →
      HoldEach (request :: requests) (response :: responses) (held ++ others)

end

namespace Dispatcher

variable {dispatcher : Dispatcher σ} {depth : Nat} {request : Request} {state : σ}

/-- The answers that can be read off a response came about on account of the request, in this order,
and where only batches dispatch there were no others. -/
def HoldsAnswers (dispatcher : Dispatcher σ) (depth : Nat) (request : Request) (state : σ)
    (response : Response) : Prop :=
  ∃ held, Holds request response held ∧
    held.Sublist (dispatcher.answersAt depth request state) ∧
    (dispatcher.OnlyBatchesDispatch → held = dispatcher.answersAt depth request state)

theorem exists_holdEach {dispatched : List (Request × σ)} {responses : List Response}
    (each : List.Forall₂ (fun served response =>
      dispatcher.HoldsAnswers depth served.1 served.2 response) dispatched responses) :
    ∃ held, HoldEach (dispatched.map Prod.fst) responses held ∧
      held.Sublist (dispatched.flatMap fun served =>
        dispatcher.answersAt depth served.1 served.2) ∧
      (dispatcher.OnlyBatchesDispatch → held = dispatched.flatMap fun served =>
        dispatcher.answersAt depth served.1 served.2) := by
  induction each with
  | nil => exact ⟨[], .nil, List.Sublist.refl [], fun _ => rfl⟩
  | @cons served response dispatched responses first _ inductionHypothesis =>
      obtain ⟨held, holds, among, all⟩ := first
      obtain ⟨others, holdOthers, othersAmong, allOthers⟩ := inductionHypothesis
      refine ⟨held ++ others, .cons holds holdOthers, ?_, fun quiet => ?_⟩
      · rw [List.flatMap_cons]
        exact among.append othersAmong
      · rw [List.flatMap_cons, all quiet, allOthers quiet]

/-- A response that can only be read as itself. -/
theorem holdsAnswers_alone {response : Response}
    (answered : (dispatcher.answerAt depth request state).outcome = .ok response)
    (alone : request.name = batchName → response.ok = false)
    (dispatchesNothing : dispatcher.OnlyBatchesDispatch →
      dispatcher.dispatchedFrom depth request state = []) :
    dispatcher.HoldsAnswers depth request state response := by
  refine ⟨[(request, response)], .alone alone, ?_, fun quiet => ?_⟩
  · rw [answersAt_eq, ownAnswer_of_answered answered]
    exact List.sublist_append_right _ _
  · rw [answersAt_eq, ownAnswer_of_answered answered, dispatchesNothing quiet]
    rfl

theorem holdsAnswers_of_refuses {refusal : Refusal}
    (refused : dispatcher.Refuses depth request refusal) {response : Response}
    (answered : (dispatcher.answerAt depth request state).outcome = .ok response) :
    dispatcher.HoldsAnswers depth request state response := by
  refine holdsAnswers_alone answered (fun _ => ?_) fun _ => dispatchedFrom_of_refuses refused state
  rw [(answerAt_of_refuses refused state).2.1] at answered
  cases answered
  rfl

/-- What can be read off the response to a batch is what can be read off its slots. -/
theorem holdsAnswers_batch (composed : dispatcher.Composed)
    (noPanicOut : ∀ name, dispatcher.LetsNoPanicOut name) (permitted : depth ≤ 32)
    (isBatch : request.name = batchName) {batch : Batch}
    (decoded : Transferable.decode Batch request.args = .ok batch) {response : Response}
    (answered : (dispatcher.answerAt depth request state).outcome = .ok response)
    (short : response.Short)
    (deeper : ∀ served ∈ dispatcher.dispatchedFrom depth request state, ∀ inner,
      (dispatcher.answerAt (depth + 1) served.1 served.2).outcome = .ok inner →
        dispatcher.HoldsAnswers (depth + 1) served.1 served.2 inner) :
    dispatcher.HoldsAnswers depth request state response := by
  obtain ⟨responses, success, upTo, each⟩ :=
    answerAt_batch_of_decode composed noPanicOut permitted isBatch decoded state
  obtain rfl := Except.ok.inj (answered.symm.trans success)
  have eachHolds : List.Forall₂ (fun served response =>
      dispatcher.HoldsAnswers (depth + 1) served.1 served.2 response)
      (dispatcher.dispatchedFrom depth request state) responses :=
    List.forall₂_iff_get.2 ⟨each.length_eq, fun index inside otherInside =>
      deeper _ (List.get_mem _ _) _ (each.get inside otherInside)⟩
  obtain ⟨held, holdEach, among, all⟩ := exists_holdEach eachHolds
  rw [upTo] at holdEach
  refine ⟨held ++ [(request, _)], .batch isBatch decoded (carriesSlots_of_short short) holdEach,
    ?_, fun quiet => ?_⟩
  · rw [answersAt_eq, ownAnswer_of_answered answered]
    exact among.append (List.Sublist.refl _)
  · rw [answersAt_eq, ownAnswer_of_answered answered, all quiet]

/-- What can be read off an answer is what came about, if all lengths in it can be written. -/
theorem holdsAnswers (composed : dispatcher.Composed)
    (noPanicOut : ∀ name, dispatcher.LetsNoPanicOut name) (depth : Nat) (request : Request)
    (state : σ) :
    (∀ answered ∈ dispatcher.answersAt depth request state, answered.2.Short) →
    ∀ response, (dispatcher.answerAt depth request state).outcome = .ok response →
      dispatcher.HoldsAnswers depth request state response := by
  induction depth, request, state using dispatcher.dispatched_induction with
  | step depth request state deeper =>
      intro short response answered
      by_cases isBatch : request.name = batchName
      · by_cases permitted : depth ≤ 32
        · cases decoded : Transferable.decode Batch request.args with
          | error error =>
              exact holdsAnswers_of_refuses (composed.refuses_batch permitted isBatch decoded)
                answered
          | ok batch =>
              exact holdsAnswers_batch composed noPanicOut permitted isBatch decoded answered
                (short _ (mem_answersAt_self answered)) fun served isDispatched =>
                  deeper served isDispatched fun inner found =>
                    short inner (mem_answersAt_of_dispatched isDispatched found)
        · exact holdsAnswers_of_refuses (.tooDeep (Nat.lt_of_not_le permitted)) answered
      · exact holdsAnswers_alone answered (fun named => absurd named isBatch) fun quiet =>
          quiet.dispatchedFrom_eq_nil composed isBatch state

end Dispatcher

end RemoteCall
