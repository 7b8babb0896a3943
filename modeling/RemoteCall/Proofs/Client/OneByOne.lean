import Mathlib.Data.List.Forall2
import RemoteCall.Proofs.Client.InProcess
import RemoteCall.Proofs.Dispatch.Batch
import RemoteCall.Proofs.Dispatch.Containment

/-!
Contract: a batch of calls comes to what the calls come to one by one.

Owns:
- calls of a command made one after the other;
- both ways of calling in terms of requests that the server serves in turn;
- their agreement, for commands that dispatch nothing themselves.

Does not own: batches inside batches.
-/

namespace RemoteCall

set_option autoImplicit false

open Wire

variable {σ : Type}

namespace Client

/-- Calls a command with each of some arguments, one call after the other. -/
def invokeInTurn {τ : Type} (transport : Transport τ) (command : Command) :
    List Value → τ → List (Attempt command.result.Member) × τ
  | [], state => ([], state)
  | argument :: arguments, state =>
      let first := invoke transport command argument state
      let others := invokeInTurn transport command arguments first.2
      (first.1 :: others.1, others.2)

theorem invokeInTurn_cons {τ : Type} {transport : Transport τ} {command : Command}
    {argument : Value} {state next : τ} {outcome : Attempt command.result.Member}
    (called : invoke transport command argument state = (outcome, next))
    (arguments : List Value) :
    invokeInTurn transport command (argument :: arguments) state =
      (outcome :: (invokeInTurn transport command arguments next).1,
        (invokeInTurn transport command arguments next).2) := by
  rw [invokeInTurn]
  simp only [called]

/-- What callers see of responses, each by itself. -/
def outcomesOf (type : WireType) (responses : List Response) :
    List (Except CallFailure type.Member) :=
  responses.map (·.toResult type)

/-- As many byte strings as arguments, each of which is what is written for its argument. -/
abbrev AreWritten (arguments : List Value) (written : List Bytes) : Prop :=
  List.Forall₂ (fun argument args => argument.encode = .ok args) arguments written

/-- Calls that are made one after the other come to what the server answers in turn, if it answers
alike from outside and from within a batch. -/
theorem invokeInTurn_inProcess (server : Server σ) (command : Command) {arguments : List Value}
    {written : List Bytes} (areWritten : AreWritten arguments written)
    (requestShort : ∀ args ∈ written, Request.Short ⟨command.name, args⟩)
    (alike : ∀ args state, server.dispatcher.answer ⟨command.name, args⟩ state =
      server.dispatcher.answerWithin nestingLimit ⟨command.name, args⟩ state)
    {responses : List Response}
    (answered : (server.dispatcher.answerInTurn nestingLimit
      (Batch.requests ⟨command.name, written⟩) server.state).outcome = .ok responses)
    (responsesShort : ∀ response ∈ responses, response.Short) :
    let called := invokeInTurn Transport.inProcess command arguments server
    called.1 = (outcomesOf command.result responses).map .ok ∧
      called.2.dispatcher = server.dispatcher ∧
      called.2.state = (server.dispatcher.answerInTurn nestingLimit
        (Batch.requests ⟨command.name, written⟩) server.state).state := by
  induction areWritten generalizing server responses with
  | nil =>
      cases answered
      exact ⟨rfl, rfl, rfl⟩
  | @cons argument args arguments others isWritten areWritten inductionHypothesis =>
      rcases List.forall_mem_cons.1 requestShort with ⟨firstRequestShort, othersRequestShort⟩
      rcases Dispatcher.answerInTurn_cons_eq_ok answered with
        ⟨response, otherResponses, isResponse, areResponses, rfl⟩
      rcases List.forall_mem_cons.1 responsesShort with ⟨responseShort, otherResponsesShort⟩
      -- the first call leaves the server that the others are made to
      have firstAnswered : (server.answer ⟨command.name, args⟩).1 = .ok response := by
        rw [← isResponse, ← alike]
        rfl
      have firstCalled : invoke Transport.inProcess command argument server =
          (.ok (response.toResult command.result), (server.answer ⟨command.name, args⟩).2) :=
        call_inProcess_of_answered isWritten firstRequestShort firstAnswered responseShort _
      have leftState : (server.answer ⟨command.name, args⟩).2.state =
          (server.dispatcher.answerWithin nestingLimit ⟨command.name, args⟩
            server.state).state := by
        rw [← alike]
        rfl
      rw [← leftState] at areResponses
      obtain ⟨othersCalled, sameDispatcher, othersState⟩ :=
        inductionHypothesis (server.answer ⟨command.name, args⟩).2 othersRequestShort alike
          areResponses otherResponsesShort
      rw [invokeInTurn_cons firstCalled, othersCalled]
      refine ⟨rfl, sameDispatcher, othersState.trans ?_⟩
      rw [leftState]
      exact (Dispatcher.answerInTurn_cons isResponse
        (Batch.requests ⟨command.name, others⟩)).2.symm

/-! ## All at once -/

/-- Arguments that can be written make a batch. -/
theorem ofValues_eq_ok (command : String) {arguments : List Value} {written : List Bytes}
    (areWritten : AreWritten arguments written) :
    Batch.ofValues command arguments = .ok ⟨command, written⟩ := by
  have allWritten : arguments.mapM Value.encodeOrPanic = .ok written := by
    induction areWritten with
    | nil => rfl
    | cons isWritten _ inductionHypothesis =>
        rw [List.mapM_cons, inductionHypothesis, Value.encodeOrPanic, isWritten]
        rfl
  rw [Batch.ofValues, allWritten]
  rfl

/-- A batch of calls comes to what the server answers in turn. -/
theorem invokeEach_inProcess (server : Server σ) (command : Command)
    (builtIn : server.dispatcher.handlers.find? batchName = some .batch)
    {arguments : List Value} {written : List Bytes}
    (areWritten : AreWritten arguments written)
    (batchShort : (Batch.encode ⟨command.name, written⟩).length < 2 ^ 64)
    {responses : List Response}
    (answered : (server.dispatcher.answerInTurn nestingLimit
      (Batch.requests ⟨command.name, written⟩) server.state).outcome = .ok responses)
    (answerShort : (listBytes (responses.map Response.encode)).length < 2 ^ 64) :
    let called := invokeEach Transport.inProcess command arguments server
    called.1 = .ok (.ok (outcomesOf command.result responses)) ∧
      called.2.dispatcher = server.dispatcher ∧
      called.2.state = (server.dispatcher.answerInTurn nestingLimit
        (Batch.requests ⟨command.name, written⟩) server.state).state := by
  obtain ⟨outcome, state⟩ := Dispatcher.answerWithin_batch builtIn batchShort server.state
  rw [answered] at outcome
  have nameShort : (Utf8.encode batchName).length < 2 ^ 64 := by decide
  have slots : Response.toResult (.success (listBytes (responses.map Response.encode)))
      (Transferable.type (List Bytes)) =
        .ok (Transferable.toMember (responses.map Response.encode)) :=
    Response.toResult_success_of_encode (encode_bytesList _) (short_of_listBytes answerShort)
  have answer : call Transport.inProcess batchName
      (Transferable.toValue (Batch.mk command.name written)) (Transferable.type (List Bytes))
        server = (.ok (.ok (Transferable.toMember (responses.map Response.encode))),
          (server.answer ⟨batchName, Batch.encode ⟨command.name, written⟩⟩).2) := by
    rw [← slots]
    exact call_inProcess_of_answered (Batch.encode_eq _) ⟨nameShort, batchShort⟩ outcome
      answerShort _
  have slotOutcomes : (responses.map Response.encode).map (fun slot =>
      Response.resultOfBytes slot command.result) = outcomesOf command.result responses := by
    rw [List.map_map]
    apply List.map_congr_left
    intro response found
    have short := Response.short_of_encode_mem (List.mem_map_of_mem found) answerShort
    show Response.resultOfBytes response.encode command.result = _
    rw [Response.resultOfBytes, Response.decode_encode short]
  intro called
  have called_eq : called = (.ok (.ok (outcomesOf command.result responses)),
      (server.answer ⟨batchName, Batch.encode ⟨command.name, written⟩⟩).2) := by
    show invokeEach Transport.inProcess command arguments server = _
    rw [invokeEach, ofValues_eq_ok command.name areWritten]
    simp only [answer, Transferable.ofMember_toMember, slotOutcomes]
  rw [called_eq]
  exact ⟨rfl, rfl, state⟩

/-- The batched way and the one-by-one way agree. A command whose handler dispatches nothing and
lets no panic out has the same outcome for each argument in both, and both leave the server in the
same state. -/
theorem invokeEach_eq_inTurn (server : Server σ) (composed : server.dispatcher.Composed)
    (command : Command)
    (quiet : ∀ handler, server.dispatcher.handlers.find? command.name = some handler →
      ∀ argument state,
        (handler.body argument).DispatchesNothing server.dispatcher.names state)
    (noPanicOut : server.dispatcher.LetsNoPanicOut command.name)
    {arguments : List Value} {written : List Bytes}
    (areWritten : AreWritten arguments written)
    (batchShort : (Batch.encode ⟨command.name, written⟩).length < 2 ^ 64)
    (answerShort : ∀ response,
      (server.answer ⟨batchName, Batch.encode ⟨command.name, written⟩⟩).1 = .ok response →
        response.Short) :
    let together := invokeEach Transport.inProcess command arguments server
    let inTurn := invokeInTurn Transport.inProcess command arguments server
    ∃ outcomes : List (Except CallFailure command.result.Member),
      together.1 = .ok (.ok outcomes) ∧ outcomes.length = arguments.length ∧
      inTurn.1 = outcomes.map .ok ∧
      together.2.state = inTurn.2.state ∧
      together.2.dispatcher = server.dispatcher ∧ inTurn.2.dispatcher = server.dispatcher := by
  obtain ⟨builtIn, _⟩ := composed.find?_builtIn
  obtain ⟨responses, answered⟩ : ∃ responses, (server.dispatcher.answerInTurn nestingLimit
      (Batch.requests ⟨command.name, written⟩) server.state).outcome = .ok responses :=
    Dispatcher.exists_answerInTurn noPanicOut 1 server.state
  have listShort : (listBytes (responses.map Response.encode)).length < 2 ^ 64 := by
    obtain ⟨outcome, _⟩ := Dispatcher.answerWithin_batch builtIn batchShort server.state
    rw [answered] at outcome
    exact answerShort _ outcome
  have alike : ∀ args state, server.dispatcher.answer ⟨command.name, args⟩ state =
      server.dispatcher.answerWithin nestingLimit ⟨command.name, args⟩ state :=
    fun args state => Dispatcher.answerWithin_eq_of_dispatchesNothing quiet _ _ state
  have responsesShort : ∀ response ∈ responses, response.Short := fun response found =>
    Response.short_of_encode_mem (List.mem_map_of_mem found) listShort
  obtain ⟨together, togetherDispatcher, togetherState⟩ :=
    invokeEach_inProcess server command builtIn areWritten batchShort answered listShort
  obtain ⟨inTurn, inTurnDispatcher, inTurnState⟩ :=
    invokeInTurn_inProcess server command areWritten (fun _ => Batch.short_request batchShort) alike
      answered responsesShort
  refine ⟨outcomesOf command.result responses, together, ?_, inTurn, ?_, togetherDispatcher,
    inTurnDispatcher⟩
  · rw [outcomesOf, List.length_map, Dispatcher.length_of_answerInTurn answered, Batch.requests,
      List.length_map, areWritten.length_eq]
  · rw [togetherState, inTurnState]

theorem invokeEach_notes :
    let command : Command := ⟨"Note", .text, .unit⟩
    let together := invokeEach Transport.inProcess command [.text "a", .text "b"] Sample.notepad
    let inTurn := invokeInTurn Transport.inProcess command [.text "a", .text "b"] Sample.notepad
    Sample.notepad.dispatcher.Composed ∧ Sample.notepad.dispatcher.LetsNoPanicOut "Note" ∧
      AreWritten [.text "a", .text "b"] [[1, 97], [1, 98]] ∧
      ∃ outcomes : List (Except CallFailure WireType.unit.Member),
        together.1 = .ok (.ok outcomes) ∧ outcomes.length = 2 ∧
        inTurn.1 = outcomes.map .ok ∧ together.2.state = inTurn.2.state := by
  have quiet : ∀ handler, Sample.notepad.dispatcher.handlers.find? "Note" = some handler →
      ∀ argument state,
        (handler.body argument).DispatchesNothing Sample.notepad.dispatcher.names state := by
    intro handler found argument state
    cases found
    trivial
  have noPanicOut := Sample.speaks_notepad.letsNoPanicOut "Note"
  have areWritten : AreWritten [.text "a", .text "b"] [[1, 97], [1, 98]] :=
    .cons rfl (.cons rfl .nil)
  have batchShort : (Batch.encode ⟨"Note", [[1, 97], [1, 98]]⟩).length < 2 ^ 64 := by decide
  have answerLength : (Sample.notepad.answer ⟨batchName,
      Batch.encode ⟨"Note", [[1, 97], [1, 98]]⟩⟩).1.toOption.map (·.payload.length) = some 11 := by
    decide +kernel
  have answerShort := Response.short_of_length answerLength (by decide)
  obtain ⟨outcomes, together, length, inTurn, state, _⟩ :=
    invokeEach_eq_inTurn Sample.notepad Sample.composed_notepad ⟨"Note", .text, .unit⟩ quiet
      noPanicOut areWritten batchShort answerShort
  exact ⟨Sample.composed_notepad, noPanicOut, areWritten, outcomes, together, length, inTurn, state⟩

end Client

end RemoteCall
