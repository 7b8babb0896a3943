import RemoteCall.Proofs.Client.Discrimination
import RemoteCall.Proofs.Client.OverConnection

/-!
Contract: a batch of calls has as many outcomes as its answer has slots.

Owns:
- the answers from which a batch has outcomes, and these outcomes;
- the answers of dispatchers, which have one slot for each argument whatever their handlers do;
- an answer with fewer slots than arguments, from which a batch has outcomes all the same.

A caller does not count the slots. That there is one for each argument, so that arguments and
outcomes can be paired by their places, is what dispatchers keep to and callers rely on.

Does not own: what the slots say.
-/

namespace RemoteCall

set_option autoImplicit false

open Wire

variable {σ τ : Type}

/-! ## Answers of dispatchers -/

section Served

variable {dispatcher : Dispatcher σ} (composed : dispatcher.Composed) {batch : Batch}
  (short : batch.encode.length < 2 ^ 64) {state : σ} {slots : List Bytes}

include composed short

/-- A batch that is answered with slots at all is answered with one for each argument. -/
theorem Dispatcher.length_slots_of_answer {payload : Bytes}
    (answered : (dispatcher.answer ⟨batchName, batch.encode⟩ state).outcome =
      .ok (.success payload)) (payloadShort : payload.length < 2 ^ 64)
    (read : Transferable.decode (List Bytes) payload = .ok slots) :
    slots.length = batch.arguments.length := by
  obtain ⟨outcome, _⟩ :=
    @answerWithin_batch σ dispatcher nestingLimit composed.find?_builtIn.1 batch short state
  have isSuccess := outcome.symm.trans answered
  cases inTurn : (dispatcher.answerInTurn nestingLimit batch.requests state).outcome with
  | error panic =>
      rw [inTurn] at isSuccess
      cases isSuccess
  | ok responses =>
      rw [inTurn] at isSuccess
      cases isSuccess
      rw [decode_listBytes payloadShort] at read
      cases read
      rw [List.length_map, length_of_answerInTurn inTurn, Batch.requests, List.length_map]

/-- So it is in the bytes of the answer. -/
theorem Dispatcher.length_slots_of_serve {answer : Bytes}
    (served : (dispatcher.serve (Request.encode ⟨batchName, batch.encode⟩) state).outcome =
      .ok answer) (answerShort : answer.length < 2 ^ 64)
    (carries : Response.CarriesResult answer (Transferable.type (List Bytes))
      (Transferable.toMember slots)) :
    slots.length = batch.arguments.length := by
  have nameShort : (Utf8.encode batchName).length < 2 ^ 64 := by decide
  have requestShort : Request.Short ⟨batchName, batch.encode⟩ := ⟨nameShort, short⟩
  rw [serve_of_decode (Request.decode_encode requestShort)] at served
  obtain ⟨response, answered, rfl⟩ := map_eq_ok.1 served
  have responseShort := Response.short_of_encode answerShort
  obtain ⟨payload, decoded, read⟩ := carries
  rw [Response.decode_encode responseShort] at decoded
  cases decoded
  exact length_slots_of_answer composed short answered responseShort
    (Transferable.decode_eq_ok.2 read)

end Served

/-! ## Outcomes -/

namespace Client

variable {transport : Transport τ} {command : Command} {arguments : List Value}
  {written : List Bytes} {state next : τ}

/-- A batch has outcomes exactly if it is answered with slots, and these are its outcomes. -/
theorem invokeEach_eq_ok_iff (areWritten : AreWritten arguments written)
    {outcomes : List (Except CallFailure command.result.Member)} :
    invokeEach transport command arguments state = (.ok (.ok outcomes), next) ↔
      ∃ answer slots, transport.exchange
          (Request.encode ⟨batchName, Batch.encode ⟨command.name, written⟩⟩) state =
            (.ok (.ok answer), next) ∧
        Response.CarriesResult answer (Transferable.type (List Bytes))
          (Transferable.toMember slots) ∧
        outcomes = outcomesOfSlots command.result slots := by
  rw [invokeEach_of_written transport command areWritten, Transport.ask_ok]
  obtain ⟨brought, left⟩ := transport.exchange
    (Request.encode ⟨batchName, Batch.encode ⟨command.name, written⟩⟩) state
  constructor
  · intro asked
    obtain ⟨outcome, rfl⟩ := Prod.mk.inj asked
    obtain ⟨concluded, isConcluded, isOutcome⟩ := map_eq_ok.1 outcome
    obtain ⟨exchanged, rfl, rfl⟩ := map_eq_ok.1 isConcluded
    obtain ⟨result, isResult, rfl⟩ := map_eq_ok.1 isOutcome
    obtain ⟨answer, rfl, carries⟩ :=
      ((discriminates_resultOf exchanged _).result result).1 isResult
    refine ⟨answer, Transferable.ofMember result, rfl, ?_, rfl⟩
    rw [Transferable.toMember_ofMember]
    exact carries
  · rintro ⟨answer, slots, carried, carries, rfl⟩
    cases carried
    have isResult := ((discriminates_resultOf (.ok answer) _).result _).2 ⟨answer, rfl, carries⟩
    simp only [Except.map, isResult, Transferable.ofMember_toMember]

/-! ## As many outcomes as slots -/

/-- Over every transport and whatever it brings, a batch has one outcome for each slot of the
answer, so one for each argument exactly if the answer has as many slots. The answers of a
dispatcher have: whatever its handlers do and in whatever state it is, a batch that has outcomes
from such an answer has one for each argument. An answer of another origin may have more slots or
fewer, and the outcomes are then as many. -/
theorem invokeEach_countsSlots (transport : Transport τ) (command : Command)
    {arguments : List Value} {written : List Bytes} (areWritten : AreWritten arguments written)
    (batchShort : (Batch.encode ⟨command.name, written⟩).length < 2 ^ 64) (state : τ) :
    let request := Request.encode ⟨batchName, Batch.encode ⟨command.name, written⟩⟩
    (∀ answer slots next, transport.exchange request state = (.ok (.ok answer), next) →
      Response.CarriesResult answer (Transferable.type (List Bytes))
        (Transferable.toMember slots) →
      invokeEach transport command arguments state =
        (.ok (.ok (outcomesOfSlots command.result slots)), next)) ∧
    ∀ outcomes next, invokeEach transport command arguments state = (.ok (.ok outcomes), next) →
      ∃ answer slots, transport.exchange request state = (.ok (.ok answer), next) ∧
        Response.CarriesResult answer (Transferable.type (List Bytes))
          (Transferable.toMember slots) ∧
        outcomes.length = slots.length ∧
        ∀ (σ : Type) (dispatcher : Dispatcher σ) (before : σ), dispatcher.Composed →
          (dispatcher.serve request before).outcome = .ok answer → answer.length < 2 ^ 64 →
          outcomes.length = arguments.length := by
  intro request
  constructor
  · intro answer slots next carried carries
    exact (invokeEach_eq_ok_iff areWritten).2 ⟨answer, slots, carried, carries, rfl⟩
  · intro outcomes next called
    obtain ⟨answer, slots, carried, carries, rfl⟩ := (invokeEach_eq_ok_iff areWritten).1 called
    have count : (outcomesOfSlots command.result slots).length = slots.length := List.length_map _
    refine ⟨answer, slots, carried, carries, count, ?_⟩
    intro σ dispatcher before composed served answerShort
    rw [count, Dispatcher.length_slots_of_serve composed batchShort served answerShort carries,
      areWritten.length_eq]

/-- The notepad answers a batch of two notes. -/
theorem invokeEach_countsSlots_notes :
    let command : Command := ⟨"Note", .text, .unit⟩
    let called := invokeEach Transport.inProcess command [.text "a", .text "b"] Sample.notepad
    AreWritten [.text "a", .text "b"] [[1, 97], [1, 98]] ∧ Sample.notepad.dispatcher.Composed ∧
      ∃ outcomes, called.1 = .ok (.ok outcomes) ∧ outcomes.length = 2 := by
  intro command called
  have areWritten : AreWritten [.text "a", .text "b"] [[1, 97], [1, 98]] :=
    .cons rfl (.cons rfl .nil)
  have batchShort : (Batch.encode ⟨"Note", [[1, 97], [1, 98]]⟩).length < 2 ^ 64 := by decide
  obtain ⟨fromSlots, toSlots⟩ :=
    invokeEach_countsSlots Transport.inProcess command areWritten batchShort Sample.notepad
  let request := Request.encode ⟨batchName, Batch.encode ⟨"Note", [[1, 97], [1, 98]]⟩⟩
  let answer : Bytes := [1, 11, 2, 4, 0, 2, 1, 97, 4, 0, 2, 1, 98]
  have served : (Sample.notepad.dispatcher.serve request .initial).outcome = .ok answer := by
    decide +kernel
  have servedInProcess : (Sample.notepad.serve request).1 = .ok answer := by decide +kernel
  obtain ⟨next, isServed⟩ : ∃ next, Sample.notepad.serve request = (.ok answer, next) :=
    ⟨(Sample.notepad.serve request).2, Prod.ext servedInProcess rfl⟩
  have carried := Transport.exchange_inProcess_of_served isServed
  have read : Transferable.decode (List Bytes) [2, 4, 0, 2, 1, 97, 4, 0, 2, 1, 98] =
      .ok [[0, 2, 1, 97], [0, 2, 1, 98]] := by decide +kernel
  have asked := fromSlots answer _ next carried
    ⟨_, by decide +kernel, Transferable.decode_eq_ok.1 read⟩
  obtain ⟨other, _, sameCarried, _, _, asMany⟩ := toSlots _ next asked
  obtain rfl : answer = other := by
    have same := carried.symm.trans sameCarried
    cases same
    rfl
  exact ⟨areWritten, Sample.composed_notepad, _, congrArg Prod.fst asked,
    asMany _ _ _ Sample.composed_notepad served (by decide)⟩

/-- An answer without slots, to a batch of two. It is taken for the outcomes of the batch. -/
theorem invokeEach_noSlots :
    let command : Command := ⟨"Double", .integer .i64, .integer .i64⟩
    let called := invokeEach Transport.canned command [.integer .i64 1, .integer .i64 2]
      [.ok [1, 1, 0]]
    AreWritten [.integer .i64 1, .integer .i64 2] [[2], [4]] ∧ called = (.ok (.ok []), []) := by
  intro command called
  have areWritten : AreWritten [.integer .i64 1, .integer .i64 2] [[2], [4]] :=
    .cons rfl (.cons rfl .nil)
  have read : Transferable.decode (List Bytes) [0] = .ok [] := by decide +kernel
  refine ⟨areWritten, (invokeEach_eq_ok_iff areWritten).2 ⟨[1, 1, 0], [], rfl, ?_, rfl⟩⟩
  exact ⟨[0], by decide +kernel, Transferable.decode_eq_ok.1 read⟩

end Client

end RemoteCall
