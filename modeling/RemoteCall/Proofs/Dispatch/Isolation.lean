import RemoteCall.Proofs.Dispatch.Nesting

/-!
Contract: an element of a batch that fails fails its own slot, and no other.

Owns:
- the state in which each element of a batch is served;
- the answer to a batch, slot by slot, if no panic leaves any of its elements;
- the answer to a batch that a panic leaves: all slots are lost.

Every way of failing but one is turned into a response where the element is served. An error that
panics when it is put into words is not: its panic leaves the element and ends the batch.

Does not own: what each element comes to.
-/

namespace RemoteCall

set_option autoImplicit false

open Wire

variable {σ : Type}

namespace Dispatcher

variable {dispatcher : Dispatcher σ} {depth : Nat}

/-! ## One after the other -/

/-- The state in which one of some requests is served, which those before it leave. -/
def stateBefore (dispatcher : Dispatcher σ) (depth : Nat) (requests : List Request) (index : Nat)
    (state : σ) : σ :=
  dispatcher.stateAfter ((requests.take index).map fun request => (depth, request)) state

theorem stateBefore_zero (requests : List Request) (state : σ) :
    dispatcher.stateBefore depth requests 0 state = state := rfl

/-- No panic leaves the request in this place. -/
def SpeaksAt (dispatcher : Dispatcher σ) (depth : Nat) (requests : List Request) (index : Nat)
    (state : σ) : Prop :=
  ∀ request, requests[index]? = some request → ∀ panic,
    ¬ dispatcher.FailsUnspeakably depth request
      (dispatcher.stateBefore depth requests index state) panic

theorem speaksAt_of_each {requests : List Request}
    (noPanicOut : ∀ request ∈ requests, dispatcher.LetsNoPanicOut request.name)
    (depth index : Nat) (state : σ) : dispatcher.SpeaksAt depth requests index state := by
  intro request found panic fails
  obtain ⟨response, isResponse⟩ := noPanicOut request (List.mem_of_getElem? found) depth
    request.args (dispatcher.stateBefore depth requests index state)
  rw [answerAt_eq_panic_iff.2 fails] at isResponse
  cases isResponse

theorem speaksAt_of_letsNoPanicOut (noPanicOut : ∀ name, dispatcher.LetsNoPanicOut name)
    (depth : Nat) (requests : List Request) (index : Nat) (state : σ) :
    dispatcher.SpeaksAt depth requests index state :=
  speaksAt_of_each (fun request _ => noPanicOut request.name) depth index state

/-- No panic leaves any request of a batch if the batch's command lets none out. -/
theorem speaksAt_requests {batch : Batch} (noPanicOut : dispatcher.LetsNoPanicOut batch.command)
    (depth index : Nat) (state : σ) :
    dispatcher.SpeaksAt depth batch.requests index state :=
  speaksAt_of_each (List.forall_mem_map.2 fun _ _ => noPanicOut) depth index state

/-- What each of some requests comes to, in the state that those before it leave. -/
structure ComesTo (dispatcher : Dispatcher σ) (depth : Nat) (requests : List Request) (state : σ)
    (results : List (Except Refusal Bytes)) : Prop where
  length : results.length = requests.length
  each : ∀ index request result, requests[index]? = some request → results[index]? = some result →
    (dispatcher.resultAt depth request
      (dispatcher.stateBefore depth requests index state)).outcome = .ok result

/-- If no panic leaves any of some requests, each one is answered with what it comes to. -/
theorem answerInTurn_of_speaksAt {requests : List Request} {state : σ}
    (speaks : ∀ index, dispatcher.SpeaksAt depth requests index state) :
    ∃ results, dispatcher.ComesTo depth requests state results ∧
      (dispatcher.answerInTurn (nestingLimit + 1 - depth) requests state).outcome =
        .ok (results.map Response.ofResult) ∧
      (dispatcher.answerInTurn (nestingLimit + 1 - depth) requests state).state =
        dispatcher.stateBefore depth requests requests.length state := by
  induction requests generalizing state with
  | nil => exact ⟨[], ⟨rfl, fun _ _ _ found => by simp at found⟩, rfl, rfl⟩
  | cons request requests inductionHypothesis =>
      obtain ⟨result, isResult, isResponse⟩ := exists_resultAt (speaks 0 request rfl)
      rw [stateBefore_zero] at isResult isResponse
      have othersSpeak (index : Nat) : dispatcher.SpeaksAt depth requests index
          (dispatcher.answerAt depth request state).state :=
        fun other found => speaks (index + 1) other found
      obtain ⟨results, comesTo, responses, leftState⟩ := inductionHypothesis othersSpeak
      obtain ⟨outcome, sameState⟩ := answerInTurn_cons isResponse requests
      refine ⟨result :: results, ⟨?_, ?_⟩, ?_, ?_⟩
      · rw [List.length_cons, List.length_cons, comesTo.length]
      · rintro (_ | index) other otherResult found foundResult
        · cases found
          cases foundResult
          exact isResult
        · exact comesTo.each index other otherResult found foundResult
      · rw [outcome]
        exact congrArg (Except.map (Response.ofResult result :: ·)) responses
      · rw [sameState]
        exact leftState

/-- The first panic that leaves one of some requests ends them all. -/
theorem answerInTurn_of_failsUnspeakably {requests : List Request} {state : σ} {index : Nat}
    {request : Request} {panic : Panic} (found : requests[index]? = some request)
    (earlierSpeak : ∀ earlier < index, dispatcher.SpeaksAt depth requests earlier state)
    (fails : dispatcher.FailsUnspeakably depth request
      (dispatcher.stateBefore depth requests index state) panic) :
    (dispatcher.answerInTurn (nestingLimit + 1 - depth) requests state).outcome = .error panic ∧
      (dispatcher.answerInTurn (nestingLimit + 1 - depth) requests state).state =
        dispatcher.stateBefore depth requests (index + 1) state := by
  induction requests generalizing state index with
  | nil => simp at found
  | cons first requests inductionHypothesis =>
      cases index with
      | zero =>
          cases found
          have panicked := answerAt_eq_panic_iff.2 fails
          rw [stateBefore_zero, answerAt] at panicked
          rw [answerInTurn]
          simp only [panicked, true_and]
          rfl
      | succ index =>
          obtain ⟨result, _, isResponse⟩ :=
            exists_resultAt (earlierSpeak 0 (Nat.zero_lt_succ index) first rfl)
          rw [stateBefore_zero] at isResponse
          have othersSpeak (earlier : Nat) (isEarlier : earlier < index) :
              dispatcher.SpeaksAt depth requests earlier
                (dispatcher.answerAt depth first state).state :=
            fun other isOther => earlierSpeak (earlier + 1) (Nat.succ_lt_succ isEarlier) other isOther
          obtain ⟨othersPanic, leftState⟩ := inductionHypothesis found othersSpeak fails
          obtain ⟨outcome, sameState⟩ := answerInTurn_cons isResponse requests
          rw [outcome, sameState]
          refine ⟨?_, leftState⟩
          exact congrArg (Except.map (Response.ofResult result :: ·)) othersPanic

/-! ## Batches -/

/-- If no panic leaves any element of a batch, the batch succeeds. It has one slot for each element,
in the same order, with the response that says what this element comes to in the state that those
before it leave; a failure is a failure in this slot only. A panic that leaves an element ends the
batch there, and its failure stands for all elements, those that were served before it included. -/
theorem answerAt_batch_isolates (composed : dispatcher.Composed) (permitted : depth ≤ 32)
    (batch : Batch) (short : batch.encode.length < 2 ^ 64) (state : σ) :
    let answered := dispatcher.answerAt depth ⟨batchName, batch.encode⟩ state
    let before index := dispatcher.stateBefore (depth + 1) batch.requests index state
    ((∀ index, dispatcher.SpeaksAt (depth + 1) batch.requests index state) →
      ∃ results, dispatcher.ComesTo (depth + 1) batch.requests state results ∧
        results.length = batch.arguments.length ∧
        answered.outcome = .ok (.success (listBytes
          (results.map fun result => (Response.ofResult result).encode))) ∧
        answered.state = before batch.arguments.length ∧
        ∀ response, answered.outcome = .ok response → response.Short →
          response.CarriesSlots (results.map Response.ofResult)) ∧
    ∀ index request panic, batch.requests[index]? = some request →
      (∀ earlier < index, dispatcher.SpeaksAt (depth + 1) batch.requests earlier state) →
      dispatcher.FailsUnspeakably (depth + 1) request (before index) panic →
        answered.outcome = .ok (.failure ("command panicked: " ++ panic.message)) ∧
        answered.state = before (index + 1) := by
  intro answered before
  have count : batch.requests.length = batch.arguments.length := List.length_map _
  obtain ⟨outcome, leftState⟩ := @answerWithin_batch σ dispatcher (nestingLimit + 1 - (depth + 1))
    composed.find?_builtIn.1 batch short state
  rw [← answerAt_eq_answerWithin permitted] at outcome leftState
  constructor
  · intro speaks
    obtain ⟨results, comesTo, responses, served⟩ := answerInTurn_of_speaksAt speaks
    have isSuccess : answered.outcome = .ok (.success (listBytes
        ((results.map Response.ofResult).map Response.encode))) := by
      rw [outcome, responses]
    refine ⟨results, comesTo, comesTo.length.trans count, ?_, ?_, ?_⟩
    · rw [isSuccess, List.map_map]
      rfl
    · rw [leftState, served, count]
    · intro response isResponse responseShort
      rw [isSuccess] at isResponse
      cases isResponse
      exact carriesSlots_of_short responseShort
  · intro index request panic found earlierSpeak fails
    obtain ⟨panicked, served⟩ := answerInTurn_of_failsUnspeakably found earlierSpeak fails
    rw [outcome, leftState, panicked, served]
    exact ⟨rfl, rfl⟩

/-- Two notes, and bytes between them that are not read as a text. -/
theorem answerAt_notes_isolates :
    let batch : Batch := ⟨"Note", [[1, 97], [5], [1, 98]]⟩
    let answered := Sample.notepad.dispatcher.answerAt 0 ⟨batchName, batch.encode⟩ .initial
    (∃ results, Sample.notepad.dispatcher.ComesTo 1 batch.requests .initial results ∧
      results.length = 3 ∧ answered.outcome = .ok (.success (listBytes
        (results.map fun result => (Response.ofResult result).encode)))) ∧
      answered.outcome = .ok (.success (listBytes ((["a",
        "argument type mismatch: decode error: io error: ", "b"].map Response.failure).map
          Response.encode))) ∧
      answered.state.items = ["a", "b"] := by
  intro batch answered
  obtain ⟨isolated, _⟩ := answerAt_batch_isolates Sample.composed_notepad (Nat.zero_le 32) batch
    (by decide) .initial
  have speaks (index : Nat) : Sample.notepad.dispatcher.SpeaksAt 1 batch.requests index .initial :=
    speaksAt_of_letsNoPanicOut Sample.speaks_notepad.letsNoPanicOut 1 batch.requests index .initial
  obtain ⟨results, comesTo, count, outcome, _, _⟩ := isolated speaks
  exact ⟨⟨results, comesTo, count, outcome⟩, by decide +kernel, by decide +kernel⟩

end Dispatcher

/-- The dispatcher with a command of its own, which fails with an error that panics when it is put
into words. -/
def Sample.brittle : Dispatcher Sample.State :=
  ⟨⟨[(namesName, .names), ("Escape", .of Sample.escape), (batchName, .batch)], by
    have before : NameBefore namesName "Escape" ∧ NameBefore namesName batchName ∧
      NameBefore "Escape" batchName := by decide
    simpa [and_assoc] using before⟩⟩

/-- A batch of two elements. The first fails with an error that panics when it is put into words,
the second one is refused; both slots are lost. -/
theorem Dispatcher.answer_escapingBatch :
    let batch : Batch := ⟨"Escape", [[], [0]]⟩
    Dispatcher.initial.register "Escape" (.of Sample.escape) = .ok Sample.brittle ∧
      Sample.brittle.Composed ∧
      (Sample.brittle.answerAt 1 ⟨"Escape", [0]⟩ .initial).outcome = .ok (.failure
        "argument type mismatch: decode error: Slice had bytes remaining after deserialization") ∧
      (Sample.brittle.answer ⟨batchName, batch.encode⟩ .initial).outcome =
        .ok (.failure "command panicked: escaped") := by
  have registered : Dispatcher.initial.register "Escape" (.of Sample.escape) =
    .ok Sample.brittle := rfl
  exact ⟨registered, .register .initial registered, by decide +kernel, by decide +kernel⟩

end RemoteCall
