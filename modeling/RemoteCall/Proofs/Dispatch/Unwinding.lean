import RemoteCall.Proofs.Dispatch.Execution
import RemoteCall.Proofs.Dispatch.Isolation
import RemoteCall.Proofs.Dispatch.Serving

/-!
Contract: a panic is caught by the handler call that is next around it, and goes no further.

Owns:
- the requests that a program dispatches when it is run, each with the state in which it does, and
  the handlers that are run for them;
- the panic that a dispatched request lets out, which ends the program that dispatched it;
- the panics that leave the dispatch of a request, and what all others are answered with;
- the elements of a batch that are served up to the first one that lets a panic out.

A request lets a panic out only after its handler was run, when the error of the run is put into
words. So a panic passes at most one handler call on its way to the one that catches it.

Does not own: panics that nobody catches.
-/

namespace RemoteCall

set_option autoImplicit false

open Wire

variable {σ α β : Type}

/-! ## Requests that a program dispatches -/

namespace Program

/-- The requests that a program dispatches when it is run from a state, in their order, each with
the state in which it is dispatched. -/
def dispatched (names : List String) (serve : Request → σ → Run σ (Except Panic Response)) :
    Program σ α → σ → List (Request × σ)
  | .done _, _ => []
  | .readState next, state => (next state).dispatched names serve state
  | .writeState written next, _ => next.dispatched names serve written
  | .readNames next, state => (next names).dispatched names serve state
  | .dispatch request next, state =>
      let served := serve request state
      (request, state) ::
        match served.outcome with
        | .error _ => []
        | .ok response => (next response).dispatched names serve served.state

variable {names : List String} {serve : Request → σ → Run σ (Except Panic Response)}

/-- A panic that a dispatched request lets out ends the program, in the state that this request
leaves. -/
theorem run_of_mem_dispatched {program : Program σ α} {state before : σ} {request : Request}
    {panic : Panic} (isDispatched : (request, before) ∈ program.dispatched names serve state)
    (letOut : (serve request before).outcome = .error panic) :
    (program.run names serve state).outcome = .panicked panic ∧
      (program.run names serve state).state = (serve request before).state ∧
      (program.dispatched names serve state).getLast? = some (request, before) := by
  induction program generalizing state with
  | done ending => cases isDispatched
  | readState next inductionHypothesis => exact inductionHypothesis state isDispatched
  | writeState written next inductionHypothesis => exact inductionHypothesis isDispatched
  | readNames next inductionHypothesis => exact inductionHypothesis names isDispatched
  | dispatch first next inductionHypothesis =>
      rw [dispatched] at isDispatched ⊢
      rw [run]
      cases served : (serve first state).outcome with
      | error thrown =>
          rw [served] at isDispatched
          cases List.mem_singleton.1 isDispatched
          rw [served] at letOut
          cases letOut
          exact ⟨rfl, rfl, rfl⟩
      | ok response =>
          rw [served] at isDispatched
          simp only at isDispatched ⊢
          rcases List.mem_cons.1 isDispatched with isFirst | isLater
          · cases isFirst
            rw [served] at letOut
            cases letOut
          · obtain ⟨outcome, leftState, isLast⟩ := inductionHypothesis response isLater
            refine ⟨outcome, leftState, ?_⟩
            rw [List.getLast?_cons, isLast]
            rfl

/-- What a program makes of its result dispatches nothing. -/
theorem dispatched_bind_done {ending : α → Ending β} (program : Program σ α) (state : σ) :
    (program.bind fun result => .done (ending result)).dispatched names serve state =
      program.dispatched names serve state := by
  induction program generalizing state with
  | done first => cases first <;> rfl
  | readState next inductionHypothesis => exact inductionHypothesis state state
  | writeState written next inductionHypothesis => exact inductionHypothesis written
  | readNames next inductionHypothesis => exact inductionHypothesis names state
  | dispatch request next inductionHypothesis =>
      rw [bind, dispatched, dispatched]
      cases (serve request state).outcome with
      | error panic => rfl
      | ok response => simp only [inductionHypothesis]

/-- The handlers that are run for a program are those that are run for what it dispatches. -/
theorem invocations_eq_flatMap {invoked : Request → σ → List Invocation} (program : Program σ α)
    (state : σ) :
    program.invocations names serve invoked state =
      (program.dispatched names serve state).flatMap fun served => invoked served.1 served.2 := by
  induction program generalizing state with
  | done ending => rfl
  | readState next inductionHypothesis => exact inductionHypothesis state state
  | writeState written next inductionHypothesis => exact inductionHypothesis written
  | readNames next inductionHypothesis => exact inductionHypothesis names state
  | dispatch request next inductionHypothesis =>
      rw [invocations, dispatched, List.flatMap_cons]
      cases (serve request state).outcome with
      | error panic => rfl
      | ok response => simp only [inductionHypothesis]

end Program

namespace Dispatcher

variable {dispatcher : Dispatcher σ} {depth : Nat} {request : Request} {state : σ}

/-- The requests that serving a request dispatches from within its handler, each with the state in
which it is dispatched. -/
def dispatchedFrom (dispatcher : Dispatcher σ) (depth : Nat) (request : Request) (state : σ) :
    List (Request × σ) :=
  if 32 < depth then []
  else
    match dispatcher.handlers.find? request.name with
    | none => []
    | some handler =>
        match handler.argument.decode request.args with
        | .error _ => []
        | .ok argument => (handler.body argument).dispatched dispatcher.names
            (dispatcher.answerAt (depth + 1)) state

theorem dispatchedFrom_of_admits {handler : Handler σ} {argument : handler.argument.Member}
    (admitted : dispatcher.Admits depth request handler argument) (state : σ) :
    dispatcher.dispatchedFrom depth request state =
      (handler.body argument).dispatched dispatcher.names (dispatcher.answerAt (depth + 1))
        state := by
  rw [dispatchedFrom, if_neg (Nat.not_lt.2 admitted.permitted), admitted.registered]
  simp only [admitted.decoded]

/-- A request that is refused dispatches nothing. -/
theorem dispatchedFrom_of_refuses {refusal : Refusal}
    (refused : dispatcher.Refuses depth request refusal) (state : σ) :
    dispatcher.dispatchedFrom depth request state = [] := by
  rw [dispatchedFrom]
  cases refused with
  | tooDeep below => rw [if_pos below]
  | unknownCommand permitted unknown => rw [if_neg (Nat.not_lt.2 permitted), unknown]
  | argument permitted registered mismatch =>
      rw [if_neg (Nat.not_lt.2 permitted), registered]
      simp only [mismatch]

/-- A request runs its handler, and then what it dispatches from there runs further ones. -/
theorem invocationsAt_eq_dispatchedFrom {handler : Handler σ} {argument : handler.argument.Member}
    (admitted : dispatcher.Admits depth request handler argument) (state : σ) :
    dispatcher.invocationsAt depth request state =
      ⟨request.name, argument.val⟩ :: (dispatcher.dispatchedFrom depth request state).flatMap
        fun served => dispatcher.invocationsAt (depth + 1) served.1 served.2 := by
  rw [invocationsAt_of_admits admitted, Program.invocations_eq_flatMap,
    dispatchedFrom_of_admits admitted]

/-! ## The handler call that catches a panic -/

/-- A run that panics is answered with the panic's text, in the state that it leaves. -/
theorem answerAt_of_panicked {handler : Handler σ} {argument : handler.argument.Member}
    (admitted : dispatcher.Admits depth request handler argument) {panic : Panic}
    (panicked : (handler.runAt dispatcher depth argument state).outcome = .panicked panic) :
    (dispatcher.answerAt depth request state).outcome =
        .ok (.failure ("command panicked: " ++ panic.message)) ∧
      (dispatcher.answerAt depth request state).state =
        (handler.runAt dispatcher depth argument state).state := by
  rw [answerAt_outcome, answerAt_state, resultAt_of_admits admitted, panicked]
  exact ⟨rfl, rfl⟩

/-- A panic that leaves a request is caught where the handler was called that dispatched it. -/
theorem answerAt_of_mem_dispatchedFrom {inner : Request} {before : σ} {panic : Panic}
    (isDispatched : (inner, before) ∈ dispatcher.dispatchedFrom depth request state)
    (letOut : (dispatcher.answerAt (depth + 1) inner before).outcome = .error panic) :
    (dispatcher.answerAt depth request state).outcome =
        .ok (.failure ("command panicked: " ++ panic.message)) ∧
      (dispatcher.answerAt depth request state).state =
        (dispatcher.answerAt (depth + 1) inner before).state ∧
      (dispatcher.dispatchedFrom depth request state).getLast? = some (inner, before) := by
  rcases dispatcher.admits_or_refuses depth request with ⟨handler, argument, admitted⟩ | refused
  · rw [dispatchedFrom_of_admits admitted] at isDispatched ⊢
    obtain ⟨panicked, leftState, isLast⟩ := Program.run_of_mem_dispatched isDispatched letOut
    obtain ⟨outcome, sameState⟩ := answerAt_of_panicked admitted panicked
    exact ⟨outcome, sameState.trans leftState, isLast⟩
  · obtain ⟨refusal, refused⟩ := refused
    rw [dispatchedFrom_of_refuses refused] at isDispatched
    cases isDispatched

/-! ## Batches -/

/-- A batch dispatches its elements up to the first one that lets a panic out, and no further. -/
theorem dispatched_respond (names : List String) {command : String} {arguments : List Bytes}
    {state : σ} {index : Nat} {element : Request} {panic : Panic}
    (found : (Batch.requests ⟨command, arguments⟩)[index]? = some element)
    (earlierSpeak : ∀ earlier < index,
      dispatcher.SpeaksAt depth (Batch.requests ⟨command, arguments⟩) earlier state)
    (letOut : (dispatcher.answerAt depth element (dispatcher.stateBefore depth
      (Batch.requests ⟨command, arguments⟩) index state)).outcome = .error panic) :
    let dispatched := (Batch.respond command arguments).dispatched names
      (dispatcher.answerAt depth) state
    dispatched.map Prod.fst = (Batch.requests ⟨command, arguments⟩).take (index + 1) ∧
      (element, dispatcher.stateBefore depth (Batch.requests ⟨command, arguments⟩) index state) ∈
        dispatched := by
  induction arguments generalizing state index with
  | nil => cases found
  | cons args others inductionHypothesis =>
      intro dispatched
      have isDispatched : dispatched = (Program.dispatch ⟨command, args⟩ fun response =>
        (Batch.respond command others).bind fun slots =>
          .done (.returned (response.encode :: slots))).dispatched names
            (dispatcher.answerAt depth) state := rfl
      rw [isDispatched, Program.dispatched]
      cases index with
      | zero =>
          cases found
          rw [stateBefore_zero] at letOut
          simp only [letOut]
          exact ⟨rfl, List.mem_cons_self⟩
      | succ index =>
          obtain ⟨result, _, answered⟩ :=
            exists_resultAt (earlierSpeak 0 (Nat.zero_lt_succ index) ⟨command, args⟩ rfl)
          rw [stateBefore_zero] at answered
          have othersSpeak (earlier : Nat) (isEarlier : earlier < index) :
              dispatcher.SpeaksAt depth (Batch.requests ⟨command, others⟩) earlier
                (dispatcher.answerAt depth ⟨command, args⟩ state).state :=
            fun other isOther =>
              earlierSpeak (earlier + 1) (Nat.succ_lt_succ isEarlier) other isOther
          obtain ⟨upTo, isAmong⟩ := inductionHypothesis found othersSpeak letOut
          simp only [answered, List.map_cons, Program.dispatched_bind_done, upTo]
          exact ⟨rfl, List.mem_cons_of_mem _ isAmong⟩

theorem dispatchedFrom_batch (composed : dispatcher.Composed) (permitted : depth ≤ 32)
    (isBatch : request.name = batchName) {batch : Batch}
    (decoded : Transferable.decode Batch request.args = .ok batch) (state : σ) :
    dispatcher.dispatchedFrom depth request state =
      (Batch.respond batch.command batch.arguments).dispatched dispatcher.names
        (dispatcher.answerAt (depth + 1)) state := by
  have registered : dispatcher.handlers.find? request.name = some .batch := by
    rw [isBatch]
    exact composed.find?_builtIn.1
  have admitted : dispatcher.Admits depth request .batch (Transferable.toMember batch) :=
    ⟨permitted, registered, Transferable.decode_eq_ok.1 decoded⟩
  rw [dispatchedFrom_of_admits admitted]
  show (((Batch.respond (Transferable.ofMember (Transferable.toMember batch)).command
    (Transferable.ofMember (Transferable.toMember batch)).arguments).bind fun slots =>
      .done (.returned (Transferable.toMember slots))).dispatched _ _ state) = _
  rw [Program.dispatched_bind_done, Transferable.ofMember_toMember]

/-! ## Catching -/

/-- A panic leaves a request exactly if the request passes all checks and the run of its handler
fails with an error that panics when it is put into words. Every other panic is caught. One of the
handler itself is what the request is answered with, in the state that the run leaves. One that
leaves a request which the handler dispatches, at whatever depth, ends the handler, and is what the
outer request is answered with, in the state that the inner one leaves. So the first element of a
batch that lets a panic out is the last one that is served, and its panic is the answer to the
batch; no handler is run for the elements after it. The bytes of a request let out the panics that
the request lets out. -/
theorem answerAt_catchesPanics (dispatcher : Dispatcher σ) (depth : Nat) (request : Request)
    (state : σ) :
    let answered := dispatcher.answerAt depth request state
    let dispatched := dispatcher.dispatchedFrom depth request state
    (∀ panic, answered.outcome = .error panic ↔
      ∃ handler argument, dispatcher.Admits depth request handler argument ∧
        (handler.runAt dispatcher depth argument state).outcome =
          .failed (.unspeakable panic)) ∧
    (∀ handler argument, dispatcher.Admits depth request handler argument →
      let ran := handler.runAt dispatcher depth argument state
      dispatcher.invocationsAt depth request state = ⟨request.name, argument.val⟩ ::
        dispatched.flatMap (fun served => dispatcher.invocationsAt (depth + 1) served.1 served.2) ∧
      (∀ text, ran.outcome = .panicked (.text text) →
        answered.outcome = .ok (.failure ("command panicked: " ++ text)) ∧
          answered.state = ran.state) ∧
      (ran.outcome = .panicked .other →
        answered.outcome = .ok (.failure "command panicked: unknown panic payload") ∧
          answered.state = ran.state)) ∧
    (∀ inner before panic, (inner, before) ∈ dispatched →
      (dispatcher.answerAt (depth + 1) inner before).outcome = .error panic →
        answered.outcome = .ok (.failure ("command panicked: " ++ panic.message)) ∧
          answered.state = (dispatcher.answerAt (depth + 1) inner before).state ∧
          dispatched.getLast? = some (inner, before)) ∧
    (dispatcher.Composed → depth ≤ 32 → request.name = batchName → ∀ batch index element panic,
      Transferable.decode Batch request.args = .ok batch →
      batch.requests[index]? = some element →
      (∀ earlier < index, dispatcher.SpeaksAt (depth + 1) batch.requests earlier state) →
      let served := dispatcher.answerAt (depth + 1) element
        (dispatcher.stateBefore (depth + 1) batch.requests index state)
      served.outcome = .error panic →
        answered.outcome = .ok (.failure ("command panicked: " ++ panic.message)) ∧
          answered.state = served.state ∧
          dispatched.map Prod.fst = batch.requests.take (index + 1)) ∧
    ∀ input panic, (dispatcher.serve input state).outcome = .error panic ↔
      ∃ request, Request.decode input = .ok request ∧
        (dispatcher.answer request state).outcome = .error panic := by
  refine ⟨fun panic => answerAt_eq_panic_iff, ?_, ?_, ?_, ?_⟩
  · intro handler argument admitted ran
    have caught (panic : Panic) (panicked : ran.outcome = .panicked panic) :=
      answerAt_of_panicked admitted panicked
    have unknownPayload : "command panicked: unknown panic payload" =
        "command panicked: " ++ Panic.other.message := by decide
    rw [unknownPayload]
    exact ⟨invocationsAt_eq_dispatchedFrom admitted state, fun text => caught (.text text),
      caught .other⟩
  · intro inner before panic isDispatched letOut
    exact answerAt_of_mem_dispatchedFrom isDispatched letOut
  · intro composed permitted isBatch batch index element panic decoded found earlierSpeak served
      letOut
    have dispatches := dispatchedFrom_batch composed permitted isBatch decoded state
    obtain ⟨upTo, isAmong⟩ := dispatched_respond dispatcher.names found earlierSpeak letOut
    rw [← dispatches] at upTo isAmong
    obtain ⟨outcome, leftState, _⟩ := answerAt_of_mem_dispatchedFrom isAmong letOut
    exact ⟨outcome, leftState, upTo⟩
  · intro input panic
    constructor
    · intro letOut
      cases decoded : Request.decode input with
      | error error =>
          rw [serve_of_malformed decoded] at letOut
          cases letOut
      | ok spelled =>
          rw [serve_of_decode decoded] at letOut
          exact ⟨spelled, rfl, map_eq_error.1 letOut⟩
    · rintro ⟨spelled, decoded, letOut⟩
      rw [serve_of_decode decoded]
      exact map_eq_error.2 letOut

/-- A batch of three elements, of which the first is refused and the second lets a panic out. The
third is not served, and the panic is the answer to the batch. -/
theorem answerAt_escapingSecond :
    let batch : Batch := ⟨"Escape", [[0], [], []]⟩
    let request : Request := ⟨batchName, batch.encode⟩
    Sample.brittle.Composed ∧ Transferable.decode Batch request.args = .ok batch ∧
      (Sample.brittle.answerAt 0 request .initial).outcome =
        .ok (.failure "command panicked: escaped") ∧
      (Sample.brittle.dispatchedFrom 0 request .initial).map Prod.fst =
        [⟨"Escape", [0]⟩, ⟨"Escape", []⟩] := by
  intro batch request
  have registered : Dispatcher.initial.register "Escape" (.of Sample.escape) =
    .ok Sample.brittle := rfl
  have composed : Sample.brittle.Composed := .register .initial registered
  have decoded : Transferable.decode Batch request.args = .ok batch := by decide +kernel
  obtain ⟨_, _, _, batches, _⟩ :=
    answerAt_catchesPanics Sample.brittle 0 request Sample.State.initial
  have firstSpeaks (earlier : Nat) (isFirst : earlier < 1) :
      Sample.brittle.SpeaksAt 1 batch.requests earlier .initial := by
    obtain rfl : earlier = 0 := Nat.lt_one_iff.1 isFirst
    intro first isFirst panic fails
    cases isFirst
    have refused : (Sample.brittle.answerAt 1 ⟨"Escape", [0]⟩ .initial).outcome =
        .ok (.ofResult (.error (.argument .leftover))) := by decide +kernel
    rw [stateBefore_zero, ← answerAt_eq_panic_iff, refused] at fails
    cases fails
  obtain ⟨outcome, _, upTo⟩ := batches composed (Nat.zero_le 32) rfl batch 1 ⟨"Escape", []⟩
    (.text "escaped") decoded rfl firstSpeaks (by decide +kernel)
  exact ⟨composed, decoded, outcome, upTo⟩

end Dispatcher

end RemoteCall
