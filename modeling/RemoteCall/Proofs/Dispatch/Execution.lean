import RemoteCall.Proofs.Dispatch.Containment
import RemoteCall.Proofs.Dispatch.Result
import RemoteCall.Proofs.Envelope
import RemoteCall.Proofs.Wire.Shortest

/-!
Contract: a request runs its handler once, on its argument, if it passes all checks, and runs
nothing otherwise.

Owns:
- dispatchers whose handlers note each of their runs, and do nothing else differently;
- the handlers that a request runs, in the order in which they start;
- the state after a request, which is what the one run of its handler leaves;
- arguments of batches that are cut off or go on, of which no part is run.

The notes stand beside the state, where no handler can see them. What a handler does may dispatch
further requests, which run handlers of their own; these come after it.

Does not own: the order of the checks.
-/

namespace RemoteCall

set_option autoImplicit false

open Wire

variable {σ α : Type}

/-- A run of a handler: the name that it is registered under, and what it is run on. -/
structure Invocation where
  name : String
  argument : Value
deriving Repr

/-! ## Notes beside the state -/

/-- The program over a state that has notes beside it. It leaves the notes alone. -/
def Program.besideNotes : Program σ α → Program (σ × List Invocation) α
  | .done ending => .done ending
  | .readState next => .readState fun noted => (next noted.1).besideNotes
  | .writeState written next =>
      .readState fun noted => .writeState (written, noted.2) next.besideNotes
  | .readNames next => .readNames fun names => (next names).besideNotes
  | .dispatch request next => .dispatch request fun response => (next response).besideNotes

/-- The handler, which notes each of its runs before anything else. -/
def Handler.noting (handler : Handler σ) (name : String) : Handler (σ × List Invocation) where
  argument := handler.argument
  result := handler.result
  body argument := .readState fun noted =>
    .writeState (noted.1, noted.2 ++ [⟨name, argument.val⟩]) (handler.body argument).besideNotes

/-- The dispatcher, whose handlers note their runs. -/
def Dispatcher.noting (dispatcher : Dispatcher σ) : Dispatcher (σ × List Invocation) where
  handlers := ⟨dispatcher.handlers.entries.map fun entry => (entry.1, entry.2.noting entry.1),
    List.pairwise_map.2 dispatcher.handlers.ascending⟩

/-- A run over a state that has notes beside it. -/
def Run.withNotes (ran : Run σ α) (notes : List Invocation) : Run (σ × List Invocation) α :=
  ⟨ran.outcome, (ran.state, notes), ran.events⟩

/-- The handlers that are run for the requests that a program dispatches. `serve` serves these
requests, and `invoked` says which handlers each of them runs. -/
def Program.invocations (names : List String) (serve : Request → σ → Run σ (Except Panic Response))
    (invoked : Request → σ → List Invocation) : Program σ α → σ → List Invocation
  | .done _, _ => []
  | .readState next, state => (next state).invocations names serve invoked state
  | .writeState written next, _ => next.invocations names serve invoked written
  | .readNames next, state => (next names).invocations names serve invoked state
  | .dispatch request next, state =>
      let served := serve request state
      invoked request state ++
        match served.outcome with
        | .error _ => []
        | .ok response => (next response).invocations names serve invoked served.state

/-- What a program does beside notes is what it does without them, and what is noted meanwhile is
what the requests that it dispatches note. -/
theorem Program.run_besideNotes {names : List String}
    {serve : Request → σ → Run σ (Except Panic Response)}
    {noting : Request → σ × List Invocation → Run (σ × List Invocation) (Except Panic Response)}
    {invoked : Request → σ → List Invocation}
    (notes : ∀ request state before, noting request (state, before) =
      (serve request state).withNotes (before ++ invoked request state))
    (program : Program σ α) (state : σ) (before : List Invocation) :
    program.besideNotes.run names noting (state, before) =
      (program.run names serve state).withNotes
        (before ++ program.invocations names serve invoked state) := by
  induction program generalizing state before with
  | done ending =>
      rw [invocations, List.append_nil]
      rfl
  | readState next inductionHypothesis => exact inductionHypothesis state state before
  | writeState written next inductionHypothesis => exact inductionHypothesis written before
  | readNames next inductionHypothesis => exact inductionHypothesis names state before
  | dispatch request next inductionHypothesis =>
      rw [besideNotes, run, run, invocations, notes]
      simp only [Run.withNotes]
      cases (serve request state).outcome with
      | error panic => simp only [List.append_nil]
      | ok response => simp only [inductionHypothesis, Run.withNotes, List.append_assoc]

namespace Dispatcher

variable {dispatcher : Dispatcher σ} {depth : Nat} {request : Request} {state : σ}

theorem names_noting (dispatcher : Dispatcher σ) : dispatcher.noting.names = dispatcher.names := by
  unfold names noting Registry.names
  simp

/-- A handler is found that notes its runs under the name that it is found by. -/
theorem find?_noting (dispatcher : Dispatcher σ) (name : String) :
    dispatcher.noting.handlers.find? name =
      (dispatcher.handlers.find? name).map fun handler => handler.noting name := by
  cases found : dispatcher.handlers.find? name with
  | none =>
      apply not_mem_names_iff.1
      rw [names_noting]
      exact not_mem_names_iff.2 found
  | some handler =>
      apply Registry.find?_eq_some_iff.2
      exact List.mem_map_of_mem (Registry.find?_eq_some_iff.1 found)

/-- A handler that notes its runs notes this run before those of the requests that it dispatches. -/
theorem run_noting {levels : Nat} {invoked : Request → σ → List Invocation}
    (notes : ∀ request state before, dispatcher.noting.answerWithin levels request (state, before) =
      (dispatcher.answerWithin levels request state).withNotes (before ++ invoked request state))
    (handler : Handler σ) (name : String) (argument : handler.argument.Member) (state : σ)
    (before : List Invocation) :
    ((handler.noting name).body argument).run dispatcher.noting.names
        (dispatcher.noting.answerWithin levels) (state, before) =
      ((handler.body argument).run dispatcher.names (dispatcher.answerWithin levels)
        state).withNotes (before ++ ⟨name, argument.val⟩ :: (handler.body argument).invocations
          dispatcher.names (dispatcher.answerWithin levels) invoked state) := by
  rw [names_noting, List.append_cons]
  exact (handler.body argument).run_besideNotes notes state (before ++ [⟨name, argument.val⟩])

/-! ## Runs of handlers -/

private theorem respond_noted (request : Request) (result : Except Refusal Bytes) (state : σ)
    (events : List Event) (notes : List Invocation) :
    respond request result (state, notes) events =
      (respond request result state events).withNotes notes := by
  cases result <;> rfl

private theorem exists_respond_noted (request : Request) (result : Except Refusal Bytes)
    (state : σ) (events : List Event) :
    ∃ invoked, ∀ before, respond request result (state, before) events =
      (respond request result state events).withNotes (before ++ invoked) :=
  ⟨[], fun before => by rw [List.append_nil, respond_noted]⟩

/-- A dispatcher whose handlers note their runs does what it does without the notes. What it notes
does not depend on the notes that are there. -/
theorem exists_answerWithin_noting (dispatcher : Dispatcher σ) (levels : Nat) (request : Request)
    (state : σ) :
    ∃ invoked, ∀ before, dispatcher.noting.answerWithin levels request (state, before) =
      (dispatcher.answerWithin levels request state).withNotes (before ++ invoked) := by
  induction levels generalizing request state with
  | zero => exact exists_respond_noted _ _ _ _
  | succ levels inductionHypothesis =>
      simp only [answerWithin, find?_noting]
      cases dispatcher.handlers.find? request.name with
      | none => exact exists_respond_noted _ _ _ _
      | some handler =>
          -- a handler that notes its runs takes the same arguments
          have sameType : (handler.noting request.name).argument.decode request.args =
            handler.argument.decode request.args := rfl
          simp only [Option.map_some]
          rw [sameType]
          cases handler.argument.decode request.args with
          | error error => exact exists_respond_noted _ _ _ _
          | ok argument =>
              choose invoked notes using inductionHypothesis
              refine ⟨⟨request.name, argument.val⟩ :: (handler.body argument).invocations
                dispatcher.names (dispatcher.answerWithin levels) invoked state, ?_⟩
              intro before
              simp only [run_noting notes, Run.withNotes]
              generalize (handler.body argument).run dispatcher.names
                (dispatcher.answerWithin levels) state = ended
              have sameSettled : @settle (handler.noting request.name).result ended.outcome =
                settle ended.outcome := rfl
              rw [sameSettled]
              cases settle ended.outcome with
              | error panic => rfl
              | ok result => exact respond_noted _ _ _ _ _

/-- The handlers that serving a request runs, in the order in which they start. They are those that
note their runs. -/
def invocationsAt (dispatcher : Dispatcher σ) (depth : Nat) (request : Request) (state : σ) :
    List Invocation :=
  (dispatcher.noting.answerAt depth request (state, [])).state.2

theorem answerAt_noting (dispatcher : Dispatcher σ) (depth : Nat) (request : Request) (state : σ)
    (before : List Invocation) :
    dispatcher.noting.answerAt depth request (state, before) =
      (dispatcher.answerAt depth request state).withNotes
        (before ++ dispatcher.invocationsAt depth request state) := by
  obtain ⟨invoked, notes⟩ :=
    dispatcher.exists_answerWithin_noting (nestingLimit + 1 - depth) request state
  have isInvoked : dispatcher.invocationsAt depth request state = invoked := by
    rw [invocationsAt, answerAt, notes]
    rfl
  rw [isInvoked]
  exact notes before

theorem invocationsAt_of_refuses {refusal : Refusal}
    (refused : dispatcher.Refuses depth request refusal) :
    dispatcher.invocationsAt depth request state = [] := by
  have refusedNoting : dispatcher.noting.Refuses depth request refusal := by
    cases refused with
    | tooDeep below => exact .tooDeep below
    | unknownCommand permitted unknown =>
        exact .unknownCommand permitted (by rw [find?_noting, unknown]; rfl)
    | argument permitted registered mismatch =>
        exact .argument permitted (by rw [find?_noting, registered]; rfl) mismatch
  rw [invocationsAt, answerAt_state, (resultAt_of_refuses refusedNoting _).2]

theorem invocationsAt_of_admits {handler : Handler σ} {argument : handler.argument.Member}
    (admitted : dispatcher.Admits depth request handler argument) :
    dispatcher.invocationsAt depth request state =
      ⟨request.name, argument.val⟩ :: (handler.body argument).invocations dispatcher.names
        (dispatcher.answerAt (depth + 1)) (dispatcher.invocationsAt (depth + 1)) state := by
  have admittedNoting :
      dispatcher.noting.Admits depth request (handler.noting request.name) argument :=
    ⟨admitted.permitted, by rw [find?_noting, admitted.registered]; rfl, admitted.decoded⟩
  have ran := run_noting (dispatcher.answerAt_noting (depth + 1)) handler request.name argument
    state []
  rw [invocationsAt, answerAt_state, resultAt_of_admits admittedNoting]
  exact congrArg (fun ran => ran.state.2) ran

/-- A request runs something exactly if it passes all checks. -/
theorem invocationsAt_ne_nil_iff :
    dispatcher.invocationsAt depth request state ≠ [] ↔
      ∃ handler argument, dispatcher.Admits depth request handler argument := by
  constructor
  · intro some
    rcases dispatcher.admits_or_refuses depth request with admitted | ⟨refusal, refused⟩
    · exact admitted
    · exact absurd (invocationsAt_of_refuses refused) some
  · rintro ⟨handler, argument, admitted⟩
    rw [invocationsAt_of_admits admitted]
    exact List.cons_ne_nil _ _

end Dispatcher

/-! ## Batches that are cut off or go on -/

/-- An argument that is not a written batch, but starts one or starts with one, is not read as a
batch. -/
theorem Batch.exists_decode_error {batch : Batch} (short : batch.encode.length < 2 ^ 64)
    {args : Bytes} (different : args ≠ batch.encode)
    (cut : args <+: batch.encode ∨ batch.encode <+: args) :
    ∃ error, Transferable.decode Batch args = .error error := by
  have written := Batch.decode_encode short
  cases decoded : (Transferable.type Batch).decode args with
  | error error => exact ⟨error, Transferable.decode_eq_error.2 decoded⟩
  | ok member =>
      rcases cut with starts | goesOn
      · exact absurd (WireType.eq_of_decode_of_prefix decoded written starts) different
      · exact absurd (WireType.eq_of_decode_of_prefix written decoded goesOn).symm different

/-! ## One run or none -/

namespace Dispatcher

variable {dispatcher : Dispatcher σ} {depth : Nat} {request : Request}

/-- A dispatcher refuses what is not read as a batch where it expects one. -/
theorem Composed.refuses_batch (composed : dispatcher.Composed) (permitted : depth ≤ 32)
    (isBatch : request.name = batchName) {error : DecodeError}
    (mismatch : Transferable.decode Batch request.args = .error error) :
    dispatcher.Refuses depth request (.argument error) := by
  have registered : dispatcher.handlers.find? request.name = some .batch := by
    rw [isBatch]
    exact composed.find?_builtIn.1
  exact .argument permitted registered (Transferable.decode_eq_error.1 mismatch)

/-- A refused request runs nothing. It is answered with the failure of the check that it fails, and
the state is left alone. -/
theorem answerAt_of_refuses {refusal : Refusal} (refused : dispatcher.Refuses depth request refusal)
    (state : σ) :
    dispatcher.invocationsAt depth request state = [] ∧
      (dispatcher.answerAt depth request state).outcome = .ok (.failure refusal.message) ∧
      (dispatcher.answerAt depth request state).state = state := by
  obtain ⟨outcome, leftState⟩ := resultAt_of_refuses refused state
  refine ⟨invocationsAt_of_refuses refused, ?_, ?_⟩
  · rw [answerAt_outcome, outcome]
    rfl
  · rw [answerAt_state, leftState]

/-- A request either passes all checks or fails one first. If it passes them, its handler is run
once, on its argument, before the handlers of the requests that this run dispatches. What the
request comes to is what this run comes to, and the state is the one that it leaves, in whichever
way it ends. If the request fails a check, nothing is run: the state is as before, and the answer is
the failure of this check. So no element of a batch is run if the batch cannot be read, as when it
is cut off or goes on, however far into it. -/
theorem answerAt_runsOnce (dispatcher : Dispatcher σ) (depth : Nat) (request : Request)
    (state : σ) :
    ((∃ handler argument, dispatcher.Admits depth request handler argument) ∨
      ∃ refusal, dispatcher.Refuses depth request refusal) ∧
    (∀ handler argument, dispatcher.Admits depth request handler argument →
      let ran := handler.runAt dispatcher depth argument state
      dispatcher.invocationsAt depth request state =
          ⟨request.name, argument.val⟩ :: (handler.body argument).invocations dispatcher.names
            (dispatcher.answerAt (depth + 1)) (dispatcher.invocationsAt (depth + 1)) state ∧
        dispatcher.answerAt depth request state =
          ⟨(settle ran.outcome).map Response.ofResult, ran.state,
            .received request.name :: .dispatching request.name request.args.length ::
              (ran.events ++ closingEvents request (settle ran.outcome))⟩) ∧
    (∀ refusal, dispatcher.Refuses depth request refusal →
      dispatcher.invocationsAt depth request state = [] ∧
        (dispatcher.answerAt depth request state).outcome = .ok (.failure refusal.message) ∧
        (dispatcher.answerAt depth request state).state = state) ∧
    (dispatcher.invocationsAt depth request state ≠ [] ↔
      ∃ handler argument, dispatcher.Admits depth request handler argument) ∧
    (dispatcher.Composed → depth ≤ 32 → request.name = batchName →
      (∀ error, Transferable.decode Batch request.args = .error error →
        dispatcher.Refuses depth request (.argument error)) ∧
      ∀ batch : Batch, batch.encode.length < 2 ^ 64 → request.args ≠ batch.encode →
        (request.args <+: batch.encode ∨ batch.encode <+: request.args) →
        ∃ error, dispatcher.Refuses depth request (.argument error)) := by
  refine ⟨dispatcher.admits_or_refuses depth request, ?_,
    fun refusal refused => answerAt_of_refuses refused state, invocationsAt_ne_nil_iff, ?_⟩
  · intro handler argument admitted ran
    refine ⟨invocationsAt_of_admits admitted, ?_⟩
    rw [answerAt_eq_resultAt, resultAt_of_admits admitted]
    rfl
  · intro composed permitted isBatch
    have refuses (error : DecodeError)
        (mismatch : Transferable.decode Batch request.args = .error error) :
        dispatcher.Refuses depth request (.argument error) :=
      composed.refuses_batch permitted isBatch mismatch
    refine ⟨refuses, ?_⟩
    intro batch short different cut
    obtain ⟨error, mismatch⟩ := Batch.exists_decode_error short different cut
    exact ⟨error, refuses error mismatch⟩

/-- A batch of two notes, and what is left of it without the last byte. -/
theorem answerAt_cutNotes :
    let notes : Batch := ⟨"Note", [[1, 97], [1, 98]]⟩
    let cut : Request := ⟨batchName, notes.encode.dropLast⟩
    let dispatcher := Sample.notepad.dispatcher
    (dispatcher.invocationsAt 31 ⟨batchName, notes.encode⟩ .initial).map Invocation.name =
        [batchName, "Note", "Note"] ∧
      (dispatcher.answerAt 31 ⟨batchName, notes.encode⟩ .initial).state.items = ["a", "b"] ∧
      (dispatcher.invocationsAt 32 ⟨batchName, notes.encode⟩ .initial).map Invocation.name =
        [batchName] ∧
      dispatcher.invocationsAt 31 cut .initial = [] ∧
      (dispatcher.answerAt 31 cut .initial).state = .initial ∧
      dispatcher.invocationsAt 32 ⟨"Note", [1, 97]⟩ .initial = [⟨"Note", .text "a"⟩] ∧
      (dispatcher.answerAt 32 ⟨"Note", [1, 97]⟩ .initial).state.items = ["a"] := by
  intro notes cut dispatcher
  have different : cut.args ≠ notes.encode := by decide
  have starts : cut.args <+: notes.encode := List.dropLast_prefix _
  obtain ⟨_, _, refused, _, batches⟩ := dispatcher.answerAt_runsOnce 31 cut .initial
  obtain ⟨error, refuses⟩ := (batches Sample.composed_notepad (by decide) rfl).2 notes (by decide)
    different (.inl starts)
  obtain ⟨cutRunsNothing, _, cutState⟩ := refused _ refuses
  have admitted : dispatcher.Admits 32 ⟨"Note", [1, 97]⟩ Sample.note
      ⟨.text "a", "a", rfl⟩ := ⟨by decide, rfl, rfl⟩
  obtain ⟨_, runs, _⟩ := dispatcher.answerAt_runsOnce 32 ⟨"Note", [1, 97]⟩ .initial
  obtain ⟨noteRuns, noteAnswer⟩ := runs _ _ admitted
  refine ⟨by decide +kernel, by decide +kernel, by decide +kernel, cutRunsNothing, cutState, ?_, ?_⟩
  · rw [noteRuns]
    rfl
  · rw [noteAnswer]
    rfl

end Dispatcher

end RemoteCall
