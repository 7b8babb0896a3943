import RemoteCall.Proofs.Dispatch.BatchTree
import RemoteCall.Proofs.Dispatch.Containment
import RemoteCall.Proofs.Dispatch.Result

/-!
Contract: a dispatcher answers trees of batches of any height and width as they are to be answered.

Owns:
- the answers to one level of a tree, from the answers to the level below it;
- the answer to a whole tree, and the state after it.

Does not own: the relation between a tree and its answer.
-/

namespace RemoteCall

set_option autoImplicit false

open Wire

variable {σ : Type} {dispatcher : Dispatcher σ} {level : Nat}

/-! ## One level -/

theorem leafAnswered_of_answerAt {request : Request} {state : σ} {response : Response}
    (answered : (dispatcher.answerAt level request state).outcome = .ok response) :
    LeafAnswered dispatcher level request state response
      (dispatcher.answerAt level request state).state := by
  by_cases permitted : level ≤ 32
  · exact .served permitted answered
  · have below : 32 < level := by omega
    rw [Dispatcher.answerAt_of_tooDeep below] at answered ⊢
    cases answered
    exact .tooDeep below

theorem treeAnswered_of_tooDeep {tree : BatchTree} {state : σ} {response : Response}
    (below : 32 < level)
    (answered : (dispatcher.answerAt level tree.request state).outcome = .ok response) :
    TreeAnswered dispatcher level tree state response
      (dispatcher.answerAt level tree.request state).state := by
  rw [Dispatcher.answerAt_of_tooDeep below] at answered ⊢
  cases answered
  exact .tooDeep below

theorem leavesAnswered_of_answerInTurn {command : String} {arguments : List Bytes} {state : σ}
    {responses : List Response}
    (answered : (dispatcher.answerInTurn (nestingLimit + 1 - level)
      (Batch.requests ⟨command, arguments⟩) state).outcome = .ok responses) :
    LeavesAnswered dispatcher level command arguments state responses
      (dispatcher.answerInTurn (nestingLimit + 1 - level)
        (Batch.requests ⟨command, arguments⟩) state).state := by
  induction arguments generalizing state responses with
  | nil =>
      cases answered
      exact .nil
  | cons args others inductionHypothesis =>
      obtain ⟨response, otherResponses, isResponse, areResponses, rfl⟩ :=
        Dispatcher.answerInTurn_cons_eq_ok answered
      refine .cons (leafAnswered_of_answerAt isResponse) ?_
      have leftState := (Dispatcher.answerInTurn_cons isResponse
        (Batch.requests ⟨command, others⟩)).2
      show LeavesAnswered dispatcher level command others _ otherResponses
        (dispatcher.answerInTurn (nestingLimit + 1 - level)
          (⟨command, args⟩ :: Batch.requests ⟨command, others⟩) state).state
      rw [leftState]
      exact inductionHypothesis areResponses

/-- A response that is short enough to be read carries the slots that are written into it. -/
theorem carriesSlots_of_short {responses : List Response}
    (short : (Response.success (listBytes (responses.map Response.encode))).Short) :
    (Response.success (listBytes (responses.map Response.encode))).CarriesSlots responses := by
  refine ⟨rfl, _, decode_listBytes short, ?_⟩
  rw [List.map_map]
  apply List.map_congr_left
  intro response found
  exact Response.decode_encode (Response.short_of_encode_mem (List.mem_map_of_mem found) short)

/-! ## Whole trees -/

/-- A batch at a permitted level carries the answers to its requests, which are served in turn. -/
theorem carriesSlots_of_answerAt
    (builtIn : dispatcher.handlers.find? batchName = some .batch)
    (noPanicOut : ∀ name, dispatcher.LetsNoPanicOut name) (permitted : level ≤ 32) {batch : Batch}
    (short : batch.encode.length < 2 ^ 64) {state : σ} {response : Response}
    (answered : (dispatcher.answerAt level ⟨batchName, batch.encode⟩ state).outcome =
      .ok response) (responseShort : response.Short) :
    ∃ responses,
      (dispatcher.answerInTurn (nestingLimit + 1 - (level + 1)) batch.requests state).outcome =
        .ok responses ∧
      (dispatcher.answerAt level ⟨batchName, batch.encode⟩ state).state =
        (dispatcher.answerInTurn (nestingLimit + 1 - (level + 1)) batch.requests state).state ∧
      response.CarriesSlots responses ∧ ∀ part ∈ responses, part.Short := by
  obtain ⟨responses, areResponses⟩ :=
    Dispatcher.exists_answerInTurn (noPanicOut batch.command) (level + 1) state
  rw [Dispatcher.answerAt_eq_answerWithin permitted] at answered ⊢
  obtain ⟨outcome, leftState⟩ := Dispatcher.answerWithin_batch builtIn short state
  rw [outcome, areResponses] at answered
  cases answered
  refine ⟨responses, areResponses, leftState, carriesSlots_of_short responseShort, ?_⟩
  intro part found
  exact Response.short_of_encode_mem (List.mem_map_of_mem found) responseShort

mutual

/-- The induction is on the tree. It is carried by the lengths: those inside a batch and inside its
answer are bounded by the lengths of the two. -/
theorem treeAnswered_of_answerAt
    (builtIn : dispatcher.handlers.find? batchName = some .batch)
    (noPanicOut : ∀ name, dispatcher.LetsNoPanicOut name) :
    ∀ (level : Nat) (tree : BatchTree) (state : σ) (response : Response),
    tree.toBatch.encode.length < 2 ^ 64 →
    (dispatcher.answerAt level tree.request state).outcome = .ok response → response.Short →
    TreeAnswered dispatcher level tree state response
      (dispatcher.answerAt level tree.request state).state
  | level, .leaves command arguments => by
      intro state response short answered responseShort
      by_cases permitted : level ≤ 32
      · obtain ⟨responses, areResponses, leftState, carries, _⟩ :=
          carriesSlots_of_answerAt builtIn noPanicOut permitted short answered responseShort
        rw [BatchTree.request, leftState]
        exact .leaves permitted (leavesAnswered_of_answerInTurn areResponses) carries
      · exact treeAnswered_of_tooDeep (Nat.lt_of_not_le permitted) answered
  | level, .nested trees => by
      intro state response short answered responseShort
      by_cases permitted : level ≤ 32
      · obtain ⟨responses, areResponses, leftState, carries, partsShort⟩ :=
          carriesSlots_of_answerAt builtIn noPanicOut permitted short answered responseShort
        rw [BatchTree.requests_nested] at areResponses leftState
        rw [BatchTree.request, leftState]
        refine .nested permitted (treesAnswered_of_answerInTurn builtIn noPanicOut (level + 1) trees
          state responses (fun tree found => ?_) areResponses partsShort) carries
        have inside := length_le_listBytes_of_mem (BatchTree.mem_encodeEach found)
        rw [BatchTree.toBatch, Batch.encode_eq_append, List.length_append] at short
        simp only at short
        omega
      · exact treeAnswered_of_tooDeep (Nat.lt_of_not_le permitted) answered

private theorem treesAnswered_of_answerInTurn
    (builtIn : dispatcher.handlers.find? batchName = some .batch)
    (noPanicOut : ∀ name, dispatcher.LetsNoPanicOut name) :
    ∀ (level : Nat) (trees : List BatchTree) (state : σ) (responses : List Response),
    (∀ tree ∈ trees, tree.toBatch.encode.length < 2 ^ 64) →
    (dispatcher.answerInTurn (nestingLimit + 1 - level) (trees.map BatchTree.request)
      state).outcome = .ok responses → (∀ response ∈ responses, response.Short) →
    TreesAnswered dispatcher level trees state responses
      (dispatcher.answerInTurn (nestingLimit + 1 - level) (trees.map BatchTree.request)
        state).state
  | level, [] => by
      intro state responses _ answered _
      cases answered
      exact .nil
  | level, tree :: trees => by
      intro state responses short answered responsesShort
      obtain ⟨response, others, isResponse, areResponses, rfl⟩ :=
        Dispatcher.answerInTurn_cons_eq_ok answered
      obtain ⟨treeShort, treesShort⟩ := List.forall_mem_cons.1 short
      obtain ⟨responseShort, othersShort⟩ := List.forall_mem_cons.1 responsesShort
      rw [List.map_cons, (Dispatcher.answerInTurn_cons isResponse _).2]
      exact .cons
        (treeAnswered_of_answerAt builtIn noPanicOut level tree state response treeShort
          isResponse responseShort)
        (treesAnswered_of_answerInTurn builtIn noPanicOut level trees _ others treesShort
          areResponses othersShort)

end

/-- Batches inside batches, to any height and width. The request that runs a tree is answered, and
so is each request in it: in its place, at its level, and in the state that those to its left have
left. What is below the nesting limit is refused and does nothing, so that the state at the end is
the one that the permitted leaves leave. The bytes of the request are served alike. -/
theorem Dispatcher.answer_tree (composed : dispatcher.Composed)
    (noPanicOut : ∀ name, dispatcher.LetsNoPanicOut name) (tree : BatchTree) (state : σ)
    (short : tree.toBatch.encode.length < 2 ^ 64)
    (answerShort : ∀ response, (dispatcher.answer tree.request state).outcome = .ok response →
      response.Short) :
    ∃ response,
      (dispatcher.answer tree.request state).outcome = .ok response ∧
      TreeAnswered dispatcher 0 tree state response (dispatcher.answer tree.request state).state ∧
      (dispatcher.answer tree.request state).state =
        dispatcher.stateAfter (tree.permittedLeaves 0) state ∧
      (dispatcher.serve tree.request.encode state).outcome = .ok response.encode ∧
      Response.decode response.encode = .ok response ∧
      (dispatcher.serve tree.request.encode state).state =
        (dispatcher.answer tree.request state).state := by
  obtain ⟨builtIn, _⟩ := composed.find?_builtIn
  obtain ⟨response, answered⟩ := noPanicOut batchName 0 tree.toBatch.encode state
  have responseShort := answerShort response answered
  have treeAnswered :=
    treeAnswered_of_answerAt builtIn noPanicOut 0 tree state response short answered responseShort
  have nameShort : (Utf8.encode batchName).length < 2 ^ 64 := by decide
  have requestShort : tree.request.Short := ⟨nameShort, short⟩
  rw [Dispatcher.serve_of_decode (Request.decode_encode requestShort)]
  refine ⟨response, answered, treeAnswered, treeAnswered.state_eq, ?_,
    Response.decode_encode responseShort, rfl⟩
  exact congrArg (Except.map Response.encode) answered

/-- Two notes, and a command that nobody knows between them. -/
def Sample.notes : BatchTree :=
  .nested [.leaves "Note" [[1, 97]],
    .nested [.leaves "Triple" [[]], .leaves "Note" [[1, 98]]]]

theorem Dispatcher.answer_notes :
    let served := Sample.notepad.dispatcher.answer Sample.notes.request .initial
    Sample.notepad.dispatcher.Composed ∧
      (∀ name, Sample.notepad.dispatcher.LetsNoPanicOut name) ∧
      (∃ response, served.outcome = .ok response ∧ response.Short ∧
        TreeAnswered Sample.notepad.dispatcher 0 Sample.notes .initial response served.state) ∧
      served.state = Sample.notepad.dispatcher.stateAfter
        [(2, ⟨"Note", [1, 97]⟩), (3, ⟨"Triple", []⟩), (3, ⟨"Note", [1, 98]⟩)] .initial := by
  have noPanicOut := Sample.speaks_notepad.letsNoPanicOut
  have short : Sample.notes.toBatch.encode.length < 2 ^ 64 := by decide +kernel
  have answerLength : (Sample.notepad.dispatcher.answer Sample.notes.request
      .initial).outcome.toOption.map (·.payload.length) = some 54 := by
    decide +kernel
  have answerShort := Response.short_of_length answerLength (by decide)
  obtain ⟨response, answered, treeAnswered, state, _⟩ := answer_tree Sample.composed_notepad
    noPanicOut Sample.notes .initial short answerShort
  have leaves : Sample.notes.permittedLeaves 0 =
      [(2, ⟨"Note", [1, 97]⟩), (3, ⟨"Triple", []⟩), (3, ⟨"Note", [1, 98]⟩)] := rfl
  rw [leaves] at state
  exact ⟨Sample.composed_notepad, noPanicOut,
    ⟨response, answered, answerShort response answered, treeAnswered⟩, state⟩

end RemoteCall
