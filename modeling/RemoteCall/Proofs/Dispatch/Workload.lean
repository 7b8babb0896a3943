import Mathlib.Algebra.GroupWithZero.Nat
import Mathlib.Data.List.Infix
import RemoteCall.Proofs.Dispatch.Events
import RemoteCall.Proofs.Wire.Shortest

/-!
Contract: no request causes more dispatches than it has bytes.

Owns:
- the bytes that an element of a batch takes up, which no other element uses;
- the requests that a batch dispatches, and that other commands dispatch none;
- the number of requests that are dispatched on account of one, at all levels, and of the lines in
  the log that say so.

An element is charged to the bytes that it was read from, in whatever spelling. No spelling of a
batch is shorter than what is written for it, so it is enough to look at what is written.

Does not own: what the handlers of an application dispatch.
-/

namespace RemoteCall

set_option autoImplicit false

open Wire

variable {σ : Type}

/-! ## Bytes -/

/-- What is read from an input is written in no more bytes than the input has. -/
theorem Transferable.length_le_of_decode {α : Type} [Transferable α] {input written : Bytes}
    {value : α} (decoded : Transferable.decode α input = .ok value)
    (isWritten : Transferable.encode value = .ok written) : written.length ≤ input.length := by
  have spelled := WireType.spelledBy_of_decode (Transferable.decode_eq_ok.1 decoded)
  exact (Value.shorterOrSame_of_spelledBy _ isWritten spelled).length_le

/-- The content of a byte string, and at least one byte for its length. -/
theorem length_lt_sized (content : Bytes) : content.length < (sized content).length := by
  have formPos := compact_length_pos content.length
  rw [sized, List.length_append]
  omega

theorem Batch.length_arguments_of_decode {args : Bytes} {batch : Batch}
    (decoded : Transferable.decode Batch args = .ok batch) :
    (batch.arguments.flatMap sized).length < args.length := by
  have bounded := Transferable.length_le_of_decode decoded batch.encode_eq
  have namePos := sized_length_pos (Utf8.encode batch.command)
  rw [encode_eq_append, listBytes, List.length_append, List.length_append] at bounded
  omega

theorem Request.length_args_of_decode {input : Bytes} {request : Request}
    (decoded : decode input = .ok request) : request.args.length + 1 < input.length := by
  have bounded := Transferable.length_le_of_decode decoded request.encode_eq
  have namePos := sized_length_pos (Utf8.encode request.name)
  have argsBound := length_lt_sized request.args
  rw [encode, List.length_append] at bounded
  omega

/-- If some bytes pay for each part, all of them together pay for all parts. -/
theorem sum_le_length_flatMap {α : Type} {cost : α → Nat} {bytes : α → Bytes} (parts : List α)
    (charged : ∀ part ∈ parts, cost part ≤ (bytes part).length) :
    (parts.map cost).sum ≤ (parts.flatMap bytes).length := by
  induction parts with
  | nil => exact Nat.le_refl 0
  | cons first others inductionHypothesis =>
      obtain ⟨firstCharged, othersCharged⟩ := List.forall_mem_cons.1 charged
      rw [List.map_cons, List.sum_cons, List.flatMap_cons, List.length_append]
      exact Nat.add_le_add firstCharged (inductionHypothesis othersCharged)

/-! ## What is counted -/

namespace Event

/-- A way of counting in which a request counts for at most one, apart from those that it
dispatches: it comes up once and has its handler found at most once, and refusals do not count. -/
structure CountsOnce (counted : Event → Bool) : Prop where
  opening : ∀ name argumentBytes,
    [received name, .dispatching name argumentBytes].countP counted ≤ 1
  failed : ∀ name error, counted (.failed name error) = false
  malformed : ∀ error, counted (.malformed error) = false

theorem countsOnce_isReceived : CountsOnce isReceived :=
  ⟨fun _ _ => Nat.le_refl 1, fun _ _ => rfl, fun _ => rfl⟩

theorem countsOnce_isDispatching : CountsOnce isDispatching :=
  ⟨fun _ _ => Nat.le_refl 1, fun _ _ => rfl, fun _ => rfl⟩

end Event

/-! ## What is dispatched -/

theorem Program.dispatched_of_dispatchesNothing {α : Type} {names : List String}
    {program : Program σ α} {state : σ} (quiet : program.DispatchesNothing names state)
    (serve : Request → σ → Run σ (Except Panic Response)) :
    program.dispatched names serve state = [] := by
  induction program generalizing state with
  | done ending => rfl
  | readState next inductionHypothesis => exact inductionHypothesis state quiet
  | writeState written next inductionHypothesis => exact inductionHypothesis quiet
  | readNames next inductionHypothesis => exact inductionHypothesis names quiet
  | dispatch request next => exact quiet.elim

/-- A batch dispatches its requests in their order, all of them or up to some. -/
theorem Batch.dispatched_respond_prefix (names : List String)
    (serve : Request → σ → Run σ (Except Panic Response)) (batch : Batch) (state : σ) :
    ((respond batch.command batch.arguments).dispatched names serve state).map Prod.fst <+:
      batch.requests := by
  obtain ⟨command, arguments⟩ := batch
  induction arguments generalizing state with
  | nil => exact List.prefix_refl _
  | cons args others inductionHypothesis =>
      have step : (respond command (args :: others)).dispatched names serve state =
        (Program.dispatch ⟨command, args⟩ fun response =>
          (respond command others).bind fun slots =>
            .done (.returned (response.encode :: slots))).dispatched names serve state := rfl
      rw [step, Program.dispatched, List.map_cons]
      refine (List.prefix_cons_inj _).2 ?_
      cases (serve ⟨command, args⟩ state).outcome with
      | error panic => exact List.nil_prefix
      | ok response =>
          simp only [Program.dispatched_bind_done]
          exact inductionHypothesis _

namespace Dispatcher

variable {dispatcher : Dispatcher σ} {depth : Nat} {request : Request} {state : σ}

/-- The handlers of an application dispatch nothing, whatever they are run on. -/
def OnlyBatchesDispatch (dispatcher : Dispatcher σ) : Prop :=
  ∀ name handler, name ≠ batchName → name ≠ namesName →
    dispatcher.handlers.find? name = some handler → ∀ argument state,
      (handler.body argument).DispatchesNothing dispatcher.names state

/-- Then no other request than that of a batch dispatches any. -/
theorem OnlyBatchesDispatch.dispatchedFrom_eq_nil (composed : dispatcher.Composed)
    (quiet : dispatcher.OnlyBatchesDispatch) (notBatch : request.name ≠ batchName) (state : σ) :
    dispatcher.dispatchedFrom depth request state = [] := by
  rcases dispatcher.admits_or_refuses depth request with ⟨handler, argument, admitted⟩ | refused
  · rw [dispatchedFrom_of_admits admitted]
    apply Program.dispatched_of_dispatchesNothing
    by_cases isNames : request.name = namesName
    · have registered := admitted.registered
      rw [isNames, composed.find?_builtIn.2] at registered
      cases registered
      trivial
    · exact quiet request.name handler notBatch isNames admitted.registered argument state
  · obtain ⟨refusal, refused⟩ := refused
    exact dispatchedFrom_of_refuses refused state

/-- The requests that a request dispatches take up no more bytes than its argument has, each of them
as many as are written for its own argument. -/
theorem length_dispatchedFrom_le (composed : dispatcher.Composed)
    (quiet : dispatcher.OnlyBatchesDispatch) (depth : Nat) (request : Request) (state : σ) :
    ((dispatcher.dispatchedFrom depth request state).flatMap fun served =>
      sized served.1.args).length ≤ request.args.length := by
  by_cases isBatch : request.name = batchName
  · by_cases permitted : depth ≤ 32
    · cases decoded : Transferable.decode Batch request.args with
      | error error =>
          rw [dispatchedFrom_of_refuses (composed.refuses_batch permitted isBatch decoded)]
          exact Nat.zero_le _
      | ok batch =>
          -- what is dispatched is a first part of what was read
          have upTo := batch.dispatched_respond_prefix dispatcher.names
            (dispatcher.answerAt (depth + 1)) state
          rw [← dispatchedFrom_batch composed permitted isBatch decoded] at upTo
          have bytes := (upTo.flatMap fun request => sized request.args).length_le
          rw [List.flatMap_map, Batch.requests, List.flatMap_map] at bytes
          exact bytes.trans (Nat.le_of_lt (Batch.length_arguments_of_decode decoded))
    · rw [dispatchedFrom_of_refuses (.tooDeep (Nat.lt_of_not_le permitted))]
      exact Nat.zero_le _
  · rw [quiet.dispatchedFrom_eq_nil composed isBatch]
    exact Nat.zero_le _

/-! ## One level, and all of them -/

theorem countP_closingEvents {counted : Event → Bool} (once : Event.CountsOnce counted)
    (result : Except Panic (Except Refusal Bytes)) :
    (closingEvents request result).countP counted = 0 := by
  rcases result with panic | refusal | payload
  · rfl
  · rw [closingEvents, List.countP_singleton, once.failed]
    rfl
  · rfl

theorem countP_openingEvents_le {counted : Event → Bool} (once : Event.CountsOnce counted) :
    (dispatcher.openingEvents depth request).countP counted ≤ 1 := by
  have both := once.opening request.name request.args.length
  rw [openingEvents]
  split
  · exact both
  · rw [← List.singleton_append, List.countP_append] at both
    exact (Nat.le_add_right _ _).trans both

/-- What is counted on account of a request is what it opens with, and what is counted on account of
the requests that it dispatches. -/
theorem countP_events {counted : Event → Bool} (once : Event.CountsOnce counted) :
    (dispatcher.answerAt depth request state).events.countP counted =
      (dispatcher.openingEvents depth request).countP counted +
        ((dispatcher.dispatchedFrom depth request state).map fun served =>
          (dispatcher.answerAt (depth + 1) served.1 served.2).events.countP counted).sum := by
  rw [events_answerAt, List.countP_append, List.countP_append, countP_closingEvents once,
    List.countP_flatMap]
  rfl

/-- The argument of a request pays for all that is counted on its account, if the arguments of the
requests that it dispatches pay for what is counted on theirs. -/
theorem countP_events_le_of_deeper (composed : dispatcher.Composed)
    (quiet : dispatcher.OnlyBatchesDispatch) {counted : Event → Bool}
    (once : Event.CountsOnce counted)
    (deeper : ∀ inner before, (dispatcher.answerAt (depth + 1) inner before).events.countP counted ≤
      inner.args.length + 1) :
    (dispatcher.answerAt depth request state).events.countP counted ≤ request.args.length + 1 := by
  have own : (dispatcher.openingEvents depth request).countP counted ≤ 1 :=
    countP_openingEvents_le once
  -- what is counted on account of an element is paid for by its argument, and by a byte of the
  -- length that stands before it
  have inside := sum_le_length_flatMap (dispatcher.dispatchedFrom depth request state)
    fun served _ => (deeper served.1 served.2).trans (length_lt_sized served.1.args)
  have bytes := length_dispatchedFrom_le composed quiet depth request state
  rw [countP_events once]
  omega

/-- The induction is on the levels that are left. Below them there is only the request itself, which
is refused. -/
theorem countP_events_le (composed : dispatcher.Composed) (quiet : dispatcher.OnlyBatchesDispatch)
    {counted : Event → Bool} (once : Event.CountsOnce counted) (depth : Nat) (request : Request)
    (state : σ) :
    (dispatcher.answerAt depth request state).events.countP counted ≤ request.args.length + 1 := by
  obtain ⟨levels, enough⟩ : ∃ levels, 33 ≤ depth + levels := ⟨33, Nat.le_add_left 33 depth⟩
  induction levels generalizing depth request state with
  | zero =>
      have own : (dispatcher.openingEvents depth request).countP counted ≤ 1 :=
        countP_openingEvents_le once
      have below : 32 < depth := enough
      rw [countP_events once, dispatchedFrom_of_refuses (.tooDeep below)]
      exact own.trans (Nat.le_add_left 1 _)
  | succ levels inductionHypothesis =>
      apply countP_events_le_of_deeper composed quiet once
      intro inner before
      exact inductionHypothesis (depth + 1) inner before (by omega)

/-- The bytes of a request are at least two more than those of its argument. -/
theorem countP_events_serve_le (composed : dispatcher.Composed)
    (quiet : dispatcher.OnlyBatchesDispatch) {counted : Event → Bool}
    (once : Event.CountsOnce counted) (input : Bytes) (state : σ) :
    (dispatcher.serve input state).events.countP counted ≤ input.length := by
  cases decoded : Request.decode input with
  | error error =>
      rw [serve_of_malformed decoded, List.countP_singleton, once.malformed]
      exact Nat.zero_le _
  | ok request =>
      rw [serve_of_decode decoded]
      exact (countP_events_le composed quiet once 0 request state).trans
        (Nat.le_of_lt (Request.length_args_of_decode decoded))

/-! ## Bounds -/

/-- No request causes more dispatches than its argument has bytes, and one. What is counted is the
request itself and, for each one that it dispatches, the same again: all elements of the batches
inside it, at all levels, whatever they come to and however the batches are spelled. The log says no
more often that a handler was found. Bytes from outside cause no more dispatches than there are of
them. -/
theorem received_le (composed : dispatcher.Composed) (quiet : dispatcher.OnlyBatchesDispatch) :
    (∀ depth request state,
      let events := (dispatcher.answerAt depth request state).events
      let dispatched := dispatcher.dispatchedFrom depth request state
      events.countP Event.isReceived = 1 + (dispatched.map fun served =>
          (dispatcher.answerAt (depth + 1) served.1 served.2).events.countP
            Event.isReceived).sum ∧
        events.countP Event.isReceived ≤ request.args.length + 1 ∧
        (Event.lines events).countP Event.isDispatchLine ≤ request.args.length + 1) ∧
    ∀ input state,
      let events := (dispatcher.serve input state).events
      events.countP Event.isReceived ≤ input.length ∧
        (Event.lines events).countP Event.isDispatchLine ≤ input.length := by
  constructor
  · intro depth request state events dispatched
    have own : (dispatcher.openingEvents depth request).countP Event.isReceived = 1 := by
      rw [openingEvents]
      split <;> rfl
    have all : events.countP Event.isReceived = _ := countP_events Event.countsOnce_isReceived
    rw [own] at all
    have bounded := countP_events_le composed quiet Event.countsOnce_isReceived depth request state
    refine ⟨all, bounded, ?_⟩
    rw [Event.countP_lines]
    exact countP_events_le composed quiet Event.countsOnce_isDispatching depth request state
  · intro input state events
    refine ⟨countP_events_serve_le composed quiet Event.countsOnce_isReceived input state, ?_⟩
    rw [Event.countP_lines]
    exact countP_events_serve_le composed quiet Event.countsOnce_isDispatching input state

end Dispatcher

theorem Sample.onlyBatchesDispatch_notepad : Sample.notepad.dispatcher.OnlyBatchesDispatch := by
  intro name handler notBatch notNames found argument state
  have member : (name, handler) ∈
      [(namesName, .names), (batchName, .batch), ("Note", Sample.note)] :=
    Registry.find?_eq_some_iff.1 found
  simp only [List.mem_cons, Prod.mk.injEq, notNames, notBatch, false_and, false_or,
    List.not_mem_nil, or_false] at member
  obtain ⟨_, rfl⟩ := member
  trivial

/-- A batch of two batches. The first has two elements without any bytes, and longer forms of its
lengths than are written; the second cannot be read. -/
theorem Dispatcher.received_nested :
    let inner : Bytes := [4, 78, 111, 116, 101, 0xFB, 2, 0, 0, 0xFB, 0, 0]
    let outer : Batch := ⟨batchName, [inner, [7]]⟩
    let request : Request := ⟨batchName, outer.encode⟩
    let events := (Sample.notepad.dispatcher.answerAt 0 request .initial).events
    Sample.notepad.dispatcher.Composed ∧ Sample.notepad.dispatcher.OnlyBatchesDispatch ∧
      events.countP Event.isReceived = 5 ∧
      events.countP Event.isReceived ≤ request.args.length + 1 ∧
      (Event.lines events).countP Event.isDispatchLine ≤ request.args.length + 1 := by
  intro inner outer request events
  obtain ⟨bounds, _⟩ := received_le Sample.composed_notepad Sample.onlyBatchesDispatch_notepad
  obtain ⟨_, received, lines⟩ := bounds 0 request .initial
  exact ⟨Sample.composed_notepad, Sample.onlyBatchesDispatch_notepad, by decide +kernel, received,
    lines⟩

end RemoteCall
