import RemoteCall.Proofs.Dispatch.Answers

/-!
Contract: the log has a warning for every failure, in the order in which the failures come about.

Owns:
- the lines with which a request opens and closes in the log;
- warnings, and the failures that they are of;
- the log of a request against its answer and those inside it.

A warning is written where a failure is put into its envelope, so the message of the one can be read
off the other.

Does not own: which requests fail.
-/

namespace RemoteCall

set_option autoImplicit false

open Wire

variable {σ : Type}

namespace Event

/-- Whether a line of the log is a warning. -/
def isWarnLine (line : String) : Bool :=
  "WARN ".toList.isPrefixOf line.toList

/-- A line warns of a request that was answered with a failure, by the message that is read from
it. -/
def Warns (line : String) (answered : Request × Response) : Prop :=
  ∃ message, answered.2.outcome = .ok (.error message) ∧
    line = "WARN " ++ answered.1.name ++ ": " ++ message

theorem isWarnLine_append (text : String) : isWarnLine ("WARN " ++ text) = true := by
  rw [isWarnLine, List.isPrefixOf_iff_prefix, String.toList_append]
  exact List.prefix_append _ _

theorem isWarnLine_dispatching (text : String) :
    isWarnLine ("DEBUG dispatching " ++ text) = false := by
  rw [isWarnLine, String.toList_append]
  rfl

theorem lines_append (front back : List Event) :
    lines (front ++ back) = lines front ++ lines back :=
  List.filterMap_append

theorem lines_flatMap {α : Type} (parts : List α) (events : α → List Event) :
    lines (parts.flatMap events) = parts.flatMap fun part => lines (events part) :=
  List.filterMap_flatMap

end Event

namespace Dispatcher

open Event (lines isWarnLine Warns)

variable {dispatcher : Dispatcher σ} {depth : Nat} {request : Request} {state : σ}

/-! ## One request -/

/-- The line with which a request opens, if it is permitted and its name has a handler. -/
def openingLines (dispatcher : Dispatcher σ) (depth : Nat) (request : Request) : List String :=
  if depth ≤ 32 ∧ request.name ∈ dispatcher.names then
    ["DEBUG dispatching " ++ request.name ++ " (" ++ toString request.args.length ++
      " argument bytes)"]
  else []

/-- The line with which a request closes, if it is refused. -/
def closingLines (request : Request) : Except Refusal Bytes → List String
  | .ok _ => []
  | .error refusal => ["WARN " ++ request.name ++ ": " ++ refusal.message]

theorem lines_openingEvents :
    lines (dispatcher.openingEvents depth request) = dispatcher.openingLines depth request := by
  rw [openingEvents, openingLines]
  split
  · have line : "DEBUG dispatching " ++ request.name ++ " (" ++ toString request.args.length ++
        " argument bytes)" = Level.debug.name ++ " " ++ ("dispatching " ++ request.name ++ " (" ++
          toString request.args.length ++ " argument bytes)") := by
      rw [show "DEBUG dispatching " = Level.debug.name ++ " " ++ "dispatching " by decide]
      simp only [String.append_assoc]
    rw [line]
    rfl
  · rfl

theorem lines_closingEvents (result : Except Refusal Bytes) :
    lines (closingEvents request (.ok result)) = closingLines request result := by
  cases result with
  | ok payload => rfl
  | error refusal =>
      have line : "WARN " ++ request.name ++ ": " ++ refusal.message =
          Level.warn.name ++ " " ++ (request.name ++ ": " ++ refusal.message) := by
        rw [show "WARN " = Level.warn.name ++ " " by decide]
        simp only [String.append_assoc]
      rw [closingLines, line]
      rfl

/-- The log of a request: the line with which it opens, the logs of the requests that it dispatches,
in their order, and the line with which it closes. -/
theorem lines_answerAt {result : Except Refusal Bytes}
    (came : (dispatcher.resultAt depth request state).outcome = .ok result) :
    lines (dispatcher.answerAt depth request state).events =
      dispatcher.openingLines depth request ++
        ((dispatcher.dispatchedFrom depth request state).flatMap fun served =>
          lines (dispatcher.answerAt (depth + 1) served.1 served.2).events) ++
        closingLines request result := by
  rw [events_answerAt, Event.lines_append, Event.lines_append, Event.lines_flatMap,
    lines_openingEvents, came, lines_closingEvents]

/-- The line with which a request closes is a warning of its response, if that is a failure. -/
theorem closingLines_of_short {result : Except Refusal Bytes}
    (short : (Response.ofResult result).Short) :
    if (Response.ofResult result).ok then closingLines request result = []
    else ∃ message, (Response.ofResult result).outcome = .ok (.error message) ∧
      closingLines request result = ["WARN " ++ request.name ++ ": " ++ message] := by
  cases result with
  | ok payload => exact rfl
  | error refusal => exact ⟨refusal.message, Response.outcome_failure short, rfl⟩

/-! ## All requests -/

theorem filter_openingLines : (dispatcher.openingLines depth request).filter isWarnLine = [] := by
  rw [openingLines]
  split
  · simp only [String.append_assoc, List.filter_cons, Event.isWarnLine_dispatching,
      Bool.false_eq_true, if_false, List.filter_nil]
  · rfl

/-- The warnings with which a request closes are of its own answer. -/
theorem warns_closingLines {result : Except Refusal Bytes}
    (short : (Response.ofResult result).Short) :
    List.Forall₂ Warns ((closingLines request result).filter isWarnLine)
      ([(request, Response.ofResult result)].filter fun answered => !answered.2.ok) := by
  cases result with
  | ok payload => exact .nil
  | error refusal =>
      have isWarning : (closingLines request (.error refusal)).filter isWarnLine =
          closingLines request (.error refusal) := by
        simp only [closingLines, String.append_assoc, List.filter_cons, Event.isWarnLine_append,
          if_true, List.filter_nil]
      rw [isWarning]
      exact .cons ⟨refusal.message, Response.outcome_failure short, rfl⟩ .nil

theorem forall₂_flatMap {α β γ : Type} {related : β → γ → Prop} {f : α → List β}
    {g : α → List γ} : ∀ {parts : List α},
      (∀ part ∈ parts, List.Forall₂ related (f part) (g part)) →
      List.Forall₂ related (parts.flatMap f) (parts.flatMap g)
  | [], _ => .nil
  | first :: others, each => by
      obtain ⟨firstRelated, othersRelated⟩ := List.forall_mem_cons.1 each
      rw [List.flatMap_cons, List.flatMap_cons]
      exact List.rel_append firstRelated (forall₂_flatMap othersRelated)

/-- The warnings in the log of a request are of the failures among the answers that come about on
its account, each of one, in their order. -/
theorem warns_answersAt (noPanicOut : ∀ name, dispatcher.LetsNoPanicOut name) (depth : Nat)
    (request : Request) (state : σ) :
    (∀ answered ∈ dispatcher.answersAt depth request state, answered.2.Short) →
    List.Forall₂ Warns
      ((lines (dispatcher.answerAt depth request state).events).filter isWarnLine)
      ((dispatcher.answersAt depth request state).filter fun answered => !answered.2.ok) := by
  induction depth, request, state using dispatcher.dispatched_induction with
  | step depth request state deeper =>
      intro short
      obtain ⟨response, answered⟩ := noPanicOut request.name depth request.args state
      have ownShort : response.Short := short _ (mem_answersAt_self answered)
      have outcome := answered
      rw [answerAt_outcome] at outcome
      obtain ⟨result, came, rfl⟩ := map_eq_ok.1 outcome
      rw [lines_answerAt came, answersAt_eq, ownAnswer_of_answered answered, List.filter_append,
        List.filter_append, filter_openingLines, List.nil_append, List.filter_append,
        List.filter_flatMap, List.filter_flatMap]
      refine List.rel_append (forall₂_flatMap fun served isDispatched => ?_)
        (warns_closingLines ownShort)
      exact deeper served isDispatched fun inner found =>
        short inner (mem_answersAt_of_dispatched isDispatched found)

/-! ## The log and the answers -/

/-- The log mirrors the answers. If a request is permitted and its name has a handler, its log opens
with a line that says so; then come the logs of the requests that it dispatches, in their order; it
closes with one warning if the answer is a failure, with the message that is read from the answer,
and else with none. So the warnings in the whole log are of the failures among all answers that come
about, each of one, in their order, in which a request comes after those that it dispatches. The
answers in the slots of the answer, to any depth, are among these, and are all of them where only
batches dispatch. Bytes that are a request are logged as the request is; bytes that are none are
logged by one warning, with the message that is read from their answer. -/
theorem lines_mirror_answers (composed : dispatcher.Composed)
    (noPanicOut : ∀ name, dispatcher.LetsNoPanicOut name) :
    (∀ depth request state,
      (∀ answered ∈ dispatcher.answersAt depth request state, answered.2.Short) →
      let dispatched := dispatcher.dispatchedFrom depth request state
      let answers := dispatcher.answersAt depth request state
      let log := lines (dispatcher.answerAt depth request state).events
      ∃ response closing, (dispatcher.answerAt depth request state).outcome = .ok response ∧
        log =
          (if depth ≤ 32 ∧ request.name ∈ dispatcher.names then
            ["DEBUG dispatching " ++ request.name ++ " (" ++ toString request.args.length ++
              " argument bytes)"]
          else []) ++
          (dispatched.flatMap fun served =>
            lines (dispatcher.answerAt (depth + 1) served.1 served.2).events) ++ closing ∧
        (if response.ok then closing = []
          else ∃ message, response.outcome = .ok (.error message) ∧
            closing = ["WARN " ++ request.name ++ ": " ++ message]) ∧
        answers = (dispatched.flatMap fun served =>
          dispatcher.answersAt (depth + 1) served.1 served.2) ++ [(request, response)] ∧
        List.Forall₂ Warns (log.filter isWarnLine)
          (answers.filter fun answered => !answered.2.ok) ∧
        ∃ held, Holds request response held ∧ held.Sublist answers ∧
          (dispatcher.OnlyBatchesDispatch → held = answers)) ∧
    ∀ input state,
      let served := dispatcher.serve input state
      (∀ request, Request.decode input = .ok request →
        served.events = (dispatcher.answer request state).events) ∧
      ∀ error, Request.decode input = .error error →
        (∀ answer, served.outcome = .ok answer → answer.length < 2 ^ 64) →
        ∃ answer response message, served.outcome = .ok answer ∧
          Response.decode answer = .ok response ∧ response.outcome = .ok (.error message) ∧
          lines served.events = ["WARN " ++ message] := by
  constructor
  · intro depth request state short dispatched answers log
    obtain ⟨response, answered⟩ := noPanicOut request.name depth request.args state
    have ownShort : response.Short := short _ (mem_answersAt_self answered)
    have outcome := answered
    rw [answerAt_outcome] at outcome
    obtain ⟨result, came, rfl⟩ := map_eq_ok.1 outcome
    refine ⟨_, closingLines request result, answered, lines_answerAt came,
      closingLines_of_short ownShort, ?_, warns_answersAt noPanicOut depth request state short,
      holdsAnswers composed noPanicOut depth request state short _ answered⟩
    rw [← ownAnswer_of_answered answered]
    exact answersAt_eq dispatcher depth request state
  · intro input state served
    refine ⟨fun request decoded => ?_, fun error malformed answerShort => ?_⟩
    · exact congrArg Run.events (serve_of_decode decoded)
    · have refused : served = _ := serve_of_malformed malformed
      rw [refused] at answerShort ⊢
      have short := Response.short_of_encode (answerShort _ rfl)
      exact ⟨_, _, _, rfl, Response.decode_encode short, Response.outcome_ofResult short, rfl⟩

/-- Two notes and a command that nobody knows, in batches of two levels, of which only the batches
succeed; and a byte that is no request. -/
theorem lines_mirror_notes :
    let request := Sample.notes.request
    let log := lines (Sample.notepad.dispatcher.answerAt 0 request .initial).events
    let answers := Sample.notepad.dispatcher.answersAt 0 request .initial
    let refused := Sample.notepad.dispatcher.serve [5] .initial
    Sample.notepad.dispatcher.Composed ∧
      (∀ name, Sample.notepad.dispatcher.LetsNoPanicOut name) ∧
      Sample.notepad.dispatcher.OnlyBatchesDispatch ∧
      (∀ answered ∈ answers, answered.2.Short) ∧
      answers.map (fun answered => answered.1.name) =
        ["Note", batchName, "Triple", batchName, "Note", batchName, batchName, batchName] ∧
      log.filter isWarnLine =
        ["WARN Note: a", "WARN Triple: unknown command: Triple", "WARN Note: b"] ∧
      List.Forall₂ Warns (log.filter isWarnLine)
        (answers.filter fun answered => !answered.2.ok) ∧
      (∃ response, Holds request response answers) ∧
      (∀ answer, refused.outcome = .ok answer → answer.length < 2 ^ 64) ∧
      ∃ answer response message, refused.outcome = .ok answer ∧
        Response.decode answer = .ok response ∧ response.outcome = .ok (.error message) ∧
        lines refused.events = ["WARN " ++ message] := by
  intro request log answers refused
  have noPanicOut := Sample.speaks_notepad.letsNoPanicOut
  have payloads : ∀ answered ∈ answers, answered.2.payload.length < 100 := by decide +kernel
  have short : ∀ answered ∈ answers, answered.2.Short :=
    fun answered found => (payloads answered found).trans (by decide)
  have malformed : Request.decode [5] = .error .textTooShort := rfl
  have answerLength : refused.outcome.toOption.map List.length = some 46 := by decide +kernel
  have answerShort : ∀ answer, refused.outcome = .ok answer → answer.length < 2 ^ 64 := by
    intro answer answered
    rw [answered] at answerLength
    rw [Option.some.inj answerLength]
    decide
  obtain ⟨mirrors, serves⟩ := lines_mirror_answers Sample.composed_notepad noPanicOut
  obtain ⟨response, _, _, _, _, _, warns, held, holds, _, all⟩ := mirrors 0 request .initial short
  rw [all Sample.onlyBatchesDispatch_notepad] at holds
  exact ⟨Sample.composed_notepad, noPanicOut, Sample.onlyBatchesDispatch_notepad, short,
    by decide +kernel, by decide +kernel, warns, ⟨response, holds⟩, answerShort,
    (serves [5] .initial).2 .textTooShort malformed answerShort⟩

end Dispatcher

end RemoteCall
