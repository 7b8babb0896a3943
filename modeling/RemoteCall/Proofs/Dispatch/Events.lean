import RemoteCall.Proofs.Dispatch.Unwinding

/-!
Contract: what happens while a request is served is what happens while the requests are served that
it dispatches, between two things of its own.

Owns:
- the events of a run in terms of the requests that are dispatched in it;
- the events with which a request opens, which depend on its first two checks, and the events of a
  request as a whole;
- the lines of the log that say that a handler was found.

Does not own: how many requests there are.
-/

namespace RemoteCall

set_option autoImplicit false

variable {σ α : Type}

/-! ## Events -/

/-- A program does nothing that is noted, apart from what it dispatches. -/
theorem Program.events_run {names : List String}
    {serve : Request → σ → Run σ (Except Panic Response)} (program : Program σ α) (state : σ) :
    (program.run names serve state).events =
      (program.dispatched names serve state).flatMap fun served =>
        (serve served.1 served.2).events := by
  induction program generalizing state with
  | done ending => rfl
  | readState next inductionHypothesis => exact inductionHypothesis state state
  | writeState written next inductionHypothesis => exact inductionHypothesis written
  | readNames next inductionHypothesis => exact inductionHypothesis names state
  | dispatch request next inductionHypothesis =>
      rw [run, dispatched, List.flatMap_cons]
      cases (serve request state).outcome with
      | error panic => simp only [List.flatMap_nil, List.append_nil]
      | ok response => simp only [inductionHypothesis]

namespace Dispatcher

variable {dispatcher : Dispatcher σ} {depth : Nat} {request : Request} {state : σ}

/-- What happens before a handler is run: the request comes up, and if it is permitted and its name
has a handler, this is found. -/
def openingEvents (dispatcher : Dispatcher σ) (depth : Nat) (request : Request) : List Event :=
  .received request.name ::
    if depth ≤ 32 ∧ request.name ∈ dispatcher.names then
      [.dispatching request.name request.args.length]
    else []

theorem openingEvents_of_found {handler : Handler σ} (permitted : depth ≤ 32)
    (registered : dispatcher.handlers.find? request.name = some handler) :
    dispatcher.openingEvents depth request =
      [.received request.name, .dispatching request.name request.args.length] := by
  have named : request.name ∈ dispatcher.names := by
    by_contra unknown
    rw [not_mem_names_iff.1 unknown] at registered
    cases registered
  rw [openingEvents, if_pos ⟨permitted, named⟩]

/-- The events of a request: those with which it opens, those of the requests that it dispatches,
in their order, and a note of its refusal if it comes to one. -/
theorem events_answerAt (dispatcher : Dispatcher σ) (depth : Nat) (request : Request) (state : σ) :
    (dispatcher.answerAt depth request state).events =
      dispatcher.openingEvents depth request ++
        ((dispatcher.dispatchedFrom depth request state).flatMap fun served =>
          (dispatcher.answerAt (depth + 1) served.1 served.2).events) ++
        closingEvents request (dispatcher.resultAt depth request state).outcome := by
  rw [answerAt_eq_resultAt]
  rcases dispatcher.admits_or_refuses depth request with ⟨handler, argument, admitted⟩ | refused
  · rw [resultAt_of_admits admitted, dispatchedFrom_of_admits admitted,
      openingEvents_of_found admitted.permitted admitted.registered, ← Program.events_run]
    rfl
  · obtain ⟨refusal, refused⟩ := refused
    rw [dispatchedFrom_of_refuses refused, List.flatMap_nil, List.append_nil, ← List.cons_append]
    apply congrArg (· ++ closingEvents request _)
    cases refused with
    | tooDeep below =>
        rw [resultAt, if_pos below, openingEvents, if_neg (by omega)]
    | unknownCommand permitted unknown =>
        have unnamed := not_mem_names_iff.2 unknown
        rw [resultAt, if_neg (Nat.not_lt.2 permitted), unknown, openingEvents,
          if_neg fun opens => unnamed opens.2]
    | argument permitted registered mismatch =>
        rw [resultAt, if_neg (Nat.not_lt.2 permitted), registered,
          openingEvents_of_found permitted registered]
        simp only [mismatch]

end Dispatcher

/-! ## Lines -/

namespace Event

def isReceived : Event → Bool
  | .received _ => true
  | _ => false

def isDispatching : Event → Bool
  | .dispatching _ _ => true
  | _ => false

/-- Whether a line of the log says that a handler was found. -/
def isDispatchLine (line : String) : Bool :=
  "DEBUG dispatching ".toList.isPrefixOf line.toList

theorem isDispatchLine_append (rest : String) :
    isDispatchLine (Level.debug.name ++ " " ++ ("dispatching " ++ rest)) = true := by
  rw [isDispatchLine, List.isPrefixOf_iff_prefix, ← String.append_assoc, String.toList_append]
  exact List.prefix_append _ _

theorem isDispatchLine_of_ne_debug {level : Level} (other : level ≠ .debug) (text : String) :
    isDispatchLine (level.name ++ " " ++ text) = false := by
  rw [isDispatchLine, String.toList_append, String.toList_append]
  cases level with
  | debug => exact absurd rfl other
  | info => rfl
  | warn => rfl

/-- Of the events that are logged, the one that a handler is found is logged in this way. -/
theorem isDispatchLine_of_entry {event : Event} {level : Level} {text : String}
    (logged : event.entry? = some (level, text)) :
    isDispatchLine (level.name ++ " " ++ text) = event.isDispatching := by
  cases event with
  | received name => cases logged
  | dispatching name argumentBytes =>
      have sameText : "dispatching " ++ name ++ " (" ++ toString argumentBytes ++
          " argument bytes)" = "dispatching " ++
            (name ++ (" (" ++ (toString argumentBytes ++ " argument bytes)"))) := by
        simp only [String.append_assoc]
      cases logged
      rw [sameText]
      exact isDispatchLine_append _
  | failed _ _ | malformed _ | listening | connectionFailed _ | taskPanicked _ =>
      cases logged
      exact isDispatchLine_of_ne_debug (by decide) _

/-- Only where a handler is found does the log say so. -/
theorem countP_lines (events : List Event) :
    (lines events).countP isDispatchLine = events.countP isDispatching := by
  rw [lines, List.countP_filterMap]
  apply List.countP_congr
  intro event _
  cases logged : event.entry? with
  | none =>
      cases event with
      | received name => rfl
      | _ => cases logged
  | some entry =>
      obtain ⟨level, text⟩ := entry
      rw [← isDispatchLine_of_entry logged]
      rfl

end Event

end RemoteCall
