import RemoteCall.Proofs.Dispatch.Answer
import RemoteCall.Proofs.Envelope
import RemoteCall.Sample.Notepad
import RemoteCall.Transport.Local

/-!
Contract: a call to a server in the same process comes to what running the handler's body comes to.

Owns:
- an exchange and a call in terms of the server's answer to the request;
- what a caller sees of the way in which a body ends;
- the agreement of a call with a run of the body.

Does not own: batches, and calls over a connection.
-/

namespace RemoteCall

set_option autoImplicit false

open Wire

variable {σ : Type}

/-! ## Exchanges -/

/-- The bytes of a request are served like the request itself. -/
theorem Server.serve_encode {server : Server σ} {request : Request} (short : request.Short) :
    server.serve request.encode =
      ((server.answer request).1.map Response.encode, (server.answer request).2) := by
  rw [serve, Dispatcher.serve_of_decode (Request.decode_encode short)]
  rfl

namespace Client

variable {server : Server σ}

theorem exchange_inProcess {request : Request} (short : request.Short)
    (answerShort : ∀ response, (server.answer request).1 = .ok response → response.Short) :
    exchange Transport.inProcess request server =
      ((server.answer request).1.map .ok, (server.answer request).2) := by
  unfold exchange Transport.inProcess
  simp only [Server.serve_encode short]
  cases answered : (server.answer request).1 with
  | error panic => rfl
  | ok response =>
      have decoded := Response.decode_encode (answerShort response answered)
      simp only [Except.map, decoded]
      rfl

/-- The caller sees the result that the server's answer carries. -/
theorem call_inProcess {name : String} {argument : Value} {args : Bytes}
    (written : argument.encode = .ok args) (short : Request.Short ⟨name, args⟩)
    (answerShort : ∀ response, (server.answer ⟨name, args⟩).1 = .ok response → response.Short)
    (type : WireType) :
    call Transport.inProcess name argument type server =
      ((server.answer ⟨name, args⟩).1.map (·.toResult type), (server.answer ⟨name, args⟩).2) := by
  have writtenOrPanic : argument.encodeOrPanic = .ok args := by
    rw [Value.encodeOrPanic, written]
    rfl
  unfold call
  simp only [writtenOrPanic, exchange_inProcess short answerShort]
  cases (server.answer ⟨name, args⟩).1 <;> rfl

theorem call_inProcess_of_answered {name : String} {argument : Value} {args : Bytes}
    (written : argument.encode = .ok args) (short : Request.Short ⟨name, args⟩)
    {response : Response} (answered : (server.answer ⟨name, args⟩).1 = .ok response)
    (responseShort : response.Short) (type : WireType) :
    call Transport.inProcess name argument type server =
      (.ok (response.toResult type), (server.answer ⟨name, args⟩).2) := by
  have answerShort : ∀ other, (server.answer ⟨name, args⟩).1 = .ok other → other.Short := by
    intro other otherAnswered
    rw [answered] at otherAnswered
    cases otherAnswered
    exact responseShort
  rw [call_inProcess written short answerShort, answered]
  rfl

end Client

/-! ## The ending of a body -/

/-- Runs the body of a handler once, as a request from outside would, but on the argument itself. -/
def Handler.runOn (handler : Handler σ) (dispatcher : Dispatcher σ)
    (argument : handler.argument.Member) (state : σ) : Run σ (Ending handler.result.Member) :=
  (handler.body argument).run dispatcher.names (dispatcher.answerAt 1) state

namespace Ending

variable {result : WireType}

/-- What the caller of a command sees of the way in which its body ends. -/
def asCalled : Ending result.Member → Attempt result.Member
  | .returned member =>
      match member.val.encode with
      | .ok _ => .ok (.ok member)
      | .error error => .ok (.error (.remote ⟨"encoding result: " ++ error.message⟩))
  | .failed (.message text) => .ok (.error (.remote ⟨text⟩))
  | .failed (.unspeakable panic) => .error panic
  | .panicked panic => .ok (.error (.remote ⟨"command panicked: " ++ panic.message⟩))

/-- The lengths in a result, and in the answer to a request that ends in this way, can be
written. -/
structure Short (ending : Ending result.Member) : Prop where
  returned : ∀ member, ending = .returned member → member.val.Short
  answered : ∀ answer, Dispatcher.settle ending = .ok answer → (Response.ofResult answer).Short

theorem map_toResult_settle {ending : Ending result.Member} (short : ending.Short) :
    ((Dispatcher.settle ending).map Response.ofResult).map (·.toResult result) =
      ending.asCalled := by
  have refused {refusal : Refusal} (settled : Dispatcher.settle ending = .ok (.error refusal)) :
      ((Dispatcher.settle ending).map Response.ofResult).map (·.toResult result) =
        .ok (.error (.remote ⟨refusal.message⟩)) := by
    rw [settled]
    exact congrArg Except.ok (Response.toResult_failure result (short.answered _ settled))
  cases ending with
  | returned member =>
      rw [asCalled]
      cases written : member.val.encode with
      | error error => exact refused (by rw [Dispatcher.settle, written]; rfl)
      | ok payload =>
          rw [Dispatcher.settle, written]
          exact congrArg Except.ok
            (Response.toResult_success_of_encode written (short.returned member rfl))
  | failed failure =>
      cases failure with
      | message text => exact refused rfl
      | unspeakable panic => rfl
  | panicked panic => exact refused rfl

/-- A command that is called and fails is refused by the server, whatever its body does. -/
theorem remote_of_asCalled {ending : Ending result.Member} {failure : CallFailure}
    (failed : ending.asCalled = .ok (.error failure)) : ∃ refusal, failure = .remote refusal := by
  unfold asCalled at failed
  split at failed
  · split at failed <;> cases failed
    exact ⟨_, rfl⟩
  · cases failed
    exact ⟨_, rfl⟩
  · cases failed
  · cases failed
    exact ⟨_, rfl⟩

end Ending

/-! ## Calls are local -/

/-- A request whose handler takes the argument is answered with what the body ends in, and leaves
the state that the body leaves. -/
theorem Server.answer_of_decoded (server : Server σ) (request : Request) {handler : Handler σ}
    {argument : handler.argument.Member}
    (found : server.dispatcher.handlers.find? request.name = some handler)
    (decoded : handler.argument.decode request.args = .ok argument) :
    let ran := handler.runOn server.dispatcher argument server.state
    (server.answer request).1 = (Dispatcher.settle ran.outcome).map Response.ofResult ∧
      (server.answer request).2.dispatcher = server.dispatcher ∧
      (server.answer request).2.state = ran.state :=
  ⟨Dispatcher.answerWithin_outcome_of_decoded found decoded, rfl,
    Dispatcher.answerWithin_state_of_decoded found decoded⟩

/-- A remote call is the local call. The caller sees what the body of the handler ends in when it is
run once on the argument, the server is left in the state that the body leaves, and the call comes
to nothing only if the server refuses it. -/
theorem Client.call_eq_run (server : Server σ) (name : String) {handler : Handler σ}
    (found : server.dispatcher.handlers.find? name = some handler)
    (argument : handler.argument.Member) {args : Bytes}
    (written : argument.val.encode = .ok args) (argumentShort : argument.val.Short)
    (requestShort : Request.Short ⟨name, args⟩)
    (endingShort : (handler.runOn server.dispatcher argument server.state).outcome.Short) :
    let ran := handler.runOn server.dispatcher argument server.state
    let called := call Transport.inProcess name argument.val handler.result server
    called.1 = ran.outcome.asCalled ∧
      called.2.dispatcher = server.dispatcher ∧ called.2.state = ran.state ∧
      (∀ failure, called.1 = .ok (.error failure) → ∃ refusal, failure = .remote refusal) ∧
      invoke Transport.inProcess ⟨name, handler.argument, handler.result⟩ argument.val server =
        called := by
  intro ran called
  have decoded : handler.argument.decode args = .ok argument :=
    WireType.decode_of_spelledBy argument (argument.spelledBy written argumentShort)
  obtain ⟨outcome, sameDispatcher, state⟩ :=
    server.answer_of_decoded ⟨name, args⟩ found decoded
  have answerShort : ∀ response, (server.answer ⟨name, args⟩).1 = .ok response →
      response.Short := by
    intro response answered
    rw [outcome] at answered
    obtain ⟨answer, settled, rfl⟩ := map_eq_ok.1 answered
    exact endingShort.answered answer settled
  have answered : called = ((server.answer ⟨name, args⟩).1.map (·.toResult handler.result),
      (server.answer ⟨name, args⟩).2) :=
    call_inProcess written requestShort answerShort handler.result
  have seen : called.1 = ran.outcome.asCalled := by
    rw [answered, ← Ending.map_toResult_settle endingShort, ← outcome]
  refine ⟨seen, ?_, ?_, fun failure failed => ?_, rfl⟩
  · rw [answered, sameDispatcher]
  · rw [answered, state]
  · rw [seen] at failed
    exact Ending.remote_of_asCalled failed

theorem Client.call_note :
    let argument : Sample.note.argument.Member := Transferable.toMember "full"
    let called := call Transport.inProcess "Note" argument.val Sample.note.result Sample.notepad
    Sample.notepad.dispatcher.handlers.find? "Note" = some Sample.note ∧
      argument.val.encode = .ok [4, 102, 117, 108, 108] ∧ argument.val.Short ∧
      called.1 = .ok (.error (.remote ⟨"full"⟩)) ∧
      called.2.state = ⟨0, ["full"], 0, 0, []⟩ := by
  have found : Sample.notepad.dispatcher.handlers.find? "Note" = some Sample.note := rfl
  have written : (Value.text "full").encode = .ok [4, 102, 117, 108, 108] := rfl
  have argumentShort : (Value.text "full").Short := Value.short_text.2 (by decide)
  have ended : Sample.note.runOn Sample.notepad.dispatcher (Transferable.toMember "full")
      Sample.notepad.state = ⟨.failed (.message "full"), ⟨0, ["full"], 0, 0, []⟩, []⟩ := rfl
  have endingShort : (Sample.note.runOn Sample.notepad.dispatcher (Transferable.toMember "full")
      Sample.notepad.state).outcome.Short := by
    rw [ended]
    refine ⟨nofun, fun answer settled => ?_⟩
    cases settled
    unfold Response.Short
    decide
  obtain ⟨seen, _, state, _⟩ := call_eq_run Sample.notepad "Note" found
    (Transferable.toMember "full") written argumentShort ⟨by decide, by decide⟩ endingShort
  rw [ended] at seen state
  exact ⟨found, written, argumentShort, seen, state⟩

end RemoteCall
