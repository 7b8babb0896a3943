import RemoteCall.Proofs.Dispatch.Result
import RemoteCall.Proofs.Envelope
import RemoteCall.Sample.Notepad

/-!
Contract: the bytes of an answer say what the answer says, and bytes that are no request are
answered too.

Owns:
- the responses with which requests are answered, each of which says what came of its request;
- serving the bytes of a request, in any spelling, against answering the request itself;
- serving bytes that are no request.

Does not own: what a request is answered with.
-/

namespace RemoteCall

set_option autoImplicit false

open Wire

variable {σ : Type}

/-- A response to a request carries a written result, or the message of a refusal. -/
theorem Response.outcome_ofResult {result : Except Refusal Bytes}
    (short : (ofResult result).Short) :
    (ofResult result).outcome = .ok (result.mapError Refusal.message) := by
  cases result with
  | ok payload => rfl
  | error refusal => exact outcome_failure short

namespace Dispatcher

variable {dispatcher : Dispatcher σ} {request : Request} {state : σ}

theorem exists_result_of_answerAt {depth : Nat} {response : Response}
    (answered : (dispatcher.answerAt depth request state).outcome = .ok response) :
    ∃ result, response = .ofResult result := by
  rw [answerAt_outcome] at answered
  obtain ⟨result, _, same⟩ := map_eq_ok.1 answered
  exact ⟨result, same.symm⟩

/-! ## Bytes -/

theorem serve_of_malformed {input : Bytes} {error : DecodeError}
    (malformed : Request.decode input = .error error) :
    dispatcher.serve input state =
      ⟨.ok (Response.ofResult (.error (.malformedRequest error))).encode, state,
        [.malformed (.malformedRequest error)]⟩ := by
  unfold serve
  rw [malformed]
  rfl

/-- Whatever bytes are served, an answer is what is written for the response to a request. -/
theorem exists_result_of_serve {input answer : Bytes}
    (answered : (dispatcher.serve input state).outcome = .ok answer) :
    ∃ result, answer = (Response.ofResult result).encode := by
  cases decoded : Request.decode input with
  | error error =>
      rw [serve_of_malformed decoded] at answered
      cases answered
      exact ⟨_, rfl⟩
  | ok request =>
      rw [serve_of_decode decoded] at answered
      obtain ⟨response, responseAnswered, rfl⟩ := map_eq_ok.1 answered
      obtain ⟨result, rfl⟩ := exists_result_of_answerAt responseAnswered
      exact ⟨result, rfl⟩

section Short

variable {input : Bytes}
  (answerShort : ∀ answer, (dispatcher.serve input state).outcome = .ok answer →
    answer.length < 2 ^ 64)

include answerShort

/-- What is read from the answer to the bytes of a request is the response to the request. -/
theorem decode_serve_of_decode (decoded : Request.decode input = .ok request) :
    (dispatcher.serve input state).outcome.map Response.decode =
      (dispatcher.answer request state).outcome.map .ok := by
  rw [serve_of_decode decoded] at answerShort ⊢
  simp only at answerShort ⊢
  cases answered : (dispatcher.answer request state).outcome with
  | error panic => rfl
  | ok response =>
      rw [answered] at answerShort
      have short := Response.short_of_encode (answerShort _ rfl)
      exact congrArg Except.ok (Response.decode_encode short)

theorem decode_serve_of_malformed {error : DecodeError}
    (malformed : Request.decode input = .error error) :
    (dispatcher.serve input state).outcome.map Response.decode =
      .ok (.ok (.failure ("malformed request: " ++ error.message))) := by
  rw [serve_of_malformed malformed] at answerShort ⊢
  have short := Response.short_of_encode (answerShort _ rfl)
  exact congrArg Except.ok (Response.decode_encode short)

/-- An answer is read as a response, and what this says is read as well. -/
theorem exists_result_of_serve_short {answer : Bytes}
    (answered : (dispatcher.serve input state).outcome = .ok answer) :
    ∃ result, Response.decode answer = .ok (.ofResult result) ∧
      (Response.ofResult result).outcome = .ok (result.mapError Refusal.message) := by
  obtain ⟨result, rfl⟩ := exists_result_of_serve answered
  have short := Response.short_of_encode (answerShort _ answered)
  exact ⟨result, Response.decode_encode short, Response.outcome_ofResult short⟩

end Short

/-- Every answer is an envelope. Bytes that spell a request are served as the request is answered:
with the same panic, or with bytes from which the same response is read, and with the same state and
events after it. Bytes that do not are answered with the reason, whatever handlers there are, and
nothing else happens. An answer that is given is read as a response, and what this says is never in
doubt: a written result, or the message of a refusal. -/
theorem serve_agrees_with_answer (dispatcher : Dispatcher σ) (input : Bytes) (state : σ)
    (answerShort : ∀ answer, (dispatcher.serve input state).outcome = .ok answer →
      answer.length < 2 ^ 64) :
    let served := dispatcher.serve input state
    (∀ request, Request.decode input = .ok request →
      let answered := dispatcher.answer request state
      served.outcome.map Response.decode = answered.outcome.map .ok ∧
        served.state = answered.state ∧ served.events = answered.events) ∧
    (∀ error, Request.decode input = .error error →
      served.outcome.map Response.decode =
          .ok (.ok (.failure ("malformed request: " ++ error.message))) ∧
        served.state = state ∧ served.events = [.malformed (.malformedRequest error)] ∧
        ∀ other : Dispatcher σ, other.serve input state = served) ∧
    (∀ answer, served.outcome = .ok answer → ∃ result,
      Response.decode answer = .ok (.ofResult result) ∧
        (Response.ofResult result).outcome = .ok (result.mapError Refusal.message)) := by
  refine ⟨fun request decoded => ?_, fun error malformed => ?_, fun answer answered => ?_⟩
  · have agrees := decode_serve_of_decode answerShort decoded
    rw [serve_of_decode decoded] at agrees ⊢
    exact ⟨agrees, rfl, rfl⟩
  · have refused := decode_serve_of_malformed answerShort malformed
    have alike : ∀ other : Dispatcher σ,
        other.serve input state = dispatcher.serve input state := by
      intro other
      rw [serve_of_malformed malformed, serve_of_malformed malformed]
    refine ⟨refused, ?_, ?_, alike⟩
    · rw [serve_of_malformed malformed]
    · rw [serve_of_malformed malformed]
  · exact exists_result_of_serve_short answerShort answered

/-- A request for a note, with a marker before the length of its name. -/
theorem serve_wideNote :
    let wide : Bytes := [0xFB, 4, 0, 78, 111, 116, 101, 2, 1, 97]
    let served := Sample.notepad.dispatcher.serve wide .initial
    Request.decode wide = .ok ⟨"Note", [1, 97]⟩ ∧
      (∀ answer, served.outcome = .ok answer → answer.length < 2 ^ 64) ∧
      served.outcome.map Response.decode = .ok (.ok (.failure "a")) ∧
      served.state = ⟨0, ["a"], 0, 0, []⟩ := by
  intro wide served
  have decoded : Request.decode wide = .ok ⟨"Note", [1, 97]⟩ :=
    eq_ok_of_toOption (by decide +kernel)
  have servedAs : served.outcome = .ok [0, 2, 1, 97] := eq_ok_of_toOption (by decide +kernel)
  have answered : (Sample.notepad.dispatcher.answer ⟨"Note", [1, 97]⟩ .initial).outcome =
      .ok (.failure "a") := eq_ok_of_toOption (by decide +kernel)
  have noted : (Sample.notepad.dispatcher.answer ⟨"Note", [1, 97]⟩ .initial).state =
      ⟨0, ["a"], 0, 0, []⟩ := by decide +kernel
  have answerShort : ∀ answer, served.outcome = .ok answer → answer.length < 2 ^ 64 := by
    intro answer same
    rw [servedAs] at same
    cases same
    decide
  obtain ⟨agrees, _, _⟩ :=
    serve_agrees_with_answer Sample.notepad.dispatcher wide .initial answerShort
  obtain ⟨outcome, sameState, _⟩ := agrees _ decoded
  rw [answered] at outcome
  rw [noted] at sameState
  exact ⟨decoded, answerShort, outcome, sameState⟩

end Dispatcher

end RemoteCall
