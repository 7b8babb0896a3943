import RemoteCall.Proofs.Dispatch.Answer
import RemoteCall.Proofs.Envelope

/-!
Contract: a batch answers its requests one after the other.

Owns:
- a plain view of a batch: requests served in turn, until one lets a panic out;
- the answer to a batch in terms of this view.

Does not own: batches inside batches.
-/

namespace RemoteCall

set_option autoImplicit false

open Wire

variable {σ : Type}

/-- The requests of a batch, one for each argument. -/
def Batch.requests (batch : Batch) : List Request :=
  batch.arguments.map fun args => ⟨batch.command, args⟩

namespace Dispatcher

variable {dispatcher : Dispatcher σ} {levels : Nat}

/-- Serves requests one after the other, up to the first that lets a panic out. -/
def answerInTurn (dispatcher : Dispatcher σ) (levels : Nat) :
    List Request → σ → Run σ (Except Panic (List Response))
  | [], state => ⟨.ok [], state, []⟩
  | request :: requests, state =>
      let first := dispatcher.answerWithin levels request state
      match first.outcome with
      | .error panic => ⟨.error panic, first.state, first.events⟩
      | .ok response =>
          let others := dispatcher.answerInTurn levels requests first.state
          ⟨others.outcome.map (response :: ·), others.state, first.events ++ others.events⟩

/-- A request that is answered is followed by the others, in the state that it leaves. -/
theorem answerInTurn_cons {request : Request} {state : σ} {response : Response}
    (answered : (dispatcher.answerWithin levels request state).outcome = .ok response)
    (requests : List Request) :
    let others := dispatcher.answerInTurn levels requests
      (dispatcher.answerWithin levels request state).state
    (dispatcher.answerInTurn levels (request :: requests) state).outcome =
        others.outcome.map (response :: ·) ∧
      (dispatcher.answerInTurn levels (request :: requests) state).state = others.state := by
  rw [answerInTurn]
  simp only [answered, and_self]

/-- All of some requests are answered only if the first one is, and the others after it. -/
theorem answerInTurn_cons_eq_ok {request : Request} {requests : List Request} {state : σ}
    {responses : List Response}
    (answered : (dispatcher.answerInTurn levels (request :: requests) state).outcome =
      .ok responses) :
    ∃ response others, (dispatcher.answerWithin levels request state).outcome = .ok response ∧
      (dispatcher.answerInTurn levels requests
        (dispatcher.answerWithin levels request state).state).outcome = .ok others ∧
      responses = response :: others := by
  cases first : (dispatcher.answerWithin levels request state).outcome with
  | error panic =>
      rw [answerInTurn] at answered
      simp only [first] at answered
      cases answered
  | ok response =>
      rw [(answerInTurn_cons first requests).1] at answered
      obtain ⟨others, othersAnswered, same⟩ := map_eq_ok.1 answered
      exact ⟨response, others, rfl, othersAnswered, same.symm⟩

theorem length_of_answerInTurn {requests : List Request} {state : σ} {responses : List Response}
    (answered : (dispatcher.answerInTurn levels requests state).outcome = .ok responses) :
    responses.length = requests.length := by
  induction requests generalizing state responses with
  | nil =>
      cases answered
      rfl
  | cons request requests inductionHypothesis =>
      obtain ⟨response, others, _, othersAnswered, rfl⟩ := answerInTurn_cons_eq_ok answered
      rw [List.length_cons, List.length_cons, inductionHypothesis othersAnswered]

/-- The requests of a batch are all answered if they let no panic out. -/
theorem exists_answerInTurn {batch : Batch} (noPanicOut : dispatcher.LetsNoPanicOut batch.command)
    (depth : Nat) (state : σ) :
    ∃ responses, (dispatcher.answerInTurn (nestingLimit + 1 - depth) batch.requests
      state).outcome = .ok responses := by
  unfold Batch.requests
  induction batch.arguments generalizing state with
  | nil => exact ⟨[], rfl⟩
  | cons args others inductionHypothesis =>
      obtain ⟨response, isResponse⟩ := noPanicOut depth args state
      obtain ⟨responses, areResponses⟩ := inductionHypothesis
        (dispatcher.answerAt depth ⟨batch.command, args⟩ state).state
      refine ⟨response :: responses, ?_⟩
      rw [List.map_cons, (answerInTurn_cons isResponse _).1]
      exact congrArg (Except.map (response :: ·)) areResponses

/-- How a batch ends: with the bytes of the responses, or with the panic that was let out. -/
private def batchEnding : Except Panic (List Response) → Ending (List Bytes)
  | .ok responses => .returned (responses.map Response.encode)
  | .error panic => .panicked panic

private theorem run_batch_respond (names : List String) (command : String)
    (arguments : List Bytes) (state : σ) :
    (Batch.respond command arguments).run names (dispatcher.answerWithin levels) state =
      (dispatcher.answerInTurn levels (arguments.map fun args => ⟨command, args⟩) state).map
        batchEnding := by
  induction arguments generalizing state with
  | nil => rfl
  | cons args others inductionHypothesis =>
      show (Program.dispatch ⟨command, args⟩ fun response =>
        (Batch.respond command others).bind fun slots =>
          .done (.returned (response.encode :: slots))).run names
            (dispatcher.answerWithin levels) state = _
      rw [Program.run]
      simp only [List.map_cons, answerInTurn]
      cases (dispatcher.answerWithin levels ⟨command, args⟩ state).outcome with
      | error panic => rfl
      | ok response =>
          simp only [Program.run_bind, inductionHypothesis, Run.map]
          cases (dispatcher.answerInTurn levels (others.map fun args => ⟨command, args⟩)
            (dispatcher.answerWithin levels ⟨command, args⟩ state).state).outcome with
          | error panic => rfl
          | ok responses => simp [batchEnding, Program.run, Except.map]

/-- A batch is answered with what its requests are answered with, if no panic is let out by any. -/
theorem answerWithin_batch (builtIn : dispatcher.handlers.find? batchName = some .batch)
    {batch : Batch} (short : batch.encode.length < 2 ^ 64) (state : σ) :
    (dispatcher.answerWithin (levels + 1) ⟨batchName, batch.encode⟩ state).outcome =
      .ok (match (dispatcher.answerInTurn levels batch.requests state).outcome with
        | .ok responses => .success (listBytes (responses.map Response.encode))
        | .error panic => .failure (Refusal.panicked panic.message).message) ∧
    (dispatcher.answerWithin (levels + 1) ⟨batchName, batch.encode⟩ state).state =
      (dispatcher.answerInTurn levels batch.requests state).state := by
  have decoded := Batch.decode_encode short
  rw [answerWithin_outcome_of_decoded builtIn decoded,
    answerWithin_state_of_decoded builtIn decoded]
  have ran := Handler.run_of (fun batch : Batch => Batch.respond batch.command batch.arguments)
    batch dispatcher.names (dispatcher.answerWithin levels) state
  rw [run_batch_respond, ← Batch.requests] at ran
  unfold Handler.batch
  rw [ran]
  refine ⟨?_, rfl⟩
  unfold Run.map
  simp only
  cases (dispatcher.answerInTurn levels batch.requests state).outcome with
  | error panic => rfl
  | ok responses =>
      have written : (Transferable.toValue (responses.map Response.encode)).encode =
          .ok (listBytes (responses.map Response.encode)) := encode_bytesList _
      show Except.map Response.ofResult (.ok ((Transferable.toValue
        (responses.map Response.encode)).encode.mapError Refusal.result)) = _
      rw [written]
      rfl

end Dispatcher

end RemoteCall
