import RemoteCall.Proofs.Client.OneByOne
import RemoteCall.Proofs.Dispatch.Isolation

/-!
Contract: a caller is told that a name is unknown if it is, or if a handler says so in its own
words.

Owns:
- the texts that callers take for the refusal of an unknown name, and the refusals that have one;
- requests that come to such a refusal, in terms of the registered names and of what handlers fail
  with;
- what callers are told, by a call and by each element of a batch.

A refusal reaches its caller as a text. The beginning of this text is all by which an unknown name
is recognised, and a handler may fail with a text that begins in the same way.

Does not own: panics that leave a dispatch.
-/

namespace RemoteCall

set_option autoImplicit false

open Wire

variable {σ : Type}

/-! ## Texts -/

/-- A text that begins like the refusal of an unknown name. -/
def NamesUnknown (text : String) : Prop :=
  unknownCommandText.toList <+: text.toList

instance (text : String) : Decidable (NamesUnknown text) :=
  inferInstanceAs (Decidable (_ <+: _))

/-- This is what callers take for the refusal of an unknown name. -/
theorem RemoteRefusal.isUnknownName_iff {refusal : RemoteRefusal} :
    refusal.isUnknownName = true ↔ NamesUnknown refusal.reason :=
  List.isPrefixOf_iff_prefix

/-- What begins in another way is not such a text, whatever comes next. -/
theorem not_namesUnknown_append {start : String}
    (long : unknownCommandText.toList.length ≤ start.toList.length)
    (differs : ¬ NamesUnknown start) (rest : String) : ¬ NamesUnknown (start ++ rest) := by
  rw [NamesUnknown, String.toList_append]
  intro begins
  exact differs (List.prefix_of_prefix_length_le begins (List.prefix_append _ _) long)

/-- Of all refusals, that of an unknown name has such a text, and that of a handler which itself
fails with one. -/
theorem Refusal.namesUnknown_message_iff (refusal : Refusal) :
    NamesUnknown refusal.message ↔
      (∃ name, refusal = .unknownCommand name) ∨
        ∃ text, refusal = .failed text ∧ NamesUnknown text := by
  cases refusal with
  | malformedRequest error =>
      have other : ¬ NamesUnknown ("malformed request: " ++ error.message) :=
        not_namesUnknown_append (by decide) (by decide) _
      exact iff_of_false other (by simp)
  | tooDeep =>
      have other : ¬ NamesUnknown (message .tooDeep) := by decide +kernel
      exact iff_of_false other (by simp)
  | unknownCommand name =>
      have named : NamesUnknown (unknownCommandText ++ name) := by
        rw [NamesUnknown, String.toList_append]
        exact List.prefix_append _ _
      exact iff_of_true named (.inl ⟨name, rfl⟩)
  | argument error =>
      have other : ¬ NamesUnknown ("argument type mismatch: " ++ error.message) :=
        not_namesUnknown_append (by decide) (by decide) _
      exact iff_of_false other (by simp)
  | failed text =>
      show NamesUnknown text ↔ _
      simp
  | panicked text =>
      have other : ¬ NamesUnknown ("command panicked: " ++ text) :=
        not_namesUnknown_append (by decide) (by decide) _
      exact iff_of_false other (by simp)
  | result error =>
      have other : ¬ NamesUnknown ("encoding result: " ++ error.message) :=
        not_namesUnknown_append (by decide) (by decide) _
      exact iff_of_false other (by simp)

/-! ## Requests -/

namespace Dispatcher

variable {dispatcher : Dispatcher σ} {depth : Nat} {request : Request} {state : σ}

/-- A request passes all checks, and the run of its handler fails with a text that begins like the
refusal of an unknown name. -/
def FailsAsUnknown (dispatcher : Dispatcher σ) (depth : Nat) (request : Request) (state : σ) :
    Prop :=
  ∃ handler argument text, dispatcher.Admits depth request handler argument ∧
    (handler.runAt dispatcher depth argument state).outcome = .failed (.message text) ∧
    NamesUnknown text

/-- A result that callers take for the refusal of an unknown name. -/
def RefusesAsUnknown (result : Except Refusal Bytes) : Prop :=
  ∃ refusal, result = .error refusal ∧ NamesUnknown refusal.message

theorem settle_eq_failed_iff {type : WireType} {ending : Ending type.Member} {text : String} :
    settle ending = .ok (.error (.failed text)) ↔ ending = .failed (.message text) := by
  constructor
  · intro settled
    cases ending with
    | returned member =>
        rw [settle] at settled
        cases written : member.val.encode with
        | error error =>
            rw [written] at settled
            cases settled
        | ok payload =>
            rw [written] at settled
            cases settled
    | failed failure =>
        cases failure with
        | message other =>
            cases settled
            rfl
        | unspeakable panic => cases settled
    | panicked panic => cases settled
  · rintro rfl
    rfl

/-- Of the ways in which a body ends, only a failure can be taken for an unknown name. -/
theorem refusesAsUnknown_of_settle {type : WireType} {ending : Ending type.Member}
    {result : Except Refusal Bytes} (settled : settle ending = .ok result) :
    RefusesAsUnknown result ↔ ∃ text, ending = .failed (.message text) ∧ NamesUnknown text := by
  constructor
  · rintro ⟨refusal, rfl, named⟩
    rcases refusal.namesUnknown_message_iff.1 named with ⟨name, rfl⟩ | ⟨text, rfl, textNames⟩
    · exact absurd settled (settle_ne_unknownCommand ending name)
    · exact ⟨text, settle_eq_failed_iff.1 settled, textNames⟩
  · rintro ⟨text, rfl, textNames⟩
    cases settled
    exact ⟨.failed text, rfl, textNames⟩

/-- A permitted request comes to a refusal that is taken for that of an unknown name if it is one,
or if its handler fails with such a text. -/
theorem refusesAsUnknown_iff (permitted : depth ≤ 32) {result : Except Refusal Bytes}
    (came : (dispatcher.resultAt depth request state).outcome = .ok result) :
    RefusesAsUnknown result ↔
      request.name ∉ dispatcher.names ∨ dispatcher.FailsAsUnknown depth request state := by
  constructor
  · intro refuses
    rcases dispatcher.admits_or_refuses depth request with ⟨handler, argument, admitted⟩ | refused
    · rw [resultAt_of_admits admitted] at came
      obtain ⟨text, ended, named⟩ := (refusesAsUnknown_of_settle came).1 refuses
      exact .inr ⟨handler, argument, text, admitted, ended, named⟩
    · obtain ⟨refusal, refused⟩ := refused
      rw [(resultAt_of_refuses refused state).1] at came
      cases came
      obtain ⟨_, same, named⟩ := refuses
      cases same
      cases refused with
      | tooDeep below => exact absurd permitted (Nat.not_le_of_lt below)
      | unknownCommand _ unknown => exact .inl (not_mem_names_iff.2 unknown)
      | argument _ _ _ =>
          have other := (Refusal.namesUnknown_message_iff _).1 named
          simp at other
  · rintro (unknown | ⟨handler, argument, text, admitted, ended, named⟩)
    · rw [(resultAt_unknownCommand_iff permitted).2 (not_mem_names_iff.1 unknown)] at came
      cases came
      exact ⟨_, rfl, (Refusal.namesUnknown_message_iff _).2 (.inl ⟨_, rfl⟩)⟩
    · rw [resultAt_of_admits admitted] at came
      exact (refusesAsUnknown_of_settle came).2 ⟨text, ended, named⟩

end Dispatcher

/-! ## Callers -/

namespace Client

/-- A caller learns from the outcome of a call that the name is unknown. -/
def ToldUnknown {type : WireType} (outcome : Except CallFailure type.Member) : Prop :=
  ∃ refusal, outcome = .error (.remote refusal) ∧ refusal.isUnknownName = true

theorem toldUnknown_toResult_iff {result : Except Refusal Bytes} (type : WireType)
    (short : (Response.ofResult result).Short) :
    ToldUnknown ((Response.ofResult result).toResult type) ↔
      Dispatcher.RefusesAsUnknown result := by
  cases result with
  | ok payload =>
      have noRefusal : ¬ ToldUnknown ((type.decode payload).mapError .decode) := by
        cases type.decode payload <;> rintro ⟨_, same, _⟩ <;> cases same
      exact iff_of_false noRefusal nofun
  | error refusal =>
      rw [Response.ofResult] at short ⊢
      rw [Response.toResult_failure type short]
      constructor
      · rintro ⟨_, same, named⟩
        cases same
        exact ⟨refusal, rfl, RemoteRefusal.isUnknownName_iff.1 named⟩
      · rintro ⟨_, same, named⟩
        cases same
        exact ⟨_, rfl, RemoteRefusal.isUnknownName_iff.2 named⟩

variable {server : Server σ} {command : Command}

/-- The caller of a command. -/
theorem toldUnknown_call_iff (noPanicOut : server.dispatcher.LetsNoPanicOut command.name)
    {argument : Value} {args : Bytes} (written : argument.encode = .ok args)
    (short : Request.Short ⟨command.name, args⟩)
    (answerShort : ∀ response, (server.answer ⟨command.name, args⟩).1 = .ok response →
      response.Short) :
    ∃ outcome, (call Transport.inProcess command.name argument command.result server).1 =
        .ok outcome ∧
      (ToldUnknown outcome ↔ command.name ∉ server.dispatcher.names ∨
        server.dispatcher.FailsAsUnknown 0 ⟨command.name, args⟩ server.state) := by
  obtain ⟨response, answered⟩ := noPanicOut 0 args server.state
  have came := answered
  rw [Dispatcher.answerAt_outcome] at came
  obtain ⟨result, isResult, rfl⟩ := map_eq_ok.1 came
  have called := call_inProcess_of_answered written short answered (answerShort _ answered)
    command.result
  refine ⟨_, congrArg Prod.fst called, ?_⟩
  rw [toldUnknown_toResult_iff command.result (answerShort _ answered)]
  exact Dispatcher.refusesAsUnknown_iff (Nat.zero_le 32) isResult

/-- The caller of a batch, for each of its elements. -/
theorem toldUnknown_slot_iff (composed : server.dispatcher.Composed)
    (noPanicOut : server.dispatcher.LetsNoPanicOut command.name)
    {arguments : List Value} {written : List Bytes} (areWritten : AreWritten arguments written)
    (short : (Batch.encode ⟨command.name, written⟩).length < 2 ^ 64)
    (answerShort : ∀ response,
      (server.answer ⟨batchName, Batch.encode ⟨command.name, written⟩⟩).1 = .ok response →
        response.Short) :
    ∃ outcomes, (invokeEach Transport.inProcess command arguments server).1 =
        .ok (.ok outcomes) ∧ outcomes.length = arguments.length ∧
      ∀ index args outcome, written[index]? = some args → outcomes[index]? = some outcome →
        let before := server.dispatcher.stateBefore 1 (Batch.requests ⟨command.name, written⟩)
          index server.state
        (ToldUnknown outcome ↔ command.name ∉ server.dispatcher.names ∨
          server.dispatcher.FailsAsUnknown 1 ⟨command.name, args⟩ before) := by
  have builtIn := composed.find?_builtIn.1
  let batch : Batch := ⟨command.name, written⟩
  have speaks (index : Nat) : server.dispatcher.SpeaksAt 1 batch.requests index server.state :=
    Dispatcher.speaksAt_requests noPanicOut 1 index server.state
  obtain ⟨results, comesTo, inTurn, _⟩ := Dispatcher.answerInTurn_of_speaksAt speaks
  have answered : (server.dispatcher.answerInTurn nestingLimit batch.requests
      server.state).outcome = .ok (results.map Response.ofResult) := inTurn
  -- the answer to the batch bounds the answer to each element
  have listShort :
      (listBytes ((results.map Response.ofResult).map Response.encode)).length < 2 ^ 64 := by
    obtain ⟨outcome, _⟩ := @Dispatcher.answerWithin_batch σ server.dispatcher nestingLimit builtIn
      batch short server.state
    rw [answered] at outcome
    exact answerShort _ outcome
  obtain ⟨called, _, _⟩ :=
    invokeEach_inProcess server command builtIn areWritten short answered listShort
  refine ⟨_, called, ?_, ?_⟩
  · rw [outcomesOf, List.length_map, List.length_map, comesTo.length, Batch.requests,
      List.length_map, areWritten.length_eq]
  · intro index args outcome foundArgs foundOutcome before
    rw [outcomesOf, List.map_map, List.getElem?_map] at foundOutcome
    obtain ⟨result, foundResult, rfl⟩ := Option.map_eq_some_iff.1 foundOutcome
    have foundRequest : batch.requests[index]? = some ⟨command.name, args⟩ := by
      rw [Batch.requests, List.getElem?_map, foundArgs]
      rfl
    have resultShort : (Response.ofResult result).Short :=
      Response.short_of_encode_mem
        (List.mem_map_of_mem (List.mem_map_of_mem (List.mem_of_getElem? foundResult))) listShort
    show ToldUnknown ((Response.ofResult result).toResult command.result) ↔ _
    rw [toldUnknown_toResult_iff command.result resultShort]
    exact Dispatcher.refusesAsUnknown_iff (by decide)
      (comesTo.each index _ _ foundRequest foundResult)

/-- A caller is told that a name is unknown exactly if it has no handler, or if the handler that it
has fails in words that begin like those for an unknown name. This holds of a call, and of each
element of a batch, which is served in the state that those before it leave. So a caller who is not
told knows that the name has a handler, and one who is told knows that it has none only if handlers
are known to use other words. -/
theorem toldUnknown_iff (server : Server σ) (composed : server.dispatcher.Composed)
    (command : Command) (noPanicOut : server.dispatcher.LetsNoPanicOut command.name) :
    (∀ argument args, argument.encode = .ok args → Request.Short ⟨command.name, args⟩ →
      (∀ response, (server.answer ⟨command.name, args⟩).1 = .ok response → response.Short) →
      ∃ outcome, (call Transport.inProcess command.name argument command.result server).1 =
          .ok outcome ∧
        (ToldUnknown outcome ↔ command.name ∉ server.dispatcher.names ∨
          server.dispatcher.FailsAsUnknown 0 ⟨command.name, args⟩ server.state)) ∧
    ∀ arguments written, AreWritten arguments written →
      (Batch.encode ⟨command.name, written⟩).length < 2 ^ 64 →
      (∀ response,
        (server.answer ⟨batchName, Batch.encode ⟨command.name, written⟩⟩).1 = .ok response →
          response.Short) →
      ∃ outcomes, (invokeEach Transport.inProcess command arguments server).1 =
          .ok (.ok outcomes) ∧ outcomes.length = arguments.length ∧
        ∀ index args outcome, written[index]? = some args → outcomes[index]? = some outcome →
          let before := server.dispatcher.stateBefore 1 (Batch.requests ⟨command.name, written⟩)
            index server.state
          (ToldUnknown outcome ↔ command.name ∉ server.dispatcher.names ∨
            server.dispatcher.FailsAsUnknown 1 ⟨command.name, args⟩ before) := by
  constructor
  · intro argument args written short answerShort
    exact toldUnknown_call_iff noPanicOut written short answerShort
  · intro arguments written areWritten short answerShort
    exact toldUnknown_slot_iff composed noPanicOut areWritten short answerShort

/-- The notepad has no command of the name, and its caller is told so in both ways. -/
theorem toldUnknown_triple :
    let command : Command := ⟨"Triple", .text, .unit⟩
    let called := call Transport.inProcess "Triple" (.text "a") .unit Sample.notepad
    let together := invokeEach Transport.inProcess command [.text "a"] Sample.notepad
    "Triple" ∉ Sample.notepad.dispatcher.names ∧
      (∃ outcome, called.1 = .ok outcome ∧ ToldUnknown outcome) ∧
      ∃ outcomes outcome, together.1 = .ok (.ok outcomes) ∧ outcomes[0]? = some outcome ∧
        ToldUnknown outcome := by
  intro command called together
  have unknown : "Triple" ∉ Sample.notepad.dispatcher.names := by decide +kernel
  obtain ⟨calls, batches⟩ := toldUnknown_iff Sample.notepad Sample.composed_notepad command
    (Sample.speaks_notepad.letsNoPanicOut "Triple")
  have requestShort : Request.Short ⟨"Triple", [1, 97]⟩ := ⟨by decide, by decide⟩
  have answerLength : (Sample.notepad.answer ⟨"Triple", [1, 97]⟩).1.toOption.map
      (·.payload.length) = some 24 := by decide +kernel
  have answerShort := Response.short_of_length answerLength (by decide)
  obtain ⟨outcome, isOutcome, told⟩ := calls (.text "a") [1, 97] rfl requestShort answerShort
  have batchShort : (Batch.encode ⟨"Triple", [[1, 97]]⟩).length < 2 ^ 64 := by decide
  have batchLength : (Sample.notepad.answer ⟨batchName,
      Batch.encode ⟨"Triple", [[1, 97]]⟩⟩).1.toOption.map (·.payload.length) = some 28 := by
    decide +kernel
  have batchAnswerShort := Response.short_of_length batchLength (by decide)
  obtain ⟨outcomes, areOutcomes, count, toldEach⟩ :=
    batches [.text "a"] [[1, 97]] (.cons rfl .nil) batchShort batchAnswerShort
  obtain ⟨first, rfl⟩ := List.length_eq_one_iff.1 count
  exact ⟨unknown, ⟨outcome, isOutcome, told.2 (.inl unknown)⟩, [first], first, areOutcomes, rfl,
    (toldEach 0 [1, 97] first rfl rfl).2 (.inl unknown)⟩

/-- The notepad has the command, which fails with the text that it notes. Its caller is told that
the name is unknown. -/
theorem toldUnknown_note :
    let text := "unknown command: Note"
    let called := call Transport.inProcess "Note" (.text text) .unit Sample.notepad
    Sample.notepad.dispatcher.Composed ∧ Sample.notepad.dispatcher.LetsNoPanicOut "Note" ∧
      "Note" ∈ Sample.notepad.dispatcher.names ∧
      ∃ outcome, called.1 = .ok outcome ∧ outcome = .error (.remote ⟨text⟩) ∧
        ToldUnknown outcome := by
  intro text called
  have registered : "Note" ∈ Sample.notepad.dispatcher.names := by decide +kernel
  have requestShort : Request.Short ⟨"Note", sized (Utf8.encode text)⟩ := ⟨by decide, by decide⟩
  have answered : (Sample.notepad.answer ⟨"Note", sized (Utf8.encode text)⟩).1 =
      .ok (.failure text) := by decide +kernel
  have short : (Response.failure text).Short := by
    unfold Response.Short
    decide
  have isOutcome : called.1 = .ok (.error (.remote ⟨text⟩)) := by
    rw [← Response.toResult_failure .unit short]
    exact congrArg Prod.fst (call_inProcess_of_answered rfl requestShort answered short .unit)
  have named : NamesUnknown text := by decide +kernel
  exact ⟨Sample.composed_notepad, Sample.speaks_notepad.letsNoPanicOut "Note", registered, _,
    isOutcome, rfl, ⟨text⟩, rfl, RemoteRefusal.isUnknownName_iff.2 named⟩

end Client

end RemoteCall
