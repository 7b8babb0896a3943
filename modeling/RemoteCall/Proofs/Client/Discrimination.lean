import RemoteCall.Proofs.Client.OneByOne
import RemoteCall.Proofs.Client.Operation
import RemoteCall.Transport.Canned

/-!
Contract: whatever a transport brings, a caller can tell a failed exchange, a refusal, a result and
an answer that cannot be read from each other.

Owns:
- what the bytes of an answer carry, which is exactly one of three things;
- what a caller makes of an exchange;
- calls, each of which makes one exchange with the bytes of its request, or none if its argument
  cannot be written;
- the slots of a batch, each of which is read by itself.

Does not own: what servers answer.
-/

namespace RemoteCall

set_option autoImplicit false

open Wire

variable {τ : Type}

/-! ## What an answer carries -/

namespace Response

/-- The bytes of an answer carry a result of a type. -/
def CarriesResult (answer : Bytes) (type : WireType) (result : type.Member) : Prop :=
  ∃ payload, decode answer = .ok ⟨true, payload⟩ ∧ type.decode payload = .ok result

/-- The bytes of an answer carry the reason of a failure. -/
def CarriesReason (answer : Bytes) (reason : String) : Prop :=
  ∃ payload, decode answer = .ok ⟨false, payload⟩ ∧
    Transferable.decode String payload = .ok reason

/-- The bytes of an answer carry neither. They are no response, or the part of the response that
matters is not of its type. -/
inductive Unreadable (answer : Bytes) (type : WireType) : DecodeError → Prop where
  | response {error : DecodeError} : decode answer = .error error → Unreadable answer type error
  | reason {payload : Bytes} {error : DecodeError} : decode answer = .ok ⟨false, payload⟩ →
      Transferable.decode String payload = .error error → Unreadable answer type error
  | result {payload : Bytes} {error : DecodeError} : decode answer = .ok ⟨true, payload⟩ →
      type.decode payload = .error error → Unreadable answer type error

variable {answer : Bytes} {type : WireType}

/-- What the bytes of an answer say to a caller who asks for a result of a type. -/
inductive Tells (answer : Bytes) (type : WireType) : Except CallFailure type.Member → Prop where
  | result {result : type.Member} : CarriesResult answer type result →
      Tells answer type (.ok result)
  | reason {reason : String} : CarriesReason answer reason →
      Tells answer type (.error (.remote ⟨reason⟩))
  | unreadable {error : DecodeError} : Unreadable answer type error →
      Tells answer type (.error (.decode error))

/-- A response that is a success is read as its result. -/
theorem resultOfBytes_of_success {payload : Bytes} (decoded : decode answer = .ok ⟨true, payload⟩) :
    resultOfBytes answer type = (type.decode payload).mapError .decode := by
  rw [resultOfBytes, decoded]
  rfl

/-- A response that is a failure is read as its reason. -/
theorem resultOfBytes_of_failure {payload : Bytes}
    (decoded : decode answer = .ok ⟨false, payload⟩) :
    resultOfBytes answer type = match Transferable.decode String payload with
      | .ok reason => .error (.remote ⟨reason⟩)
      | .error error => .error (.decode error) := by
  have outcome : outcome ⟨false, payload⟩ = (Transferable.decode String payload).map .error :=
    if_neg Bool.false_ne_true
  rw [resultOfBytes, decoded]
  simp only [toResult, outcome]
  cases Transferable.decode String payload <;> rfl

/-- A caller is told what the bytes say. -/
theorem tells_resultOfBytes (answer : Bytes) (type : WireType) :
    Tells answer type (resultOfBytes answer type) := by
  cases decoded : decode answer with
  | error error =>
      rw [resultOfBytes, decoded]
      exact .unreadable (.response decoded)
  | ok response =>
      obtain ⟨ok, payload⟩ := response
      cases ok with
      | true =>
          rw [resultOfBytes_of_success decoded]
          cases read : type.decode payload with
          | ok result => exact .result ⟨payload, decoded, read⟩
          | error error => exact .unreadable (.result decoded read)
      | false =>
          rw [resultOfBytes_of_failure decoded]
          cases read : Transferable.decode String payload with
          | ok reason => exact .reason ⟨payload, decoded, read⟩
          | error error => exact .unreadable (.reason decoded read)

/-- Bytes say only one thing, and this is what a caller is told. -/
theorem resultOfBytes_of_tells {outcome : Except CallFailure type.Member}
    (tells : Tells answer type outcome) : resultOfBytes answer type = outcome := by
  cases tells with
  | result carries =>
      obtain ⟨payload, decoded, read⟩ := carries
      rw [resultOfBytes_of_success decoded, read]
      rfl
  | reason carries =>
      obtain ⟨payload, decoded, read⟩ := carries
      rw [resultOfBytes_of_failure decoded, read]
  | unreadable unreadable =>
      cases unreadable with
      | response decoded => rw [resultOfBytes, decoded]
      | reason decoded read => rw [resultOfBytes_of_failure decoded, read]
      | result decoded read =>
          rw [resultOfBytes_of_success decoded, read]
          rfl

theorem resultOfBytes_eq_iff {outcome : Except CallFailure type.Member} :
    resultOfBytes answer type = outcome ↔ Tells answer type outcome := by
  constructor
  · rintro rfl
    exact tells_resultOfBytes answer type
  · exact resultOfBytes_of_tells

end Response

/-! ## What a caller makes of an exchange -/

namespace Client

/-- A caller who asks for a result of a type can tell what an exchange has brought: a failure of
the transport, a refusal with its reason, a result, or bytes that cannot be read. -/
structure Discriminates (exchanged : Except TransportError Bytes) (type : WireType)
    (outcome : Except CallFailure type.Member) : Prop where
  transport : ∀ error, outcome = .error (.transport error) ↔ exchanged = .error error
  remote : ∀ reason, outcome = .error (.remote ⟨reason⟩) ↔
    ∃ answer, exchanged = .ok answer ∧ Response.CarriesReason answer reason
  result : ∀ result, outcome = .ok result ↔
    ∃ answer, exchanged = .ok answer ∧ Response.CarriesResult answer type result
  decode : ∀ error, outcome = .error (.decode error) ↔
    ∃ answer, exchanged = .ok answer ∧ Response.Unreadable answer type error
  /-- There is no other case. -/
  remaining : ∀ answer, exchanged = .ok answer →
    (∀ reason, ¬ Response.CarriesReason answer reason) →
    (∀ result, ¬ Response.CarriesResult answer type result) →
      ∃ error, outcome = .error (.decode error)

/-- A failed exchange is told from every answer. -/
theorem discriminates_failed (error : TransportError) (type : WireType) :
    Discriminates (.error error) type (.error (.transport error)) where
  transport := by simp
  remote := by simp
  result := by simp
  decode := by simp
  remaining := nofun

/-- What the bytes of an answer say is told from everything else that they could say. -/
theorem discriminates_resultOfBytes (answer : Bytes) (type : WireType) :
    Discriminates (.ok answer) type (Response.resultOfBytes answer type) where
  transport error := by
    rw [Response.resultOfBytes_eq_iff]
    constructor <;> nofun
  remote reason := by
    rw [Response.resultOfBytes_eq_iff]
    constructor
    · intro tells
      cases tells with
      | reason carries => exact ⟨answer, rfl, carries⟩
    · rintro ⟨_, same, carries⟩
      cases same
      exact .reason carries
  result result := by
    rw [Response.resultOfBytes_eq_iff]
    constructor
    · intro tells
      cases tells with
      | result carries => exact ⟨answer, rfl, carries⟩
    · rintro ⟨_, same, carries⟩
      cases same
      exact .result carries
  decode error := by
    rw [Response.resultOfBytes_eq_iff]
    constructor
    · intro tells
      cases tells with
      | unreadable unreadable => exact ⟨answer, rfl, unreadable⟩
    · rintro ⟨_, same, unreadable⟩
      cases same
      exact .unreadable unreadable
  remaining := by
    intro other same noReason noResult
    cases same
    have tells := Response.tells_resultOfBytes answer type
    generalize Response.resultOfBytes answer type = outcome at tells
    cases tells with
    | result carries => exact absurd carries (noResult _)
    | reason carries => exact absurd carries (noReason _)
    | unreadable _ => exact ⟨_, rfl⟩

theorem discriminates_resultOf (exchanged : Except TransportError Bytes) (type : WireType) :
    Discriminates exchanged type (resultOf type exchanged) := by
  cases exchanged with
  | error error => exact discriminates_failed error type
  | ok answer =>
      have same : resultOf type (.ok answer) = Response.resultOfBytes answer type := by
        rw [resultOf, responseOf, Response.resultOfBytes]
        cases Response.decode answer <;> rfl
      rw [same]
      exact discriminates_resultOfBytes answer type

/-! ## One exchange -/

/-- What was asked for by a request has made one exchange, with the bytes of this request, and its
outcome follows from what the exchange brought. A panic can only come out of the exchange. -/
structure AsksOnce (transport : Transport τ) (request : Request) (type : WireType)
    (before : Recorded τ) (asked : Attempt type.Member × Recorded τ) : Prop where
  sent : asked.2.sent = before.sent ++ [request.encode]
  left : asked.2.state = (transport.exchange request.encode before.state).2
  panics : ∀ panic, asked.1 = .error panic ↔
    (transport.exchange request.encode before.state).1 = .error panic
  concludes : ∀ exchanged, (transport.exchange request.encode before.state).1 = .ok exchanged →
    ∃ outcome, asked.1 = .ok outcome ∧ Discriminates exchanged type outcome

theorem asksOnce_ask (transport : Transport τ) (request : Request) (type : WireType)
    (before : Recorded τ) :
    AsksOnce transport request type before
      (transport.recorded.ask (.ok request.encode) (resultOf type) before) := by
  have asked : transport.recorded.ask (.ok request.encode) (resultOf type) before =
      ((transport.exchange request.encode before.state).1.map (resultOf type),
        ⟨(transport.exchange request.encode before.state).2, before.sent ++ [request.encode]⟩) :=
    rfl
  rw [asked]
  refine ⟨rfl, rfl, fun panic => map_eq_error, fun exchanged brought => ?_⟩
  simp only [brought]
  exact ⟨_, rfl, discriminates_resultOf exchanged type⟩

/-- A call whose argument can be written makes one exchange. -/
theorem asksOnce_call (transport : Transport τ) (name : String) {argument : Value} {args : Bytes}
    (written : argument.encode = .ok args) (type : WireType) (before : Recorded τ) :
    AsksOnce transport ⟨name, args⟩ type before
      (call transport.recorded name argument type before) := by
  rw [call_eq_ask, Value.encodeOrPanic, written]
  exact asksOnce_ask transport ⟨name, args⟩ type before

/-- A call whose argument cannot be written panics, and does not reach the transport. -/
theorem call_of_unwritten (transport : Transport τ) (name : String) {argument : Value}
    {error : EncodeError} (unwritten : argument.encode = .error error) (type : WireType)
    (state : τ) : call transport name argument type state = (.error error.panic, state) := by
  rw [call_eq_ask, Value.encodeOrPanic, unwritten]
  rfl

/-! ## Batches -/

/-- A batch with an argument that cannot be written is not built. -/
theorem ofValues_of_unwritten (command : String) {arguments : List Value} {argument : Value}
    {error : EncodeError} (found : argument ∈ arguments)
    (unwritten : argument.encode = .error error) :
    ∃ panic, Batch.ofValues command arguments = .error panic := by
  suffices failed : ∃ panic, arguments.mapM Value.encodeOrPanic = .error panic by
    obtain ⟨panic, failed⟩ := failed
    rw [Batch.ofValues, failed]
    exact ⟨panic, rfl⟩
  induction arguments with
  | nil => cases found
  | cons first others inductionHypothesis =>
      rw [List.mapM_cons]
      cases firstWritten : first.encodeOrPanic with
      | error panic => exact ⟨panic, rfl⟩
      | ok args =>
          rcases List.mem_cons.1 found with rfl | isOther
          · rw [Value.encodeOrPanic, unwritten] at firstWritten
            cases firstWritten
          · obtain ⟨panic, failed⟩ := inductionHypothesis isOther
            rw [failed]
            exact ⟨panic, rfl⟩

/-- What a caller makes of the slots of a batch. -/
def outcomesOfSlots (type : WireType) (slots : List Bytes) :
    List (Except CallFailure type.Member) :=
  slots.map fun slot => Response.resultOfBytes slot type

/-- Each slot is read by itself, like an answer of its own. -/
theorem discriminates_slot {type : WireType} {slots : List Bytes} {index : Nat} {slot : Bytes}
    (found : slots[index]? = some slot) :
    ∃ outcome, (outcomesOfSlots type slots)[index]? = some outcome ∧
      Discriminates (.ok slot) type outcome := by
  refine ⟨Response.resultOfBytes slot type, ?_, discriminates_resultOfBytes slot type⟩
  rw [outcomesOfSlots, List.getElem?_map, found]
  rfl

/-- A batch whose arguments can be written asks for its slots. -/
theorem invokeEach_of_written (transport : Transport τ) (command : Command)
    {arguments : List Value} {written : List Bytes} (areWritten : AreWritten arguments written)
    (state : τ) :
    let asked := transport.ask
      (.ok (Request.encode ⟨batchName, Batch.encode ⟨command.name, written⟩⟩))
      (resultOf (Transferable.type (List Bytes))) state
    invokeEach transport command arguments state =
      (asked.1.map (·.map fun slots =>
        outcomesOfSlots command.result (Transferable.ofMember slots)), asked.2) := by
  rw [Operation.invokeEach_eq_ask, Operation.request, ofValues_eq_ok command.name areWritten]
  exact transport.ask_map _ _ _ state

/-! ## Every call -/

/-- Over every transport, whatever state it keeps and whatever it brings, a call makes one exchange
with the bytes of its request, or panics before that if its argument cannot be written; and the
caller can tell from what the call comes to what the exchange has brought. The same holds of a
command that is sent, of the names of a server, and of a batch as a whole. Of a batch each slot is
then read by itself, so what is wrong with one of them concerns no other. -/
theorem call_discriminates (transport : Transport τ) (before : Recorded τ) :
    (∀ name argument type,
      (∀ error, argument.encode = .error error →
        call transport.recorded name argument type before = (.error error.panic, before)) ∧
      ∀ args, argument.encode = .ok args →
        AsksOnce transport ⟨name, args⟩ type before
          (call transport.recorded name argument type before)) ∧
    (∀ command argument, invoke transport.recorded command argument before =
      call transport.recorded command.name argument command.result before) ∧
    (∃ asked, AsksOnce transport ⟨namesName, []⟩ (Transferable.type (List String)) before asked ∧
      servedNames transport.recorded before =
        (asked.1.map (·.map Transferable.ofMember), asked.2)) ∧
    ∀ command arguments,
      (∀ argument ∈ arguments, ∀ error, argument.encode = .error error →
        ∃ panic, invokeEach transport.recorded command arguments before =
          (.error panic, before)) ∧
      ∀ written, AreWritten arguments written →
        ∃ asked, AsksOnce transport ⟨batchName, Batch.encode ⟨command.name, written⟩⟩
            (Transferable.type (List Bytes)) before asked ∧
          invokeEach transport.recorded command arguments before =
            (asked.1.map (·.map fun slots =>
              outcomesOfSlots command.result (Transferable.ofMember slots)), asked.2) ∧
          ∀ (slots : List Bytes) (index : Nat) (slot : Bytes), slots[index]? = some slot →
            ∃ outcome, (outcomesOfSlots command.result slots)[index]? = some outcome ∧
              Discriminates (.ok slot) command.result outcome := by
  refine ⟨fun name argument type => ⟨?_, ?_⟩, fun _ _ => rfl, ?_, fun command arguments => ⟨?_, ?_⟩⟩
  · intro error unwritten
    exact call_of_unwritten _ name unwritten type before
  · intro args written
    exact asksOnce_call transport name written type before
  · refine ⟨_, asksOnce_ask transport ⟨namesName, []⟩ _ before, ?_⟩
    rw [Operation.servedNames_eq_ask]
    exact transport.recorded.ask_map _ _ _ before
  · intro argument found error unwritten
    obtain ⟨panic, failed⟩ := ofValues_of_unwritten command.name found unwritten
    refine ⟨panic, ?_⟩
    rw [invokeEach, failed]
  · intro written areWritten
    exact ⟨_, asksOnce_ask transport ⟨batchName, Batch.encode ⟨command.name, written⟩⟩ _ before,
      invokeEach_of_written transport.recorded command areWritten before,
      fun _ _ _ found => discriminates_slot found⟩

/-- A refusal, and the slots of a batch of two of which the first is no response. -/
theorem call_discriminates_canned :
    let refusal : Bytes := [0, 2, 1, 104]
    let slots : Bytes := [1, 6, 2, 1, 9, 2, 1, 0]
    let called := call Transport.canned.recorded "Note" (.text "a") .unit ⟨[.ok refusal], []⟩
    let together := invokeEach Transport.canned.recorded ⟨"Note", .text, .unit⟩
      [.text "a", .text "b"] ⟨[.ok slots], []⟩
    (called.1 = .ok (.error (.remote ⟨"h"⟩)) ∧ called.2.sent = [[4, 78, 111, 116, 101, 2, 1, 97]]) ∧
      AreWritten [.text "a", .text "b"] [[1, 97], [1, 98]] ∧
      ∃ outcomes, together.1 = .ok (.ok outcomes) ∧
        outcomes[0]? = some (.error (.decode (.invalidBool 9))) ∧
        outcomes[1]? = some (.ok (Transferable.toMember ())) := by
  intro refusal slots called together
  obtain ⟨calls, _, _, _⟩ := call_discriminates Transport.canned ⟨[.ok refusal], []⟩
  obtain ⟨_, asks⟩ := calls "Note" (.text "a") .unit
  have asked := asks [1, 97] rfl
  obtain ⟨outcome, isOutcome, discriminates⟩ := asked.concludes (.ok refusal) rfl
  have refused : outcome = .error (.remote ⟨"h"⟩) := (discriminates.remote "h").2
    ⟨refusal, rfl, [1, 104], by decide +kernel, by decide +kernel⟩
  have areWritten : AreWritten [.text "a", .text "b"] [[1, 97], [1, 98]] :=
    .cons rfl (.cons rfl .nil)
  obtain ⟨_, _, _, batches⟩ := call_discriminates Transport.canned ⟨[.ok slots], []⟩
  obtain ⟨_, asksForEach⟩ := batches ⟨"Note", .text, .unit⟩ [.text "a", .text "b"]
  obtain ⟨askedForEach, once, isTogether, slotwise⟩ := asksForEach _ areWritten
  obtain ⟨listed, isListed, listDiscriminates⟩ := once.concludes (.ok slots) rfl
  have areListed : listed = .ok (Transferable.toMember ([[9], [1, 0]] : List Bytes)) :=
    (listDiscriminates.result _).2 ⟨slots, rfl, [2, 1, 9, 2, 1, 0], by decide +kernel,
      Transferable.decode_eq_ok.1 (by decide +kernel)⟩
  obtain ⟨first, foundFirst, firstDiscriminates⟩ := slotwise [[9], [1, 0]] 0 [9] rfl
  have garbled : first = .error (.decode (.invalidBool 9)) :=
    (firstDiscriminates.decode _).2 ⟨[9], rfl, .response (by decide +kernel)⟩
  obtain ⟨second, foundSecond, secondDiscriminates⟩ := slotwise [[9], [1, 0]] 1 [1, 0] rfl
  have nothing : Transferable.decode Unit [] = .ok () := rfl
  have succeeded : second = .ok (Transferable.toMember ()) :=
    (secondDiscriminates.result _).2
      ⟨[1, 0], rfl, [], by decide +kernel, Transferable.decode_eq_ok.1 nothing⟩
  rw [areListed] at isListed
  refine ⟨⟨by rw [isOutcome, refused], asked.sent⟩, areWritten,
    outcomesOfSlots .unit [[9], [1, 0]], (congrArg Prod.fst isTogether).trans ?_,
    garbled ▸ foundFirst, succeeded ▸ foundSecond⟩
  rw [isListed]
  rfl

end Client

end RemoteCall
