import RemoteCall.BuiltIn
import RemoteCall.Client
import RemoteCall.Proofs.Wire.RoundTrip

/-!
Contract: envelopes and batches that are short enough are read back as they were written.

Owns:
- the round trip of an ordinary value;
- the round trips of requests, responses, batches and lists of byte strings;
- what the caller makes of a response that was built as a success or as a failure.

An envelope is short if the lengths in it can be written, that is if they lie below 2^64. For a
byte string inside another one this follows from the length of the outer one.

Does not own: bytes that are no envelope.
-/

namespace RemoteCall

set_option autoImplicit false

open Wire

namespace Transferable

variable {α : Type}

/-- What is written for a value is read back as the member that stands for it. -/
theorem decode_toMember [Transferable α] {value : α} {bytes : Bytes}
    (written : encode value = .ok bytes) (short : (toValue value).Short) :
    (type α).decode bytes = .ok (toMember value) :=
  WireType.decode_of_spelledBy (toMember value) ((toMember value).spelledBy written short)

/-- What is written for a value is read back. -/
theorem decode_of_encode [Transferable α] {value : α} {bytes : Bytes}
    (written : encode value = .ok bytes) (short : (toValue value).Short) :
    decode α bytes = .ok value := by
  unfold decode
  rw [decode_toMember written short]
  exact congrArg Except.ok (ofMember_toMember value)

/-- What is read as a value is read as the member that stands for it. -/
theorem decode_eq_ok [Transferable α] {input : Bytes} {value : α} :
    decode α input = .ok value ↔ (type α).decode input = .ok (toMember value) := by
  unfold decode
  cases (type α).decode input with
  | error error => simp [Except.map]
  | ok member =>
      constructor
      · intro same
        cases same
        rw [toMember_ofMember]
      · intro same
        cases same
        exact congrArg Except.ok (ofMember_toMember value)

/-- What is not read as a member of the wire type is not read as a value. -/
theorem decode_eq_error [Transferable α] {input : Bytes} {error : DecodeError} :
    decode α input = .error error ↔ (type α).decode input = .error error := by
  unfold decode
  cases (type α).decode input <;> simp [Except.map]

theorem short_toValue_bytes {content : Bytes} :
    (toValue content).Short ↔ content.length < 2 ^ 64 := by
  have eachShort : ∀ element ∈ content.map toValue, element.Short := by
    intro element found
    obtain ⟨byte, _, rfl⟩ := List.mem_map.1 found
    exact List.forall_mem_singleton.2 (Nat.two_pow_pos 64)
  refine Value.every_list.trans ((and_iff_left eachShort).trans ?_)
  rw [Value.extent, List.length_map]

theorem short_toValue_bytesList {contents : List Bytes} :
    (toValue contents).Short ↔
      contents.length < 2 ^ 64 ∧ ∀ content ∈ contents, content.length < 2 ^ 64 := by
  refine Value.every_list.trans ?_
  rw [Value.extent, List.length_map, List.forall_mem_map]
  exact and_congr_right fun _ => forall₂_congr fun _ _ => short_toValue_bytes

end Transferable

/-! ## Requests and responses -/

/-- The lengths in a request can be written. -/
def Request.Short (request : Request) : Prop :=
  (Utf8.encode request.name).length < 2 ^ 64 ∧ request.args.length < 2 ^ 64

theorem Request.decode_encode {request : Request} (short : request.Short) :
    decode request.encode = .ok request := by
  refine Transferable.decode_of_encode request.encode_eq
    (Value.every_tuple.2 ⟨Nat.two_pow_pos 64, ?_⟩)
  exact List.forall_mem_cons.2 ⟨Value.short_text.2 short.1,
    List.forall_mem_singleton.2 (Transferable.short_toValue_bytes.2 short.2)⟩

/-- The length in a response can be written. -/
def Response.Short (response : Response) : Prop :=
  response.payload.length < 2 ^ 64

theorem Response.decode_encode {response : Response} (short : response.Short) :
    decode response.encode = .ok response := by
  refine Transferable.decode_of_encode response.encode_eq
    (Value.every_tuple.2 ⟨Nat.two_pow_pos 64, ?_⟩)
  exact List.forall_mem_cons.2 ⟨List.forall_mem_singleton.2 (Nat.two_pow_pos 64),
    List.forall_mem_singleton.2 (Transferable.short_toValue_bytes.2 short)⟩

theorem length_le_sized (content : Bytes) : content.length ≤ (sized content).length := by
  rw [sized, List.length_append]
  omega

/-- The length in a response can be written if the one of its bytes can. -/
theorem Response.short_of_encode {response : Response} (short : response.encode.length < 2 ^ 64) :
    response.Short := by
  have payloadBound := length_le_sized response.payload
  rw [encode, List.length_cons] at short
  unfold Short
  omega

/-- An answer is short if the length of its payload is known and can be written. -/
theorem Response.short_of_length {answer : Except Panic Response} {length : Nat}
    (known : answer.toOption.map (·.payload.length) = some length) (short : length < 2 ^ 64)
    (response : Response) (answered : answer = .ok response) : response.Short := by
  rw [answered] at known
  have payloadLength : response.payload.length = length := Option.some.inj known
  rw [Short, payloadLength]
  exact short

theorem Response.outcome_failure {message : String} (short : (failure message).Short) :
    (failure message).outcome = .ok (.error message) := by
  have textShort : (Utf8.encode message).length < 2 ^ 64 :=
    Nat.lt_of_le_of_lt (length_le_sized _) short
  have decoded : Transferable.decode String (sized (Utf8.encode message)) = .ok message :=
    Transferable.decode_of_encode rfl (Value.short_text.2 textShort)
  unfold outcome failure
  rw [if_neg Bool.false_ne_true, decoded]
  rfl

theorem Response.toResult_failure {message : String} (type : WireType)
    (short : (failure message).Short) :
    (failure message).toResult type = .error (.remote ⟨message⟩) := by
  unfold toResult
  rw [outcome_failure short]

theorem Response.toResult_success (payload : Bytes) (type : WireType) :
    (success payload).toResult type = (type.decode payload).mapError .decode := rfl

/-- A result that is carried by a success is the caller's result. -/
theorem Response.toResult_success_of_encode {type : WireType} {result : type.Member}
    {payload : Bytes} (written : result.val.encode = .ok payload) (short : result.val.Short) :
    (success payload).toResult type = .ok result := by
  rw [toResult_success, WireType.decode_of_spelledBy result (result.spelledBy written short)]
  rfl

/-! ## Lists of byte strings, and batches -/

/-- The bytes of a list of byte strings: their number, and each behind its own length. -/
def listBytes (contents : List Bytes) : Bytes :=
  compact contents.length ++ contents.flatMap sized

theorem encode_bytesList (contents : List Bytes) :
    Transferable.encode contents = .ok (listBytes contents) := by
  show (Value.list (contents.map Transferable.toValue)).encode = _
  rw [Value.encode_list, Batch.encodeEach_map_bytes, List.length_map]
  rfl

theorem sized_length_pos (content : Bytes) : 0 < (sized content).length := by
  have formPos := compact_length_pos content.length
  rw [sized, List.length_append]
  omega

private theorem length_le_flatMap_sized (contents : List Bytes) :
    contents.length ≤ (contents.flatMap sized).length := by
  induction contents with
  | nil => simp
  | cons first others inductionHypothesis =>
      have firstPos := sized_length_pos first
      rw [List.flatMap_cons, List.length_append, List.length_cons]
      omega

/-- No byte string of a list is longer than what is written for the list. -/
theorem length_le_listBytes_of_mem {contents : List Bytes} {content : Bytes}
    (found : content ∈ contents) : content.length ≤ (listBytes contents).length := by
  have inside : (sized content).Sublist (contents.flatMap sized) :=
    List.sublist_flatten_of_mem (List.mem_map_of_mem found)
  have bounded := inside.length_le
  have ownBound := length_le_sized content
  rw [listBytes, List.length_append]
  omega

/-- The lengths inside a list of byte strings can be written if the one of the whole can. -/
theorem short_of_listBytes {contents : List Bytes} (short : (listBytes contents).length < 2 ^ 64) :
    (Transferable.toValue contents).Short := by
  have count := length_le_flatMap_sized contents
  refine Transferable.short_toValue_bytesList.2 ⟨?_, fun content found => ?_⟩
  · rw [listBytes, List.length_append] at short
    omega
  · exact Nat.lt_of_le_of_lt (length_le_listBytes_of_mem found) short

theorem decode_listBytes {contents : List Bytes} (short : (listBytes contents).length < 2 ^ 64) :
    Transferable.decode (List Bytes) (listBytes contents) = .ok contents :=
  Transferable.decode_of_encode (encode_bytesList contents) (short_of_listBytes short)

theorem Response.short_of_encode_mem {response : Response} {contents : List Bytes}
    (found : response.encode ∈ contents) (short : (listBytes contents).length < 2 ^ 64) :
    response.Short := by
  apply short_of_encode
  exact Nat.lt_of_le_of_lt (length_le_listBytes_of_mem found) short

theorem Batch.encode_eq_append (batch : Batch) :
    batch.encode = sized (Utf8.encode batch.command) ++ listBytes batch.arguments := rfl

/-- The lengths in the requests of a batch can be written if the length of the batch can. -/
theorem Batch.short_request {batch : Batch} (short : batch.encode.length < 2 ^ 64) {args : Bytes}
    (found : args ∈ batch.arguments) : Request.Short ⟨batch.command, args⟩ := by
  have argsBound := length_le_listBytes_of_mem found
  have nameBound := length_le_sized (Utf8.encode batch.command)
  rw [encode_eq_append, List.length_append] at short
  exact ⟨by simp only; omega, by simp only; omega⟩

theorem Batch.short_toValue {batch : Batch} (short : batch.encode.length < 2 ^ 64) :
    (Transferable.toValue batch).Short := by
  have commandBound := length_le_sized (Utf8.encode batch.command)
  rw [encode_eq_append, List.length_append] at short
  have commandShort : (Utf8.encode batch.command).length < 2 ^ 64 := by omega
  have argumentsShort : (listBytes batch.arguments).length < 2 ^ 64 := by omega
  refine Value.every_tuple.2 ⟨Nat.two_pow_pos 64, ?_⟩
  exact List.forall_mem_cons.2 ⟨Value.short_text.2 commandShort,
    List.forall_mem_singleton.2 (short_of_listBytes argumentsShort)⟩

/-- What is written for a batch is read back. -/
theorem Batch.decode_encode {batch : Batch} (short : batch.encode.length < 2 ^ 64) :
    (Transferable.type Batch).decode batch.encode = .ok (Transferable.toMember batch) :=
  Transferable.decode_toMember batch.encode_eq (Batch.short_toValue short)

end RemoteCall
