import RemoteCall.Proofs.Wire.Size

/-!
Contract: nothing is refused for being longer than callers are told to keep to.

Owns:
- inputs that keep to the advised length, and types in which this keeps all lengths to it;
- lists of values that take no bytes, which are as long as their length says;
- the shortest input that keeps to the advised length and is decoded as something that does not.

Reading does not look at the advised length. It is the input that bounds a length, by the bytes that
run out, and where what is counted takes no bytes nothing bounds it.

Does not own: the bound by the input.
-/

namespace RemoteCall.Wire.WireType

set_option autoImplicit false

/-! ## Lists of values that take no bytes -/

/-- A list of as many units. -/
def units (count : Nat) : (WireType.list .unit).Member :=
  ⟨.list (List.replicate count .unit), _, rfl, fun _ found => by
    rw [List.eq_of_mem_replicate found]
    exact ⟨[], rfl, rfl⟩⟩

theorem mem_lengths_units (count : Nat) : count ∈ (units count).val.lengths := by
  rw [units, Value.lengths_list, List.length_replicate]
  exact List.mem_cons_self

private theorem spelledByEach_units (count : Nat) :
    Value.SpelledByEach (List.replicate count .unit) [] := by
  induction count with
  | zero => rfl
  | succ count inductionHypothesis => exact ⟨[], [], rfl, inductionHypothesis, rfl⟩

/-- Units are spelled by their number alone. -/
theorem spelledBy_units {count : Nat} {form : Bytes} (isForm : CompactForm false count form) :
    (units count).val.SpelledBy form := by
  refine ⟨form, [], ?_, spelledByEach_units count, (List.append_nil form).symm⟩
  rwa [List.length_replicate]

/-- Any number of units that a length can say is decoded from the length. -/
theorem decode_units {count : Nat} {form : Bytes} (isForm : CompactForm false count form) :
    (WireType.list .unit).decode form = .ok (units count) :=
  decode_of_spelledBy (units count) (spelledBy_units isForm)

/-! ## The advised length -/

/-- Where every list is one of values that take bytes, an input that keeps to the advised length is
decoded only as what keeps to it as well, and is refused if a greater length is met. Nothing else is
refused for its length: every spelling is decoded, however long it is and whatever lengths are in
it, and units are decoded in any number from nine bytes at most. -/
theorem decode_knowsNoLimit (type : WireType) (input : Bytes) :
    (type.listsFilled = true → input.length ≤ advisedLength →
      (∀ member, type.decode input = .ok member →
        ∀ length ∈ member.val.lengths, length ≤ advisedLength) ∧
      ((∃ length ∈ type.lengthsMet [] [] input, advisedLength < length) →
        ∃ error, type.decode input = .error error)) ∧
    (∀ member : type.Member, member.val.SpelledBy input → type.decode input = .ok member) ∧
    ∀ count < 2 ^ 64, ∃ form : Bytes, form.length ≤ 9 ∧
      (WireType.list .unit).decode form = .ok (units count) := by
  refine ⟨fun filled keepsTo => ?_, fun member => decode_of_spelledBy member,
    fun count fits => ?_⟩
  · constructor
    · intro member decoded length found
      exact Nat.le_trans (List.le_sum_of_mem found)
        (Nat.le_trans (sum_lengths_le_of_decode filled decoded) keepsTo)
    · rintro ⟨length, isMet, above⟩
      have inSum := List.le_sum_of_mem isMet
      exact exists_error_of_lengthsMet filled (by omega)
  · refine ⟨0xFD :: Bytes.littleEndian 8 count, ?_, decode_units (.eight fits)⟩
    exact Nat.le_of_eq (congrArg (· + 1) (Bytes.length_littleEndian 8 count))

/-- A text that keeps to the advised length, and one whose length does not. -/
theorem decode_longText :
    WireType.text.listsFilled = true ∧
      (∀ member, WireType.text.decode [1, 97] = .ok member →
        ∀ length ∈ member.val.lengths, length ≤ advisedLength) ∧
      ∃ error, WireType.text.decode [0xFC, 1, 0, 0, 4, 97] = .error error := by
  have filled : WireType.text.listsFilled = true := rfl
  obtain ⟨keeps, _, _⟩ := decode_knowsNoLimit .text [1, 97]
  obtain ⟨refuses, _, _⟩ := decode_knowsNoLimit .text [0xFC, 1, 0, 0, 4, 97]
  refine ⟨filled, (keeps filled (by decide)).1, (refuses filled (by decide)).2 ?_⟩
  exact ⟨advisedLength + 1, List.mem_singleton.2 rfl, Nat.lt_succ_self _⟩

/-- Five bytes are decoded as a list that has one element more than the advised length. -/
theorem decode_tooManyUnits :
    let input : Bytes := [0xFC, 1, 0, 0, 4]
    input.length ≤ advisedLength ∧ ∃ member, (WireType.list .unit).decode input = .ok member ∧
      advisedLength + 1 ∈ (WireType.list .unit).lengthsMet [] [] input ∧
      advisedLength + 1 ∈ member.val.lengths := by
  intro input
  have isForm : CompactForm false (advisedLength + 1) input := .four (by decide)
  have decoded := decode_units isForm
  have inMember := mem_lengths_units (advisedLength + 1)
  refine ⟨by decide, _, decoded, ?_, inMember⟩
  rw [lengthsMet_of_decode decoded]
  exact inMember

end RemoteCall.Wire.WireType
