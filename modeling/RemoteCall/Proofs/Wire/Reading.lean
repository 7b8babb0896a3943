import RemoteCall.Proofs.Text.Utf8
import RemoteCall.Proofs.Wire.Spelling
import RemoteCall.Wire.Reader

/-!
Contract: the readers of values that hold no others take every spelling off the front of any input.

Owns: words, numbers in any form, integers, characters, texts and repetition.

Does not own: types of values, and inputs that start with no spelling.
-/

namespace RemoteCall.Wire.Reader

set_option autoImplicit false

variable {α : Type}

theorem take_append (content rest : Bytes) (error : DecodeError) :
    take content.length error (content ++ rest) = .ok (content, rest) := by
  unfold take
  rw [if_pos (by simp), List.take_left, List.drop_left]

theorem littleEndian_append {width number : Nat} (fits : number < 256 ^ width) (rest : Bytes) :
    littleEndian width (Bytes.littleEndian width number ++ rest) = .ok (number, rest) := by
  have taken := take_append (Bytes.littleEndian width number) rest .endOfInput
  rw [Bytes.length_littleEndian] at taken
  refine bind_eq_ok.2 ⟨_, _, taken, ?_⟩
  rw [Bytes.ofLittleEndian_littleEndian width number fits]
  rfl

theorem compact_append {wide : Bool} {number : Nat} {form : Bytes}
    (isForm : CompactForm wide number form) (rest : Bytes) :
    compact wide (form ++ rest) = .ok (number, rest) := by
  cases isForm with
  | single fits =>
      have code : (UInt8.ofNat number).toNat = number := by
        rw [UInt8.toNat_ofNat', Nat.mod_eq_of_lt (Nat.lt_of_le_of_lt fits (by decide))]
      refine bind_eq_ok.2 ⟨_, _, rfl, ?_⟩
      rw [code, if_pos fits]
      rfl
  | two fits => exact bind_eq_ok.2 ⟨_, _, rfl, littleEndian_append fits rest⟩
  | four fits => exact bind_eq_ok.2 ⟨_, _, rfl, littleEndian_append fits rest⟩
  | eight fits => exact bind_eq_ok.2 ⟨_, _, rfl, littleEndian_append fits rest⟩
  | sixteen isWide fits =>
      subst isWide
      exact bind_eq_ok.2 ⟨_, _, rfl, littleEndian_append fits rest⟩

/-- A byte in two's complement stands for the number of its format. -/
theorem byteNumber_ofNat {signed : Bool} {number : Int}
    (holds : IntegerFormat.Holds ⟨signed, .bits8⟩ number) :
    byteNumber signed (UInt8.ofNat (number % 256).toNat).toNat = number := by
  obtain ⟨lower, upper⟩ := holds
  have code : (UInt8.ofNat (number % 256).toNat).toNat = (number % 256).toNat := by
    rw [UInt8.toNat_ofNat', Nat.mod_eq_of_lt (by omega)]
  rw [code]
  unfold byteNumber
  cases signed with
  | false =>
      simp [IntegerFormat.least, IntegerFormat.bound, Width.bits] at lower upper ⊢
      omega
  | true =>
      simp [IntegerFormat.least, IntegerFormat.bound, Width.bits] at lower upper ⊢
      split <;> omega

theorem integer_append {format : IntegerFormat} {number : Int} {form : Bytes}
    (holds : format.Holds number) (isForm : IntegerForm format number form) (rest : Bytes) :
    integer format (form ++ rest) = .ok (number, rest) := by
  unfold IntegerForm at isForm
  unfold integer
  by_cases isByte : format.width = .bits8
  · rw [if_pos isByte] at isForm ⊢
    subst isForm
    obtain ⟨signed, width⟩ := format
    subst isByte
    refine bind_eq_ok.2 ⟨_, _, rfl, ?_⟩
    rw [byteNumber_ofNat holds]
    rfl
  · rw [if_neg isByte] at isForm ⊢
    refine bind_eq_ok.2 ⟨_, _, compact_append isForm rest, ?_⟩
    simp only [IntegerFormat.ofPlace_place holds, if_pos holds]
    rfl

theorem char_append (character : Char) (rest : Bytes) :
    char (Utf8.ofChar character ++ rest) = .ok (character, rest) := by
  obtain ⟨first, others, written, announced⟩ := Utf8.ofChar_announced character
  have taken := take_append (Utf8.ofChar character) rest .invalidChar
  have read := Utf8.toChars_ofChar character
  rw [written] at taken read announced ⊢
  rw [List.cons_append, char, announced]
  simp only [List.cons_append] at taken ⊢
  rw [taken]
  simp only [read]

theorem text_append {content : String} {form : Bytes}
    (isForm : CompactForm false (Utf8.encode content).length form) (rest : Bytes) :
    text (form ++ Utf8.encode content ++ rest) = .ok (content, rest) := by
  rw [List.append_assoc]
  refine bind_eq_ok.2 ⟨_, _, compact_append isForm _, ?_⟩
  refine bind_eq_ok.2 ⟨_, _, take_append _ rest _, ?_⟩
  rw [Utf8.decode_encode]
  rfl

/-- Repetition takes the spellings of as many values, if the repeated reader takes each. -/
theorem many_append {element : Reader Value} {values : List Value}
    (takes : ∀ value ∈ values, ∀ bytes rest, value.SpelledBy bytes →
      element (bytes ++ rest) = .ok (value, rest))
    {bytes : Bytes} (spelled : Value.SpelledByEach values bytes) (rest : Bytes) :
    many element values.length (bytes ++ rest) = .ok (values, rest) := by
  induction values generalizing bytes with
  | nil =>
      cases spelled
      rfl
  | cons first others inductionHypothesis =>
      obtain ⟨head, tail, firstSpelled, othersSpelled, rfl⟩ := spelled
      obtain ⟨takesFirst, takesOthers⟩ := List.forall_mem_cons.1 takes
      rw [List.length_cons, many_succ, List.append_assoc]
      refine bind_eq_ok.2 ⟨_, _, takesFirst _ _ firstSpelled, ?_⟩
      exact bind_eq_ok.2 ⟨_, _, inductionHypothesis takesOthers othersSpelled, rfl⟩

end RemoteCall.Wire.Reader
