import RemoteCall.Proofs.Wire.Parts

/-!
Contract: which byte strings spell a value, whether they are the shortest that do or not.

Owns:
- the forms of an unsigned number: a single byte, or a marker and a word that is wide enough;
- the forms of an integer in its format, and the spellings of a value;
- the size of a spelling: each marker, length and index takes at least one byte of its own.

A number has more than one form and a value more than one spelling, because a reader takes any
word that is wide enough. Everything but numbers is spelled in one way only.

Does not own: types, and which spelling is written.
-/

namespace RemoteCall.Wire

set_option autoImplicit false

/-- The forms of an unsigned number; the word of 16 bytes is one only if `wide`. -/
inductive CompactForm (wide : Bool) (number : Nat) : Bytes → Prop where
  | single : number ≤ singleByteMax → CompactForm wide number [UInt8.ofNat number]
  | two : number < 2 ^ 16 → CompactForm wide number (0xFB :: Bytes.littleEndian 2 number)
  | four : number < 2 ^ 32 → CompactForm wide number (0xFC :: Bytes.littleEndian 4 number)
  | eight : number < 2 ^ 64 → CompactForm wide number (0xFD :: Bytes.littleEndian 8 number)
  | sixteen : wide = true → number < 2 ^ 128 →
      CompactForm wide number (0xFE :: Bytes.littleEndian 16 number)

/-- The forms of an integer in its format. -/
def IntegerForm (format : IntegerFormat) (number : Int) (form : Bytes) : Prop :=
  if format.width = .bits8 then form = [UInt8.ofNat (number % 256).toNat]
  else CompactForm (format.width = .bits128) (format.place number) form

namespace Value

mutual

/-- The byte strings that a reader takes for a value. -/
def SpelledBy : Value → Bytes → Prop
  | .bool truth, bytes => bytes = [if truth then 1 else 0]
  | .char character, bytes => bytes = Utf8.ofChar character
  | .text content, bytes =>
      ∃ form, CompactForm false (Utf8.encode content).length form ∧
        bytes = form ++ Utf8.encode content
  | .float32 bits, bytes => bytes = Bytes.littleEndian 4 bits.toNat
  | .float64 bits, bytes => bytes = Bytes.littleEndian 8 bits.toNat
  | .integer format number, bytes => IntegerForm format number bytes
  | .list elements, bytes =>
      ∃ form body, CompactForm false elements.length form ∧ SpelledByEach elements body ∧
        bytes = form ++ body
  | .absent, bytes => bytes = [0]
  | .present content, bytes => ∃ body, content.SpelledBy body ∧ bytes = 1 :: body
  | .tuple elements, bytes => SpelledByEach elements bytes
  | .variant index content, bytes =>
      ∃ form body, CompactForm false index form ∧ content.SpelledBy body ∧ bytes = form ++ body
  | .flattened _, _ => False
  | .sparse fields, bytes => (∀ field ∈ fields, field = .absent) ∧ CompactForm false 0 bytes

/-- The byte strings that spell some values, one after the other. -/
def SpelledByEach : List Value → Bytes → Prop
  | [], bytes => bytes = []
  | first :: others, bytes =>
      ∃ head tail, first.SpelledBy head ∧ SpelledByEach others tail ∧ bytes = head ++ tail

end

end Value

/-! ## Sizes -/

theorem CompactForm.length_pos {wide : Bool} {number : Nat} {form : Bytes}
    (isForm : CompactForm wide number form) : 0 < form.length := by
  cases isForm <;> simp

theorem IntegerForm.length_pos {format : IntegerFormat} {number : Int} {form : Bytes}
    (isForm : IntegerForm format number form) : 0 < form.length := by
  unfold IntegerForm at isForm
  split at isForm
  · subst isForm
    exact Nat.zero_lt_one
  · exact isForm.length_pos

theorem Value.exists_spelling_of_mem {elements : List Value} {member : Value}
    (found : member ∈ elements) {bytes : Bytes} (spelled : SpelledByEach elements bytes) :
    ∃ part, member.SpelledBy part ∧ part.length ≤ bytes.length := by
  induction elements generalizing bytes with
  | nil => simp at found
  | cons first others inductionHypothesis =>
      obtain ⟨head, tail, firstSpelled, othersSpelled, rfl⟩ := spelled
      rcases List.mem_cons.1 found with rfl | later
      · exact ⟨head, firstSpelled, by simp⟩
      · obtain ⟨part, partSpelled, notLonger⟩ := inductionHypothesis later othersSpelled
        exact ⟨part, partSpelled, by rw [List.length_append]; omega⟩

/-! ## What is written is a spelling -/

theorem map_eq_ok {α β ε : Type} {outcome : Except ε α} {f : α → β} {result : β} :
    outcome.map f = .ok result ↔ ∃ value, outcome = .ok value ∧ f value = result := by
  cases outcome <;> simp [Except.map]

theorem map_eq_error {α β ε : Type} {outcome : Except ε α} {f : α → β} {error : ε} :
    outcome.map f = .error error ↔ outcome = .error error := by
  cases outcome <;> simp [Except.map]

theorem eq_ok_of_toOption {α ε : Type} {outcome : Except ε α} {result : α}
    (known : outcome.toOption = some result) : outcome = .ok result := by
  cases outcome with
  | error error => cases known
  | ok value =>
      cases known
      rfl

theorem exists_error_of_toOption {α ε : Type} {outcome : Except ε α}
    (known : outcome.toOption = none) : ∃ error, outcome = .error error := by
  cases outcome with
  | error error => exact ⟨error, rfl⟩
  | ok value => cases known

theorem Value.encodeEach_cons_eq_ok {first : Value} {others : List Value} {bytes : Bytes} :
    encodeEach (first :: others) = .ok bytes ↔
      ∃ head tail, first.encode = .ok head ∧ encodeEach others = .ok tail ∧
        head ++ tail = bytes := by
  rw [encodeEach]
  cases first.encode with
  | error error => simp
  | ok head => simp [map_eq_ok]

theorem compact_length_pos (number : Nat) : 0 < (compact number).length := by
  unfold compact
  repeat' split
  all_goals simp

theorem compact_isForm {wide : Bool} {number : Nat}
    (fits : number < 2 ^ 64 ∨ wide = true ∧ number < 2 ^ 128) :
    CompactForm wide number (compact number) := by
  unfold compact
  by_cases single : number ≤ singleByteMax
  · rw [if_pos single]
    exact .single single
  rw [if_neg single]
  by_cases two : number < UInt16.size
  · rw [if_pos two]
    exact .two two
  rw [if_neg two]
  by_cases four : number < UInt32.size
  · rw [if_pos four]
    exact .four four
  rw [if_neg four]
  by_cases eight : number < UInt64.size
  · rw [if_pos eight]
    exact .eight eight
  rw [if_neg eight]
  rcases fits with narrow | ⟨isWide, bounded⟩
  · exact absurd narrow eight
  · exact .sixteen isWide bounded

/-- A number of a format stands at a place that as many bits can hold. -/
theorem IntegerFormat.place_lt {format : IntegerFormat} {number : Int}
    (holds : format.Holds number) : format.place number < 2 ^ format.width.bits := by
  obtain ⟨signed, width⟩ := format
  obtain ⟨lower, upper⟩ := holds
  cases signed <;> cases width <;>
    simp only [IntegerFormat.least, IntegerFormat.bound, Width.bits, IntegerFormat.place, zigzag,
      if_true, if_false, Bool.false_eq_true] at lower upper ⊢ <;>
    first | omega | (split <;> omega)

/-- A number of a format is the one at its place. -/
theorem IntegerFormat.ofPlace_place {format : IntegerFormat} {number : Int}
    (holds : format.Holds number) : format.ofPlace (format.place number) = number := by
  unfold IntegerFormat.ofPlace IntegerFormat.place
  split
  · exact ofZigzag_zigzag number
  · rename_i unsigned
    have lower := holds.1
    unfold IntegerFormat.least at lower
    rw [if_neg unsigned] at lower
    exact Int.toNat_of_nonneg lower

theorem integerBytes_isForm {format : IntegerFormat} {number : Int}
    (holds : format.Holds number) : IntegerForm format number (integerBytes format number) := by
  unfold IntegerForm integerBytes
  split
  · rfl
  · rename_i notByte
    have bounded := IntegerFormat.place_lt holds
    apply compact_isForm
    revert bounded notByte
    cases format.width <;> simp [Width.bits] <;> omega

namespace Value

mutual

/-- What is written for a value whose lengths and numbers can be written spells it. -/
theorem spelledBy_of_encode : ∀ (value : Value) {bytes : Bytes}, value.Short → value.InRange →
    value.encode = .ok bytes → value.SpelledBy bytes
  | .bool _, _, _, _, written => by
      cases written
      rfl
  | .char _, _, _, _, written => by
      cases written
      rfl
  | .text content, _, short, _, written => by
      cases written
      exact ⟨_, compact_isForm (.inl (short_text.1 short)), rfl⟩
  | .float32 _, _, _, _, written => by
      cases written
      rfl
  | .float64 _, _, _, _, written => by
      cases written
      rfl
  | .integer format number, _, _, inRange, written => by
      cases written
      exact integerBytes_isForm inRange.self
  | .list elements, _, short, inRange, written => by
      rw [encode_list] at written
      obtain ⟨fits, eachShort⟩ := every_list.1 short
      obtain ⟨body, bodyWritten, rfl⟩ := map_eq_ok.1 written
      exact ⟨_, body, compact_isForm (.inl fits), spelledByEach_of_encodeEach elements eachShort
        (every_list.1 inRange).2 bodyWritten, rfl⟩
  | .absent, _, _, _, written => by
      cases written
      rfl
  | .present content, _, short, inRange, written => by
      obtain ⟨body, bodyWritten, rfl⟩ := map_eq_ok.1 written
      exact ⟨body, spelledBy_of_encode content (every_present.1 short).2
        (every_present.1 inRange).2 bodyWritten, rfl⟩
  | .tuple elements, _, short, inRange, written =>
      spelledByEach_of_encodeEach elements (every_tuple.1 short).2 (every_tuple.1 inRange).2
        written
  | .variant index content, _, short, inRange, written => by
      obtain ⟨fits, contentInRange⟩ := every_variant.1 inRange
      have indexFits : index < 2 ^ 32 := fits
      obtain ⟨body, bodyWritten, rfl⟩ := map_eq_ok.1 written
      exact ⟨_, body, compact_isForm (.inl (by omega)),
        spelledBy_of_encode content (every_variant.1 short).2 contentInRange bodyWritten, rfl⟩
  | .flattened _, _, _, _, written => by cases written
  | .sparse _, _, _, _, written => by cases written

private theorem spelledByEach_of_encodeEach : ∀ (values : List Value) {bytes : Bytes},
    (∀ value ∈ values, value.Short) → (∀ value ∈ values, value.InRange) →
    encodeEach values = .ok bytes → SpelledByEach values bytes
  | [], _, _, _, written => by
      cases written
      rfl
  | first :: others, _, eachShort, eachInRange, written => by
      obtain ⟨head, tail, headWritten, tailWritten, rfl⟩ := encodeEach_cons_eq_ok.1 written
      obtain ⟨firstShort, othersShort⟩ := List.forall_mem_cons.1 eachShort
      obtain ⟨firstInRange, othersInRange⟩ := List.forall_mem_cons.1 eachInRange
      exact ⟨head, tail, spelledBy_of_encode first firstShort firstInRange headWritten,
        spelledByEach_of_encodeEach others othersShort othersInRange tailWritten, rfl⟩

end

end Value

end RemoteCall.Wire
