import RemoteCall.Proofs.Text.Accepted
import RemoteCall.Proofs.Wire.Spelling
import RemoteCall.Wire.Read

/-!
Contract: what a reader takes off the front of an input is a spelling of the value that it reads.

Owns:
- words, numbers in any form, integers, characters, texts and repetition;
- readers that take nothing but spellings, and the fact that the reader of every type is one,
  recursive types included.

Does not own: inputs that are refused, and which of its spellings is written for a value.
-/

namespace RemoteCall.Wire

set_option autoImplicit false

/-- A reader that takes nothing but spellings of what it reads. -/
def TakesOnlySpellings (reader : Reader Value) : Prop :=
  ∀ input value rest, reader input = .ok (value, rest) →
    ∃ front, value.SpelledBy front ∧ input = front ++ rest

/-- A number of a wider format than a byte stands at the place that it was read from. -/
theorem IntegerFormat.place_ofPlace (format : IntegerFormat) (place : Nat) :
    format.place (format.ofPlace place) = place := by
  unfold IntegerFormat.place IntegerFormat.ofPlace
  split
  · exact zigzag_ofZigzag place
  · exact Int.toNat_natCast place

namespace Reader

/-- A reader whose last step returns something of what it read leaves what that left. -/
theorem bind_pure_eq_ok {α β : Type} {first : Reader α} {f : α → β} {result : β}
    {input rest : Bytes} :
    (first >>= fun value => pure (f value)) input = .ok (result, rest) ↔
      ∃ value, first input = .ok (value, rest) ∧ f value = result := by
  constructor
  · intro ran
    obtain ⟨value, middle, firstRan, returned⟩ := bind_eq_ok.1 ran
    obtain ⟨same, rfl⟩ := pure_eq_ok.1 returned
    exact ⟨value, firstRan, same⟩
  · rintro ⟨value, firstRan, same⟩
    exact bind_eq_ok.2 ⟨value, rest, firstRan, pure_eq_ok.2 ⟨same, rfl⟩⟩

/-! ## Words and numbers -/

theorem byte_eq_ok {input rest : Bytes} {first : UInt8} (ran : byte input = .ok (first, rest)) :
    input = first :: rest := by
  cases input with
  | nil => cases ran
  | cons head tail =>
      cases ran
      rfl

theorem take_eq_ok {count : Nat} {error : DecodeError} {input content rest : Bytes}
    (ran : take count error input = .ok (content, rest)) :
    content.length = count ∧ input = content ++ rest := by
  unfold take at ran
  split at ran
  · rename_i enough
    cases ran
    exact ⟨List.length_take_of_le enough, (List.take_append_drop count input).symm⟩
  · cases ran

theorem littleEndian_eq_ok {width number : Nat} {input rest : Bytes}
    (ran : littleEndian width input = .ok (number, rest)) :
    number < 256 ^ width ∧ input = Bytes.littleEndian width number ++ rest := by
  obtain ⟨word, taken, rfl⟩ := bind_pure_eq_ok.1 ran
  obtain ⟨rfl, rfl⟩ := take_eq_ok taken
  constructor
  · exact Bytes.ofLittleEndian_lt word
  · rw [Bytes.littleEndian_ofLittleEndian]

theorem compact_eq_ok {wide : Bool} {number : Nat} {input rest : Bytes}
    (ran : compact wide input = .ok (number, rest)) :
    ∃ form, CompactForm wide number form ∧ input = form ++ rest := by
  obtain ⟨marker, afterMarker, markerRead, branch⟩ := bind_eq_ok.1 ran
  rw [byte_eq_ok markerRead]
  split at branch
  · rename_i fits
    obtain ⟨rfl, rfl⟩ := pure_eq_ok.1 branch
    have single : CompactForm wide marker.toNat [UInt8.ofNat marker.toNat] := .single fits
    rw [UInt8.ofNat_toNat] at single
    exact ⟨_, single, rfl⟩
  split at branch
  · rename_i isMarker
    obtain ⟨fits, rfl⟩ := littleEndian_eq_ok branch
    exact ⟨_, .two fits, by rw [isMarker]; rfl⟩
  split at branch
  · rename_i isMarker
    obtain ⟨fits, rfl⟩ := littleEndian_eq_ok branch
    exact ⟨_, .four fits, by rw [isMarker]; rfl⟩
  split at branch
  · rename_i isMarker
    obtain ⟨fits, rfl⟩ := littleEndian_eq_ok branch
    exact ⟨_, .eight fits, by rw [isMarker]; rfl⟩
  split at branch
  · rename_i isMarker
    split at branch
    · rename_i isWide
      obtain ⟨fits, rfl⟩ := littleEndian_eq_ok branch
      exact ⟨_, .sixteen isWide fits, by rw [isMarker]; rfl⟩
    · exact absurd branch refuse_ne_ok
  · exact absurd branch refuse_ne_ok

/-- The byte of a number, in two's complement, is the one that it was read from. -/
theorem ofNat_byteNumber (signed : Bool) (byte : UInt8) :
    UInt8.ofNat (byteNumber signed byte.toNat % 256).toNat = byte := by
  have byteBound := byte.toNat_lt
  have code : (byteNumber signed byte.toNat % 256).toNat = byte.toNat := by
    unfold byteNumber
    split <;> omega
  rw [code, UInt8.ofNat_toNat]

theorem integer_eq_ok {format : IntegerFormat} {number : Int} {input rest : Bytes}
    (ran : integer format input = .ok (number, rest)) :
    ∃ form, IntegerForm format number form ∧ input = form ++ rest := by
  unfold integer at ran
  unfold IntegerForm
  by_cases isByte : format.width = .bits8
  · rw [if_pos isByte] at ran
    obtain ⟨first, firstRead, rfl⟩ := bind_pure_eq_ok.1 ran
    refine ⟨[first], ?_, byte_eq_ok firstRead⟩
    rw [if_pos isByte, ofNat_byteNumber]
  · rw [if_neg isByte] at ran
    obtain ⟨place, afterPlace, placeRead, checked⟩ := bind_eq_ok.1 ran
    obtain ⟨form, isForm, starts⟩ := compact_eq_ok placeRead
    split at checked
    · obtain ⟨rfl, rfl⟩ := pure_eq_ok.1 checked
      refine ⟨form, ?_, starts⟩
      rw [if_neg isByte, format.place_ofPlace]
      exact isForm
    · exact absurd checked refuse_ne_ok

/-! ## Truth values and texts -/

/-- A byte that is taken for a flag is 0 or 1. -/
private theorem flag_eq_ok {refusal : Nat → DecodeError} {first : UInt8} {flag : Bool}
    {input rest : Bytes}
    (ran : (match first.toNat with
      | 0 => (return false : Reader Bool)
      | 1 => return true
      | found => refuse (refusal found)) input = .ok (flag, rest)) :
    first = (if flag then 1 else 0) ∧ input = rest := by
  cases code : first.toNat with
  | zero =>
      rw [code] at ran
      obtain ⟨rfl, rfl⟩ := pure_eq_ok.1 ran
      exact ⟨UInt8.toNat_inj.1 code, rfl⟩
  | succ less =>
      rw [code] at ran
      cases less with
      | zero =>
          obtain ⟨rfl, rfl⟩ := pure_eq_ok.1 ran
          exact ⟨UInt8.toNat_inj.1 code, rfl⟩
      | succ less => exact absurd ran refuse_ne_ok

theorem bool_eq_ok {truth : Bool} {input rest : Bytes} (ran : bool input = .ok (truth, rest)) :
    input = (if truth then 1 else 0) :: rest := by
  obtain ⟨first, afterFirst, firstRead, decided⟩ := bind_eq_ok.1 ran
  obtain ⟨rfl, rfl⟩ := flag_eq_ok decided
  exact byte_eq_ok firstRead

theorem presence_eq_ok {isThere : Bool} {input rest : Bytes}
    (ran : presence input = .ok (isThere, rest)) :
    input = (if isThere then 1 else 0) :: rest := by
  obtain ⟨first, afterFirst, firstRead, decided⟩ := bind_eq_ok.1 ran
  obtain ⟨rfl, rfl⟩ := flag_eq_ok decided
  exact byte_eq_ok firstRead

theorem char_eq_ok {character : Char} {input rest : Bytes}
    (ran : char input = .ok (character, rest)) :
    input = Utf8.ofChar character ++ rest := by
  cases input with
  | nil => cases ran
  | cons first others =>
      rw [char] at ran
      split at ran
      · cases ran
      split at ran
      · cases ran
      rename_i bytes remaining taken
      split at ran
      · rename_i accepted
        cases ran
        rw [(take_eq_ok taken).2, Utf8.eq_ofChar_of_toChars accepted]
      · cases ran

theorem text_eq_ok {content : String} {input rest : Bytes}
    (ran : text input = .ok (content, rest)) :
    ∃ form, CompactForm false (Utf8.encode content).length form ∧
      input = form ++ Utf8.encode content ++ rest := by
  obtain ⟨count, afterCount, countRead, goesOn⟩ := bind_eq_ok.1 ran
  obtain ⟨bytes, afterBytes, taken, checked⟩ := bind_eq_ok.1 goesOn
  obtain ⟨form, isForm, starts⟩ := compact_eq_ok countRead
  obtain ⟨rfl, rfl⟩ := take_eq_ok taken
  cases decoded : Utf8.decode bytes with
  | error fault =>
      rw [decoded] at checked
      exact absurd checked refuse_ne_ok
  | ok text =>
      rw [decoded] at checked
      obtain ⟨rfl, rfl⟩ := pure_eq_ok.1 checked
      rw [← Utf8.eq_encode_of_decode decoded]
      exact ⟨form, isForm, by rw [starts, List.append_assoc]⟩

/-- Repetition takes the spellings of as many values, if the repeated reader takes spellings. -/
theorem many_eq_ok {element : Reader Value} (takesOnly : TakesOnlySpellings element) {count : Nat}
    {values : List Value} {input rest : Bytes} (ran : many element count input = .ok (values, rest)) :
    values.length = count ∧ ∃ body, Value.SpelledByEach values body ∧ input = body ++ rest := by
  induction count generalizing values input with
  | zero =>
      rw [many_zero] at ran
      obtain ⟨rfl, rfl⟩ := pure_eq_ok.1 ran
      exact ⟨rfl, [], rfl, rfl⟩
  | succ count inductionHypothesis =>
      rw [many_succ] at ran
      obtain ⟨first, afterFirst, firstRead, goesOn⟩ := bind_eq_ok.1 ran
      obtain ⟨others, othersRead, rfl⟩ := bind_pure_eq_ok.1 goesOn
      obtain ⟨head, firstSpelled, rfl⟩ := takesOnly _ _ _ firstRead
      obtain ⟨rfl, tail, othersSpelled, rfl⟩ := inductionHypothesis othersRead
      refine ⟨rfl, head ++ tail, ⟨head, tail, firstSpelled, othersSpelled, rfl⟩, ?_⟩
      rw [List.append_assoc]

/-- An unfolded reader takes only spellings if its step keeps to them. -/
theorem takesOnly_unfolded {step : Reader Value → Reader Value}
    (keeps : ∀ reader, TakesOnlySpellings reader → TakesOnlySpellings (step reader)) (count : Nat) :
    TakesOnlySpellings (unfolded step count) := by
  induction count with
  | zero => exact fun _ _ _ ran => absurd ran refuse_ne_ok
  | succ count inductionHypothesis => exact keeps _ inductionHypothesis

end Reader

/-! ## Every type -/

namespace WireType

mutual

/-- The reader of a type takes only spellings, if those of the recursive types around it do. -/
theorem read_takesOnly : ∀ (type : WireType) {readers : List (Reader Value)},
    (∀ reader ∈ readers, TakesOnlySpellings reader) → TakesOnlySpellings (type.read readers)
  | .bool, _, _, _, _, _, ran => by
      obtain ⟨truth, truthRead, rfl⟩ := Reader.bind_pure_eq_ok.1 ran
      exact ⟨_, rfl, Reader.bool_eq_ok truthRead⟩
  | .char, _, _, _, _, _, ran => by
      obtain ⟨character, characterRead, rfl⟩ := Reader.bind_pure_eq_ok.1 ran
      exact ⟨_, rfl, Reader.char_eq_ok characterRead⟩
  | .text, _, _, _, _, _, ran => by
      obtain ⟨content, contentRead, rfl⟩ := Reader.bind_pure_eq_ok.1 ran
      obtain ⟨form, isForm, rfl⟩ := Reader.text_eq_ok contentRead
      exact ⟨_, ⟨form, isForm, rfl⟩, rfl⟩
  | .float32, _, _, _, _, _, ran => by
      obtain ⟨bits, bitsRead, rfl⟩ := Reader.bind_pure_eq_ok.1 ran
      obtain ⟨below, rfl⟩ := Reader.littleEndian_eq_ok bitsRead
      have fits : bits < 2 ^ 32 := below
      refine ⟨_, ?_, rfl⟩
      rw [Value.SpelledBy, UInt32.toNat_ofNat', Nat.mod_eq_of_lt fits]
  | .float64, _, _, _, _, _, ran => by
      obtain ⟨bits, bitsRead, rfl⟩ := Reader.bind_pure_eq_ok.1 ran
      obtain ⟨below, rfl⟩ := Reader.littleEndian_eq_ok bitsRead
      have fits : bits < 2 ^ 64 := below
      refine ⟨_, ?_, rfl⟩
      rw [Value.SpelledBy, UInt64.toNat_ofNat', Nat.mod_eq_of_lt fits]
  | .integer format, _, _, _, _, _, ran => by
      obtain ⟨number, numberRead, rfl⟩ := Reader.bind_pure_eq_ok.1 ran
      exact Reader.integer_eq_ok numberRead
  | .list element, _, around, _, _, _, ran => by
      obtain ⟨count, _, countRead, goesOn⟩ := Reader.bind_eq_ok.1 ran
      obtain ⟨members, membersRead, rfl⟩ := Reader.bind_pure_eq_ok.1 goesOn
      obtain ⟨form, isForm, rfl⟩ := Reader.compact_eq_ok countRead
      obtain ⟨rfl, body, eachSpelled, rfl⟩ :=
        Reader.many_eq_ok (read_takesOnly element around) membersRead
      exact ⟨_, ⟨form, body, isForm, eachSpelled, rfl⟩, (List.append_assoc _ _ _).symm⟩
  | .option content, _, around, _, _, _, ran => by
      obtain ⟨isThere, _, presenceRead, goesOn⟩ := Reader.bind_eq_ok.1 ran
      have starts := Reader.presence_eq_ok presenceRead
      cases isThere with
      | false =>
          obtain ⟨rfl, rfl⟩ := Reader.pure_eq_ok.1 goesOn
          exact ⟨_, rfl, starts⟩
      | true =>
          obtain ⟨present, contentRead, rfl⟩ := Reader.bind_pure_eq_ok.1 goesOn
          obtain ⟨body, contentSpelled, rfl⟩ := read_takesOnly content around _ _ _ contentRead
          exact ⟨_, ⟨body, contentSpelled, rfl⟩, starts⟩
  | .box content, _, around, _, _, _, ran => read_takesOnly content around _ _ _ ran
  | .tuple elements, _, around, _, _, _, ran => by
      obtain ⟨members, membersRead, rfl⟩ := Reader.bind_pure_eq_ok.1 ran
      exact readEach_takesOnly elements around membersRead
  | .record fields, _, around, _, _, _, ran => by
      obtain ⟨members, membersRead, rfl⟩ := Reader.bind_pure_eq_ok.1 ran
      exact readEach_takesOnly fields around membersRead
  | .choice variants, _, around, _, _, _, ran => by
      obtain ⟨index, _, indexRead, goesOn⟩ := Reader.bind_eq_ok.1 ran
      obtain ⟨content, contentRead, rfl⟩ := Reader.bind_pure_eq_ok.1 goesOn
      obtain ⟨form, isForm, rfl⟩ := Reader.integer_eq_ok indexRead
      obtain ⟨body, contentSpelled, rfl⟩ := readAt_takesOnly variants around contentRead
      exact ⟨_, ⟨form, body, isForm, contentSpelled, rfl⟩, (List.append_assoc _ _ _).symm⟩
  | .flattened _ _, _, _, _, _, _, ran => by
      obtain ⟨_, _, _, refused⟩ := Reader.bind_eq_ok.1 ran
      exact absurd refused Reader.refuse_ne_ok
  | .sparse fields, _, _, _, _, _, ran => by
      obtain ⟨count, _, countRead, goesOn⟩ := Reader.bind_eq_ok.1 ran
      obtain ⟨form, isForm, rfl⟩ := Reader.compact_eq_ok countRead
      split at goesOn
      · rename_i isNone
        subst isNone
        obtain ⟨rfl, rfl⟩ := Reader.pure_eq_ok.1 goesOn
        exact ⟨form, ⟨fun _ => List.eq_of_mem_replicate, isForm⟩, rfl⟩
      · exact absurd goesOn Reader.refuse_ne_ok
  | .recursive body, _, around, _, _, _, ran =>
      Reader.takesOnly_unfolded (fun _ takesOnly => read_takesOnly body
        (List.forall_mem_cons.2 ⟨takesOnly, around⟩)) _ _ _ _ ran
  | .recur depth, readers, around, _, _, _, ran => by
      rw [read] at ran
      cases found : readers[depth]? with
      | some reader =>
          rw [found] at ran
          exact around reader (List.mem_of_getElem? found) _ _ _ ran
      | none =>
          rw [found] at ran
          exact absurd ran Reader.refuse_ne_ok

private theorem readEach_takesOnly : ∀ (types : List WireType) {readers : List (Reader Value)},
    (∀ reader ∈ readers, TakesOnlySpellings reader) →
    ∀ {input : Bytes} {values : List Value} {rest : Bytes},
      readEach types readers input = .ok (values, rest) →
        ∃ front, Value.SpelledByEach values front ∧ input = front ++ rest
  | [], _, _, _, _, _, ran => by
      obtain ⟨rfl, rfl⟩ := Reader.pure_eq_ok.1 ran
      exact ⟨[], rfl, rfl⟩
  | type :: types, _, around, _, _, _, ran => by
      obtain ⟨first, _, firstRead, goesOn⟩ := Reader.bind_eq_ok.1 ran
      obtain ⟨others, othersRead, rfl⟩ := Reader.bind_pure_eq_ok.1 goesOn
      obtain ⟨head, firstSpelled, rfl⟩ := read_takesOnly type around _ _ _ firstRead
      obtain ⟨tail, othersSpelled, rfl⟩ := readEach_takesOnly types around othersRead
      exact ⟨_, ⟨head, tail, firstSpelled, othersSpelled, rfl⟩, (List.append_assoc _ _ _).symm⟩

private theorem readAt_takesOnly : ∀ (types : List WireType) {readers : List (Reader Value)},
    (∀ reader ∈ readers, TakesOnlySpellings reader) →
    ∀ {index : Nat} {error : DecodeError} {input : Bytes} {value : Value} {rest : Bytes},
      readAt types index error readers input = .ok (value, rest) →
        ∃ front, value.SpelledBy front ∧ input = front ++ rest
  | [], _, _, _, _, _, _, _, ran => absurd ran Reader.refuse_ne_ok
  | type :: _, _, around, 0, _, _, _, _, ran => read_takesOnly type around _ _ _ ran
  | _ :: types, _, around, _ + 1, _, _, _, _, ran => readAt_takesOnly types around ran

end

end WireType

end RemoteCall.Wire
