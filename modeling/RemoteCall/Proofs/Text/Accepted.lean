import RemoteCall.Proofs.Text.Utf8

/-!
Contract: the machine that reads UTF-8 accepts nothing but what is written for some characters.

Owns:
- what the first byte of an accepted character, and the range of its second byte, say of its code;
- the character at the front of an accepted input, and from it the characters of the whole input.

Does not own: how an input that is not accepted is at fault.
-/

namespace RemoteCall.Utf8

set_option autoImplicit false

/-! ## One byte -/

private theorem ofNat_eq_byte {code : Nat} (byte : UInt8) (same : code = byte.toNat) :
    UInt8.ofNat code = byte := by
  rw [same, UInt8.ofNat_toNat]

private theorem toNat_of_valid (code : Nat) (valid : code.isValidChar) :
    (Char.ofNat code).toNat = code := by
  unfold Char.ofNat
  rw [dif_pos valid]
  rfl

private theorem lead_eq_single {byte code : Nat} (leads : lead byte = .single code) :
    code = byte ∧ byte < 0x80 := by
  unfold lead at leads
  repeat' split at leads
  all_goals cases leads
  constructor
  · rfl
  · assumption

/-- What the bits of a first byte and the bounds on the second one leave possible: no code that
fits fewer bytes, no surrogate and none above U+10FFFF. -/
private theorem lead_eq_longer {byte : Nat} {pending : Pending}
    (leads : lead byte = .longer pending) :
    (pending = ⟨1, 0, 0x80, 0xBF, byte - 0xC0⟩ ∧ 0xC2 ≤ byte ∧ byte < 0xE0) ∨
    (∃ low high bits, pending = ⟨1, 1, low, high, bits⟩ ∧ byte = bits + 0xE0 ∧ bits < 16 ∧
      0x80 ≤ low ∧ high ≤ 0xBF ∧ (bits = 0 → 0xA0 ≤ low) ∧ (bits = 0xD → high ≤ 0x9F)) ∨
    (∃ low high bits, pending = ⟨1, 2, low, high, bits⟩ ∧ byte = bits + 0xF0 ∧ bits < 5 ∧
      0x80 ≤ low ∧ high ≤ 0xBF ∧ (bits = 0 → 0x90 ≤ low) ∧ (bits = 4 → high ≤ 0x8F)) := by
  unfold lead at leads
  repeat' split at leads
  all_goals cases leads
  · exact .inl ⟨rfl, by omega, by omega⟩
  · exact .inr (.inl ⟨_, _, _, rfl, by omega⟩)
  · exact .inr (.inl ⟨_, _, _, rfl, by omega⟩)
  · exact .inr (.inl ⟨_, _, _, rfl, by omega⟩)
  · exact .inr (.inr ⟨_, _, _, rfl, by omega⟩)
  · exact .inr (.inr ⟨_, _, _, rfl, by omega⟩)
  · exact .inr (.inr ⟨_, _, _, rfl, by omega⟩)

/-! ## One step of the machine -/

private theorem map_cons_eq_ok {outcome : Except Fault (List Char)} {first : Char}
    {characters : List Char} (mapped : outcome.map (first :: ·) = .ok characters) :
    ∃ others, outcome = .ok others ∧ characters = first :: others := by
  cases outcome with
  | error fault => cases mapped
  | ok others =>
      cases mapped
      exact ⟨others, rfl, rfl⟩

private theorem scan_last_eq_ok {seen low high bits index : Nat} {input : Bytes}
    {characters : List Char}
    (accepted : scan (some ⟨seen, 0, low, high, bits⟩) index input = .ok characters) :
    ∃ next rest others, input = next :: rest ∧ low ≤ next.toNat ∧ next.toNat ≤ high ∧
      scan none (index + seen + 1) rest = .ok others ∧
      characters = Char.ofNat (bits * 64 + (next.toNat - 0x80)) :: others := by
  cases input with
  | nil => cases accepted
  | cons next rest =>
      rw [scan] at accepted
      split at accepted
      · rename_i inRange
        obtain ⟨others, othersAccepted, same⟩ := map_cons_eq_ok accepted
        exact ⟨next, rest, others, rfl, inRange.1, inRange.2, othersAccepted, same⟩
      · cases accepted

private theorem scan_inner_eq_ok {seen missing low high bits index : Nat} {input : Bytes}
    {characters : List Char}
    (accepted : scan (some ⟨seen, missing + 1, low, high, bits⟩) index input = .ok characters) :
    ∃ next rest, input = next :: rest ∧ low ≤ next.toNat ∧ next.toNat ≤ high ∧
      scan (some ⟨seen + 1, missing, 0x80, 0xBF, bits * 64 + (next.toNat - 0x80)⟩) index rest =
        .ok characters := by
  cases input with
  | nil => cases accepted
  | cons next rest =>
      rw [scan] at accepted
      split at accepted
      · rename_i inRange
        exact ⟨next, rest, rfl, inRange.1, inRange.2, accepted⟩
      · cases accepted

/-! ## Characters and texts -/

/-- Between two characters, an accepted input that is not empty starts with a written character. -/
private theorem exists_ofChar_of_scan {index : Nat} {byte : UInt8} {rest : Bytes}
    {characters : List Char} (accepted : scan none index (byte :: rest) = .ok characters) :
    ∃ character tail next others, byte :: rest = ofChar character ++ tail ∧
      scan none next tail = .ok others ∧ characters = character :: others := by
  rw [scan] at accepted
  cases leads : lead byte.toNat with
  | bad =>
      rw [leads] at accepted
      cases accepted
  | single code =>
      rw [leads] at accepted
      obtain ⟨others, othersAccepted, rfl⟩ := map_cons_eq_ok accepted
      obtain ⟨rfl, below⟩ := lead_eq_single leads
      have code := toNat_of_valid byte.toNat (.inl (by omega))
      refine ⟨_, rest, _, others, ?_, othersAccepted, rfl⟩
      rw [ofChar_one (by omega), ofNat_eq_byte byte code]
      rfl
  | longer pending =>
      rw [leads] at accepted
      simp only at accepted
      rcases lead_eq_longer leads with ⟨rfl, atLeast, below⟩ |
        ⟨low, high, bits, rfl, first, few, lowest, highest, notShorter, noSurrogate⟩ |
        ⟨low, high, bits, rfl, first, few, lowest, highest, notShorter, notAbove⟩
      · obtain ⟨second, tail, others, rfl, secondLow, secondHigh, othersAccepted, rfl⟩ :=
          scan_last_eq_ok accepted
        have code := toNat_of_valid ((byte.toNat - 0xC0) * 64 + (second.toNat - 0x80))
          (.inl (by omega))
        refine ⟨_, tail, _, others, ?_, othersAccepted, rfl⟩
        rw [ofChar_two (by omega) (by omega), ofNat_eq_byte byte (by omega),
          ofNat_eq_byte second (by omega)]
        rfl
      · obtain ⟨second, afterSecond, rfl, secondLow, secondHigh, accepted⟩ :=
          scan_inner_eq_ok accepted
        obtain ⟨third, tail, others, rfl, thirdLow, thirdHigh, othersAccepted, rfl⟩ :=
          scan_last_eq_ok accepted
        have code := toNat_of_valid
          ((bits * 64 + (second.toNat - 0x80)) * 64 + (third.toNat - 0x80))
          (by unfold Nat.isValidChar; omega)
        refine ⟨_, tail, _, others, ?_, othersAccepted, rfl⟩
        rw [ofChar_three (by omega) (by omega), ofNat_eq_byte byte (by omega),
          ofNat_eq_byte second (by omega), ofNat_eq_byte third (by omega)]
        rfl
      · obtain ⟨second, afterSecond, rfl, secondLow, secondHigh, accepted⟩ :=
          scan_inner_eq_ok accepted
        obtain ⟨third, afterThird, rfl, thirdLow, thirdHigh, accepted⟩ :=
          scan_inner_eq_ok accepted
        obtain ⟨fourth, tail, others, rfl, fourthLow, fourthHigh, othersAccepted, rfl⟩ :=
          scan_last_eq_ok accepted
        have code := toNat_of_valid
          (((bits * 64 + (second.toNat - 0x80)) * 64 + (third.toNat - 0x80)) * 64 +
            (fourth.toNat - 0x80))
          (by unfold Nat.isValidChar; omega)
        refine ⟨_, tail, _, others, ?_, othersAccepted, rfl⟩
        rw [ofChar_four (by omega) (by omega), ofNat_eq_byte byte (by omega),
          ofNat_eq_byte second (by omega), ofNat_eq_byte third (by omega),
          ofNat_eq_byte fourth (by omega)]
        rfl

/-- An input that is accepted is what is written for the characters that are read. -/
theorem eq_ofChars_of_scan {index : Nat} {input : Bytes} {characters : List Char}
    (accepted : scan none index input = .ok characters) : input = ofChars characters := by
  induction characters generalizing index input with
  | nil =>
      cases input with
      | nil => rfl
      | cons byte rest =>
          obtain ⟨_, _, _, _, _, _, same⟩ := exists_ofChar_of_scan accepted
          cases same
  | cons first characters inductionHypothesis =>
      cases input with
      | nil => cases accepted
      | cons byte rest =>
          obtain ⟨_, tail, _, others, split, othersAccepted, same⟩ :=
            exists_ofChar_of_scan accepted
          cases same
          rw [split, inductionHypothesis othersAccepted]
          rfl

theorem eq_ofChar_of_toChars {input : Bytes} {character : Char}
    (accepted : toChars input = .ok [character]) : input = ofChar character := by
  rw [eq_ofChars_of_scan accepted, ofChars, List.flatMap_singleton]

/-- A byte string that spells a text is the one that is written for it. -/
theorem eq_encode_of_decode {input : Bytes} {text : String} (accepted : decode input = .ok text) :
    input = encode text := by
  unfold decode at accepted
  cases scanned : toChars input with
  | error fault =>
      rw [scanned] at accepted
      cases accepted
  | ok characters =>
      rw [scanned] at accepted
      cases accepted
      rw [encode, String.toList_ofList]
      exact eq_ofChars_of_scan scanned

end RemoteCall.Utf8
