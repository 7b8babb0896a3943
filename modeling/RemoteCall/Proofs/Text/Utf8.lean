import RemoteCall.Text.Utf8

/-!
Contract: the machine that reads UTF-8 accepts what is written, character by character.

Owns:
- the first byte of a written character, which announces how many bytes there are;
- reading a written character in front of anything, and reading a written text.

Does not own: what the machine makes of bytes that nobody wrote.
-/

namespace RemoteCall.Utf8

set_option autoImplicit false

/-! ## First bytes -/

private theorem toNat_ofNat_byte {code : Nat} (isByte : code < 256) :
    (UInt8.ofNat code).toNat = code := by
  rw [UInt8.toNat_ofNat', Nat.mod_eq_of_lt isByte]

private theorem lead_single {code : Nat} (above : code < 0x80) : lead code = .single code := by
  unfold lead
  rw [if_pos above]

private theorem lead_two {code : Nat} (below : 0x80 ≤ code) (above : code < 0x800) :
    lead (code / 64 + 0xC0) = .longer ⟨1, 0, 0x80, 0xBF, code / 64⟩ := by
  unfold lead
  rw [if_neg (by omega), if_neg (by omega), if_pos (by omega), Nat.add_sub_cancel]

/-- The first of three bytes leaves room for the second: after E0 the code is not below U+0800,
after ED it is no surrogate. -/
private theorem lead_three {code : Nat} (below : 0x800 ≤ code) (above : code < 0x10000)
    (noSurrogate : code < 0xD800 ∨ 0xDFFF < code) :
    ∃ low high, lead (code / 4096 + 0xE0) = .longer ⟨1, 1, low, high, code / 4096⟩ ∧
      low ≤ code / 64 % 64 + 0x80 ∧ code / 64 % 64 + 0x80 ≤ high := by
  unfold lead
  rw [if_neg (by omega), if_neg (by omega), if_neg (by omega)]
  by_cases isLeast : code / 4096 = 0
  · rw [if_pos (by omega), isLeast]
    exact ⟨_, _, rfl, by omega, by omega⟩
  · rw [if_neg (by omega)]
    by_cases besideSurrogates : code / 4096 = 0xD
    · rw [if_pos (by omega), besideSurrogates]
      exact ⟨_, _, rfl, by omega, by omega⟩
    · rw [if_neg (by omega), if_pos (by omega), Nat.add_sub_cancel]
      exact ⟨_, _, rfl, by omega, by omega⟩

/-- The first of four bytes leaves room for the second: after F0 the code is not below U+10000,
after F4 it is not above U+10FFFF. -/
private theorem lead_four {code : Nat} (below : 0x10000 ≤ code) (above : code < 0x110000) :
    ∃ low high, lead (code / 262144 + 0xF0) = .longer ⟨1, 2, low, high, code / 262144⟩ ∧
      low ≤ code / 4096 % 64 + 0x80 ∧ code / 4096 % 64 + 0x80 ≤ high := by
  unfold lead
  rw [if_neg (by omega), if_neg (by omega), if_neg (by omega), if_neg (by omega),
    if_neg (by omega), if_neg (by omega)]
  by_cases isLeast : code / 262144 = 0
  · rw [if_pos (by omega), isLeast]
    exact ⟨_, _, rfl, by omega, by omega⟩
  · rw [if_neg (by omega)]
    by_cases isGreatest : code / 262144 = 4
    · rw [if_neg (by omega), if_pos (by omega), isGreatest]
      exact ⟨_, _, rfl, by omega, by omega⟩
    · rw [if_pos (by omega), Nat.add_sub_cancel]
      exact ⟨_, _, rfl, by omega, by omega⟩

/-! ## Later bytes -/

/-- A byte in the range that is waited for ends the character if none is missing behind it. -/
private theorem scan_last (code : Nat) {seen low high bits index next : Nat} {tail : Bytes}
    (isByte : next < 256) (inRange : low ≤ next ∧ next ≤ high)
    (same : bits * 64 + (next - 0x80) = code) :
    scan (some ⟨seen, 0, low, high, bits⟩) index (UInt8.ofNat next :: tail) =
      (scan none (index + seen + 1) tail).map (Char.ofNat code :: ·) := by
  rw [scan, toNat_ofNat_byte isByte, if_pos inRange]
  simp only [same]

/-- A byte in the range that is waited for takes the machine on by one byte. -/
private theorem scan_inner {seen missing low high bits index next : Nat} {tail : Bytes}
    (isByte : next < 256) (inRange : low ≤ next ∧ next ≤ high) :
    scan (some ⟨seen, missing + 1, low, high, bits⟩) index (UInt8.ofNat next :: tail) =
      scan (some ⟨seen + 1, missing, 0x80, 0xBF, bits * 64 + (next - 0x80)⟩) index tail := by
  rw [scan, toNat_ofNat_byte isByte, if_pos inRange]

/-! ## Characters and texts -/

theorem ofChar_one {character : Char} (above : character.toNat < 0x80) :
    ofChar character = [UInt8.ofNat character.toNat] := by
  unfold ofChar String.utf8EncodeChar
  rw [Char.toNat] at *
  rw [if_pos (by omega)]

theorem ofChar_two {character : Char} (below : 0x80 ≤ character.toNat)
    (above : character.toNat < 0x800) :
    ofChar character = [UInt8.ofNat (character.toNat / 64 + 0xC0),
      UInt8.ofNat (character.toNat % 64 + 0x80)] := by
  unfold ofChar String.utf8EncodeChar
  rw [Char.toNat] at *
  rw [if_neg (by omega), if_pos (by omega), Nat.mod_eq_of_lt (a := character.val.toNat / 64)
    (by omega)]

theorem ofChar_three {character : Char} (below : 0x800 ≤ character.toNat)
    (above : character.toNat < 0x10000) :
    ofChar character = [UInt8.ofNat (character.toNat / 4096 + 0xE0),
      UInt8.ofNat (character.toNat / 64 % 64 + 0x80),
      UInt8.ofNat (character.toNat % 64 + 0x80)] := by
  unfold ofChar String.utf8EncodeChar
  rw [Char.toNat] at *
  rw [if_neg (by omega), if_neg (by omega), if_pos (by omega),
    Nat.mod_eq_of_lt (a := character.val.toNat / 4096) (by omega)]

theorem ofChar_four {character : Char} (below : 0x10000 ≤ character.toNat)
    (above : character.toNat < 0x110000) :
    ofChar character = [UInt8.ofNat (character.toNat / 262144 + 0xF0),
      UInt8.ofNat (character.toNat / 4096 % 64 + 0x80),
      UInt8.ofNat (character.toNat / 64 % 64 + 0x80),
      UInt8.ofNat (character.toNat % 64 + 0x80)] := by
  unfold ofChar String.utf8EncodeChar
  rw [Char.toNat] at *
  rw [if_neg (by omega), if_neg (by omega), if_neg (by omega),
    Nat.mod_eq_of_lt (a := character.val.toNat / 262144) (by omega)]

/-- The four sizes of a character's code. -/
private theorem code_cases (character : Char) :
    character.toNat < 0x80 ∨
    (0x80 ≤ character.toNat ∧ character.toNat < 0x800) ∨
    (0x800 ≤ character.toNat ∧ character.toNat < 0x10000 ∧
      (character.toNat < 0xD800 ∨ 0xDFFF < character.toNat)) ∨
    (0x10000 ≤ character.toNat ∧ character.toNat < 0x110000) := by
  have valid : character.toNat < 0xD800 ∨
      (0xDFFF < character.toNat ∧ character.toNat < 0x110000) := character.valid
  omega

/-- The first byte of a written character announces the number of its bytes. -/
theorem ofChar_announced (character : Char) :
    ∃ first others, ofChar character = first :: others ∧
      width? first.toNat = some (ofChar character).length := by
  unfold width?
  rcases code_cases character with above | ⟨below, above⟩ | ⟨below, above, noSurrogate⟩ |
    ⟨below, above⟩
  · refine ⟨_, _, ofChar_one above, ?_⟩
    rw [ofChar_one above, toNat_ofNat_byte (by omega), lead_single above]
    rfl
  · refine ⟨_, _, ofChar_two below above, ?_⟩
    rw [ofChar_two below above, toNat_ofNat_byte (by omega), lead_two below above]
    rfl
  · obtain ⟨low, high, leads, _, _⟩ := lead_three below above noSurrogate
    refine ⟨_, _, ofChar_three below above, ?_⟩
    rw [ofChar_three below above, toNat_ofNat_byte (by omega), leads]
    rfl
  · obtain ⟨low, high, leads, _, _⟩ := lead_four below above
    refine ⟨_, _, ofChar_four below above, ?_⟩
    rw [ofChar_four below above, toNat_ofNat_byte (by omega), leads]
    rfl

/-- Between two characters, a written character is read whatever follows it. -/
theorem scan_ofChar (character : Char) (index : Nat) (tail : Bytes) :
    scan none index (ofChar character ++ tail) =
      (scan none (index + (ofChar character).length) tail).map (character :: ·) := by
  have back : Char.ofNat character.toNat = character := Char.ofNat_toNat character
  rcases code_cases character with above | ⟨below, above⟩ | ⟨below, above, noSurrogate⟩ |
    ⟨below, above⟩
  · rw [ofChar_one above, List.singleton_append, scan, toNat_ofNat_byte (by omega),
      lead_single above]
    simp only [back, List.length_singleton]
  · rw [ofChar_two below above, List.cons_append, List.singleton_append, scan,
      toNat_ofNat_byte (by omega), lead_two below above]
    simp only
    rw [scan_last character.toNat (by omega) (by omega) (by omega), back]
    rfl
  · obtain ⟨low, high, leads, atLeast, atMost⟩ := lead_three below above noSurrogate
    rw [ofChar_three below above, List.cons_append, List.cons_append, List.singleton_append, scan,
      toNat_ofNat_byte (by omega), leads]
    simp only
    rw [scan_inner (by omega) ⟨atLeast, atMost⟩,
      scan_last character.toNat (by omega) (by omega) (by omega), back]
    rfl
  · obtain ⟨low, high, leads, atLeast, atMost⟩ := lead_four below above
    rw [ofChar_four below above, List.cons_append, List.cons_append, List.cons_append,
      List.singleton_append, scan, toNat_ofNat_byte (by omega), leads]
    simp only
    rw [scan_inner (by omega) ⟨atLeast, atMost⟩, scan_inner (by omega) (by omega),
      scan_last character.toNat (by omega) (by omega) (by omega), back]
    rfl

/-- A written list of characters is read back. -/
theorem scan_ofChars (characters : List Char) (index : Nat) :
    scan none index (ofChars characters) = .ok characters := by
  induction characters generalizing index with
  | nil => rfl
  | cons first others inductionHypothesis =>
      rw [ofChars, List.flatMap_cons, scan_ofChar, ← ofChars, inductionHypothesis]
      rfl

/-- A single written character is read back. -/
theorem toChars_ofChar (character : Char) : toChars (ofChar character) = .ok [character] := by
  have read := scan_ofChars [character] 0
  rwa [ofChars, List.flatMap_singleton] at read

/-- A written text is read back. -/
theorem decode_encode (text : String) : decode (encode text) = .ok text := by
  unfold decode toChars encode
  rw [scan_ofChars]
  exact congrArg Except.ok String.ofList_toList

end RemoteCall.Utf8
