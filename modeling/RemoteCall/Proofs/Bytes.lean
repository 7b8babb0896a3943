import Mathlib.Algebra.Group.Int.Defs
import Mathlib.Algebra.Group.Nat.Defs
import RemoteCall.Bytes

/-!
Contract: a word of some width holds the numbers below a power of 256, each in one way.

Owns:
- reading back a number that fits its word, in either order of the bytes;
- writing back a word, from the number that it stands for;
- the bound on the number that a word stands for.

Does not own: which widths the wire uses.
-/

namespace RemoteCall.Bytes

set_option autoImplicit false

/-- A number that fits its word is read back from it. -/
theorem ofLittleEndian_littleEndian (width number : Nat) (fits : number < 256 ^ width) :
    ofLittleEndian (littleEndian width number) = number := by
  induction width generalizing number with
  | zero => simp at fits; simp [littleEndian, ofLittleEndian, fits]
  | succ width inductionHypothesis =>
      have quotientFits : number / 256 < 256 ^ width := by
        rw [Nat.div_lt_iff_lt_mul (by decide)]
        rwa [Nat.pow_succ] at fits
      have lowByte : (UInt8.ofNat (number % 256)).toNat = number % 256 := by
        simp
      rw [littleEndian, ofLittleEndian, inductionHypothesis _ quotientFits, lowByte]
      omega

/-- A word of `width` bytes stands for a number below `256 ^ width`. -/
theorem ofLittleEndian_lt (word : Bytes) : ofLittleEndian word < 256 ^ word.length := by
  induction word with
  | nil => simp [ofLittleEndian]
  | cons byte rest inductionHypothesis =>
      have byteBound := byte.toNat_lt
      rw [ofLittleEndian, List.length_cons, Nat.pow_succ]
      omega

/-- A word is what is written, in as many bytes, for the number that it stands for. -/
theorem littleEndian_ofLittleEndian (word : Bytes) :
    littleEndian word.length (ofLittleEndian word) = word := by
  induction word with
  | nil => rfl
  | cons byte rest inductionHypothesis =>
      have byteBound := byte.toNat_lt
      have low : (byte.toNat + 256 * ofLittleEndian rest) % 256 = byte.toNat := by omega
      have high : (byte.toNat + 256 * ofLittleEndian rest) / 256 = ofLittleEndian rest := by omega
      rw [ofLittleEndian, List.length_cons, littleEndian, low, high, inductionHypothesis,
        UInt8.ofNat_toNat]

theorem ofBigEndian_bigEndian (width number : Nat) (fits : number < 256 ^ width) :
    ofBigEndian (bigEndian width number) = number := by
  rw [ofBigEndian, bigEndian, List.reverse_reverse, ofLittleEndian_littleEndian width number fits]

theorem bigEndian_ofBigEndian (word : Bytes) :
    bigEndian word.length (ofBigEndian word) = word := by
  rw [bigEndian, ofBigEndian, ← List.length_reverse, littleEndian_ofLittleEndian,
    List.reverse_reverse]

theorem ofBigEndian_lt (word : Bytes) : ofBigEndian word < 256 ^ word.length := by
  rw [ofBigEndian, ← List.length_reverse]
  exact ofLittleEndian_lt word.reverse

end RemoteCall.Bytes
