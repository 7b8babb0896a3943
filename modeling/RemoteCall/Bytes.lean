/-!
Contract: byte strings and the two fixed-width orders in which a number is written into them.

Owns:
- the type of byte strings;
- little-endian and big-endian words, and the number that a word stands for.

Does not own: which widths the wire uses, and what a number means.
-/

namespace RemoteCall

set_option autoImplicit false

/-- A finite string of bytes, front first. -/
abbrev Bytes := List UInt8

namespace Bytes

/-- The lowest `width` bytes of a number, least significant first. -/
def littleEndian : (width : Nat) → (number : Nat) → Bytes
  | 0, _ => []
  | width + 1, number => UInt8.ofNat (number % 256) :: littleEndian width (number / 256)

/-- The number that a word stands for, its least significant byte first. -/
def ofLittleEndian : Bytes → Nat
  | [] => 0
  | byte :: rest => byte.toNat + 256 * ofLittleEndian rest

/-- The lowest `width` bytes of a number, most significant first. -/
def bigEndian (width number : Nat) : Bytes :=
  (littleEndian width number).reverse

/-- The number that a word stands for, its most significant byte first. -/
def ofBigEndian (word : Bytes) : Nat :=
  ofLittleEndian word.reverse

@[simp] theorem length_littleEndian (width number : Nat) :
    (littleEndian width number).length = width := by
  induction width generalizing number with
  | zero => rfl
  | succ width inductionHypothesis => simp [littleEndian, inductionHypothesis]

@[simp] theorem length_bigEndian (width number : Nat) :
    (bigEndian width number).length = width := by
  simp [bigEndian]

end Bytes

end RemoteCall
