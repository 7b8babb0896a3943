import RemoteCall.Bytes

/-!
Contract: the integer formats and how a number is written in them.

Owns:
- the ten formats, their ranges and their names;
- the zigzag order of signed numbers;
- the compact form of unsigned numbers: one byte up to 250, else a marker and the narrowest of
  2, 4, 8 or 16 bytes, least significant first.

Does not own: reading, which refuses some of these forms with an error.
-/

namespace RemoteCall.Wire

set_option autoImplicit false

inductive Width where
  | bits8
  | bits16
  | bits32
  | bits64
  | bits128
deriving DecidableEq, Repr

def Width.bits : Width → Nat
  | .bits8 => 8
  | .bits16 => 16
  | .bits32 => 32
  | .bits64 => 64
  | .bits128 => 128

/-- An integer format: signed or not, of one of the five sizes. -/
structure IntegerFormat where
  signed : Bool
  width : Width
deriving DecidableEq, Repr

namespace IntegerFormat

abbrev u8 : IntegerFormat := ⟨false, .bits8⟩

/-- The unsigned format of 32 bits, in which a variant's index is written. -/
abbrev u32 : IntegerFormat := ⟨false, .bits32⟩

/-- The unsigned format of 64 bits, in which a length is written. -/
abbrev u64 : IntegerFormat := ⟨false, .bits64⟩

abbrev i32 : IntegerFormat := ⟨true, .bits32⟩

abbrev i64 : IntegerFormat := ⟨true, .bits64⟩

def least (format : IntegerFormat) : Int :=
  if format.signed then -(1 <<< (format.width.bits - 1) : Nat) else 0

/-- The first number above a format. -/
def bound (format : IntegerFormat) : Int :=
  if format.signed then (1 <<< (format.width.bits - 1) : Nat)
  else (1 <<< format.width.bits : Nat)

/-- A number that a format can hold. -/
def Holds (format : IntegerFormat) (number : Int) : Prop :=
  format.least ≤ number ∧ number < format.bound

instance (format : IntegerFormat) (number : Int) : Decidable (format.Holds number) :=
  inferInstanceAs (Decidable (_ ∧ _))

/-- A format's name, such as `u16` or `i128`. -/
def name (format : IntegerFormat) : String :=
  (if format.signed then "i" else "u") ++ toString format.width.bits

end IntegerFormat

/-- The place of a signed number in the order 0, -1, 1, -2, 2, … -/
def zigzag (number : Int) : Nat :=
  if 0 ≤ number then 2 * number.toNat else 2 * (-number).toNat - 1

/-- The signed number at a place of the order 0, -1, 1, -2, 2, … -/
def ofZigzag (place : Nat) : Int :=
  if place % 2 = 0 then (place / 2 : Nat) else -((place / 2 : Nat) + 1 : Int)

/-- The unsigned number that stands for a number of a wider format than a byte. -/
def IntegerFormat.place (format : IntegerFormat) (number : Int) : Nat :=
  if format.signed then zigzag number else number.toNat

/-- The number of a wider format than a byte that an unsigned number stands for. -/
def IntegerFormat.ofPlace (format : IntegerFormat) (place : Nat) : Int :=
  if format.signed then ofZigzag place else place

/-- The greatest number that is written as one byte. -/
def singleByteMax : Nat := 250

/-- The shortest compact form of a number. -/
def compact (number : Nat) : Bytes :=
  if number ≤ singleByteMax then [UInt8.ofNat number]
  else if number < UInt16.size then 0xFB :: Bytes.littleEndian 2 number
  else if number < UInt32.size then 0xFC :: Bytes.littleEndian 4 number
  else if number < UInt64.size then 0xFD :: Bytes.littleEndian 8 number
  else 0xFE :: Bytes.littleEndian 16 number

/-- An integer in its format: a byte as it is (two's complement), any wider one compact, and in
zigzag order if the format is signed. -/
def integerBytes (format : IntegerFormat) (number : Int) : Bytes :=
  if format.width = .bits8 then [UInt8.ofNat (number % 256).toNat]
  else compact (format.place number)

/-- Bytes behind their number, as texts and byte strings are written. -/
def sized (content : Bytes) : Bytes :=
  compact content.length ++ content

@[simp] theorem ofZigzag_zigzag (number : Int) : ofZigzag (zigzag number) = number := by
  unfold zigzag ofZigzag
  split <;> split <;> omega

@[simp] theorem zigzag_ofZigzag (place : Nat) : zigzag (ofZigzag place) = place := by
  unfold zigzag ofZigzag
  split <;> split <;> omega

end RemoteCall.Wire
