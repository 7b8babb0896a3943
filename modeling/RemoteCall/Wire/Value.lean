import RemoteCall.Text.Utf8
import RemoteCall.Wire.Integer

/-!
Contract: the values that cross the wire, and how they are written.

Owns:
- the values, each of which says by itself how it is written;
- writing, which fails on nothing but records written by names.

Does not own: which values belong to a type, and reading.
-/

namespace RemoteCall.Wire

set_option autoImplicit false

/-- A value on its way across the wire. Floats are their bits, so that no two are confused. -/
inductive Value where
  | bool (truth : Bool)
  | char (character : Char)
  | text (content : String)
  | float32 (bits : UInt32)
  | float64 (bits : UInt64)
  | integer (format : IntegerFormat) (number : Int)
  /-- Any number of values of one type; their number is written before them. -/
  | list (elements : List Value)
  | absent
  | present (content : Value)
  /-- A fixed number of values, or the fields of a record, in their order. -/
  | tuple (elements : List Value)
  /-- One of several alternatives, written as its index and its content. -/
  | variant (index : Nat) (content : Value)
  /-- A record that is written by the names of its fields, one of which cannot be left out. -/
  | flattened (content : Value)
  /-- A record that is written by the names of its fields, each of which is there or is not. -/
  | sparse (fields : List Value)
deriving Repr, Inhabited

/-- Why a value cannot be written. -/
inductive EncodeError where
  /-- A record is written by names, whose number is not known in front. -/
  | unknownSize
deriving DecidableEq, Repr

def EncodeError.message : EncodeError → String
  | .unknownSize =>
      "encode error: Bincode can only encode sequences and maps that have a knowable size " ++
        "ahead of time"

namespace Value

abbrev unit : Value := .tuple []

/-- A record that is written by the names of its fields, so many, all of which are left out. -/
abbrev bare (count : Nat) : Value := .sparse (List.replicate count .absent)

/-- A byte string as a list of bytes. -/
def bytes (content : Bytes) : Value :=
  .list (content.map fun byte => .integer .u8 byte.toNat)

mutual

def encode : Value → Except EncodeError Bytes
  | .bool truth => .ok [if truth then 1 else 0]
  | .char character => .ok (Utf8.ofChar character)
  | .text content => .ok (sized (Utf8.encode content))
  | .float32 bits => .ok (Bytes.littleEndian 4 bits.toNat)
  | .float64 bits => .ok (Bytes.littleEndian 8 bits.toNat)
  | .integer format number => .ok (integerBytes format number)
  | .list elements => (encodeAfter elements []).map (compact elements.length ++ ·)
  | .absent => .ok [0]
  | .present content => (encode content).map (1 :: ·)
  | .tuple elements => encodeEach elements
  | .variant index content => (encode content).map (compact index ++ ·)
  | .flattened _ | .sparse _ => .error .unknownSize

def encodeEach : List Value → Except EncodeError Bytes
  | [] => .ok []
  | first :: others =>
      match encode first with
      | .error error => .error error
      | .ok bytes => (encodeEach others).map (bytes ++ ·)

/-- Writes values behind the bytes that were written before, the last one in front. These are handed
on rather than waited for, so that a long list needs no deep stack. -/
def encodeAfter : List Value → (before : Bytes) → Except EncodeError Bytes
  | [], before => .ok before.reverse
  | first :: others, before =>
      match encode first with
      | .error error => .error error
      | .ok bytes => encodeAfter others (bytes.reverseAux before)

end

theorem encodeAfter_eq_map (elements : List Value) (before : Bytes) :
    encodeAfter elements before = (encodeEach elements).map (before.reverse ++ ·) := by
  induction elements generalizing before with
  | nil => simp [encodeAfter, encodeEach, Except.map]
  | cons first others inductionHypothesis =>
      rw [encodeAfter, encodeEach]
      cases encode first with
      | error error => rfl
      | ok bytes =>
          simp only [inductionHypothesis]
          cases encodeEach others <;> simp [Except.map]

/-- A list is written as its elements, one after the other, behind their number. -/
theorem encode_list (elements : List Value) :
    (list elements).encode = (encodeEach elements).map (compact elements.length ++ ·) := by
  rw [encode, encodeAfter_eq_map]
  cases encodeEach elements <;> rfl

/-- A byte string is written as its bytes behind their number. -/
theorem encode_bytes (content : Bytes) : (bytes content).encode = .ok (sized content) := by
  have each : ∀ content : Bytes,
      encodeEach (content.map fun byte => .integer .u8 byte.toNat) = .ok content := by
    intro content
    induction content with
    | nil => rfl
    | cons byte rest inductionHypothesis =>
        have single : integerBytes .u8 byte.toNat = [byte] := by
          have bound := byte.toNat_lt
          have low : ((byte.toNat : Int) % 256).toNat = byte.toNat := by omega
          simp [integerBytes, low]
        simp [encodeEach, encode, single, inductionHypothesis, Except.map]
  simp [bytes, encode_list, each, Except.map, sized]

end Value

end RemoteCall.Wire
