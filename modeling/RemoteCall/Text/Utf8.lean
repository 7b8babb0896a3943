import RemoteCall.Bytes

/-!
Contract: texts as UTF-8 bytes, and the exact place at which a byte string stops being UTF-8.

Owns:
- the bytes of a character and of a text;
- the machine that reads UTF-8 byte by byte, and the faults it reports.

The machine stands either between two characters or within one. Within one it knows the range
of the next byte: the second byte's range depends on the first (no overlong forms, no surrogates,
nothing above U+10FFFF), every later byte is 80 to BF.

Does not own: lengths before texts, and how a fault is worded.
-/

namespace RemoteCall.Utf8

set_option autoImplicit false

def ofChar (character : Char) : Bytes :=
  String.utf8EncodeChar character

def ofChars (characters : List Char) : Bytes :=
  characters.flatMap ofChar

/-- The UTF-8 bytes of a text. -/
def encode (text : String) : Bytes :=
  ofChars text.toList

theorem encode_injective {left right : String} (same : encode left = encode right) :
    left = right := by
  have bytes (text : String) : text.toByteArray = (encode text).toByteArray := by
    conv => lhs; rw [← String.ofList_toList (s := text), String.toByteArray_ofList]
    rfl
  exact String.toByteArray_inj.1 (by rw [bytes, bytes, same])

/-- A place within a character: what was read of it, and what the next byte may be. -/
structure Pending where
  /-- The bytes of the character read so far. -/
  seen : Nat
  /-- The bytes still missing after the next one. -/
  missing : Nat
  low : Nat
  high : Nat
  bits : Nat
deriving DecidableEq, Repr

/-- What a first byte starts. -/
inductive Lead where
  | single (code : Nat)
  | longer (pending : Pending)
  | bad
deriving DecidableEq, Repr

/-- The characters that a first byte can start. -/
def lead (byte : Nat) : Lead :=
  if byte < 0x80 then .single byte
  else if byte < 0xC2 then .bad
  else if byte < 0xE0 then .longer ⟨1, 0, 0x80, 0xBF, byte - 0xC0⟩
  else if byte = 0xE0 then .longer ⟨1, 1, 0xA0, 0xBF, 0⟩
  else if byte = 0xED then .longer ⟨1, 1, 0x80, 0x9F, 0xD⟩
  else if byte < 0xF0 then .longer ⟨1, 1, 0x80, 0xBF, byte - 0xE0⟩
  else if byte = 0xF0 then .longer ⟨1, 2, 0x90, 0xBF, 0⟩
  else if byte < 0xF4 then .longer ⟨1, 2, 0x80, 0xBF, byte - 0xF0⟩
  else if byte = 0xF4 then .longer ⟨1, 2, 0x80, 0x8F, 4⟩
  else .bad

/-- The number of bytes of a character that starts with this byte, if one does. -/
def width? (byte : Nat) : Option Nat :=
  match lead byte with
  | .single _ => some 1
  | .longer pending => some (pending.missing + 2)
  | .bad => none

/-- Where and how a byte string stops being UTF-8; `index` is where the sequence at fault starts. -/
inductive Fault where
  /-- The input ends within a sequence that was good so far. -/
  | incomplete (index : Nat)
  /-- A sequence goes wrong after `good` bytes; a bad first byte counts as one. -/
  | invalid (good index : Nat)
deriving DecidableEq, Repr

/-- Reads characters from within one (`some`) or between two (`none`); `index` is where the
character at hand starts. -/
def scan : Option Pending → (index : Nat) → Bytes → Except Fault (List Char)
  | none, _, [] => .ok []
  | some _, index, [] => .error (.incomplete index)
  | none, index, byte :: rest =>
      match lead byte.toNat with
      | .single code => (scan none (index + 1) rest).map (Char.ofNat code :: ·)
      | .longer pending => scan (some pending) index rest
      | .bad => .error (.invalid 1 index)
  | some pending, index, byte :: rest =>
      if pending.low ≤ byte.toNat ∧ byte.toNat ≤ pending.high then
        let bits := pending.bits * 64 + (byte.toNat - 0x80)
        match pending.missing with
        | 0 => (scan none (index + pending.seen + 1) rest).map (Char.ofNat bits :: ·)
        | missing + 1 => scan (some ⟨pending.seen + 1, missing, 0x80, 0xBF, bits⟩) index rest
      else .error (.invalid pending.seen index)

/-- The characters that a byte string spells, or the first fault in it. -/
def toChars (bytes : Bytes) : Except Fault (List Char) :=
  scan none 0 bytes

/-- The text that a byte string spells, or the first fault in it. -/
def decode (bytes : Bytes) : Except Fault String :=
  (toChars bytes).map String.ofList

end RemoteCall.Utf8
