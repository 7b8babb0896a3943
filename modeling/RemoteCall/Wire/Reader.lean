import RemoteCall.Wire.DecodeError

/-!
Contract: readers, which take a value off the front of a byte string, and the readers of the
values that hold no others.

Owns:
- the type of readers and how two are run one after the other;
- repetition, and the reader of a thing that holds things of its own kind;
- bytes, words, truth values, characters, texts, integers and lengths.

A reader looks at its input front to back and stops at the first thing that is wrong; what it
leaves is what it did not look at.

Does not own: types of values.
-/

namespace RemoteCall.Wire

set_option autoImplicit false

/-- Takes a value off the front of its input and leaves the rest, or says what is wrong. -/
abbrev Reader (α : Type) := StateT Bytes (Except DecodeError) α

namespace Reader

variable {α : Type}

def refuse (error : DecodeError) : Reader α :=
  fun _ => .error error

def byte : Reader UInt8
  | [] => .error .endOfInput
  | first :: rest => .ok (first, rest)

/-- The first `count` bytes, or `error` if there are fewer. -/
def take (count : Nat) (error : DecodeError) : Reader Bytes := fun input =>
  if count ≤ input.length then .ok (input.take count, input.drop count) else .error error

/-- The number in the next `width` bytes, least significant first. -/
def littleEndian (width : Nat) : Reader Nat := do
  return Bytes.ofLittleEndian (← take width .endOfInput)

/-- Runs a reader `count` times, behind the values that were read before, the last one in front.
They are handed on rather than waited for, so that a long list needs no deep stack. -/
def manyAfter (element : Reader α) : (count : Nat) → (before : List α) → Reader (List α)
  | 0, before => pure before.reverse
  | count + 1, before => do
      let next ← element
      manyAfter element count (next :: before)

def many (element : Reader α) (count : Nat) : Reader (List α) :=
  manyAfter element count []

/-- A reader that may come back to itself at most `count` times, one inside the other. -/
def unfolded (step : Reader α → Reader α) : (count : Nat) → Reader α
  | 0 => refuse .endOfInput
  | count + 1 => step (unfolded step count)

/-- The reader that `step` describes in terms of itself.

A reader that takes at least one byte before it comes back to itself does so at most once for each
byte of its input, so the bound is never felt; one that does not would never come to an end, and
is refused. -/
def fix (step : Reader α → Reader α) : Reader α := fun input =>
  unfolded step (input.length + 1) input

/-! ## Values that hold no others -/

def bool : Reader Bool := do
  match (← byte).toNat with
  | 0 => return false
  | 1 => return true
  | found => refuse (.invalidBool found)

/-- Whether an optional value is there, one byte. -/
def presence : Reader Bool := do
  match (← byte).toNat with
  | 0 => return false
  | 1 => return true
  | found => refuse (.invalidOption found)

/-- A number in compact form. The 16-byte form is refused unless `wide`; a longer form than
necessary is taken. -/
def compact (wide : Bool) : Reader Nat := do
  let marker ← byte
  if marker.toNat ≤ singleByteMax then return marker.toNat
  else if marker = 0xFB then littleEndian 2
  else if marker = 0xFC then littleEndian 4
  else if marker = 0xFD then littleEndian 8
  else if marker = 0xFE then
    if wide then littleEndian 16 else refuse .wideMarker
  else refuse .reservedMarker

/-- The number that a byte stands for in a format of one byte. -/
def byteNumber (signed : Bool) (code : Nat) : Int :=
  if signed && 128 ≤ code then (code : Int) - 256 else code

def integer (format : IntegerFormat) : Reader Int := do
  if format.width = .bits8 then
    return byteNumber format.signed (← byte).toNat
  else
    let place ← compact (format.width = .bits128)
    let number := format.ofPlace place
    if format.Holds number then return number else refuse (.outOfRange format number)

/-- The number of elements of a list, or of bytes of a text. -/
def length : Reader Nat :=
  compact false

/-- A character: as many bytes as its first byte announces. -/
def char : Reader Char
  | [] => .error .endOfInput
  | first :: rest =>
      match Utf8.width? first.toNat with
      | none => .error .invalidChar
      | some width =>
          match take width .invalidChar (first :: rest) with
          | .error error => .error error
          | .ok (bytes, remaining) =>
              match Utf8.toChars bytes with
              | .ok [character] => .ok (character, remaining)
              | _ => .error .invalidChar

/-- A text: its length in bytes, then its bytes, which must be UTF-8. -/
def text : Reader String := do
  let bytes ← take (← length) .textTooShort
  match Utf8.decode bytes with
  | .ok content => return content
  | .error fault => refuse (.invalidText fault)

/-! ## Running readers one after the other -/

/-- Two readers succeed one after the other exactly if the first does and the second does on what
the first leaves. -/
theorem bind_eq_ok {β : Type} {first : Reader α} {next : α → Reader β} {input rest : Bytes}
    {result : β} :
    (first >>= next) input = .ok (result, rest) ↔
      ∃ value middle, first input = .ok (value, middle) ∧ next value middle = .ok (result, rest) := by
  simp only [bind, StateT.bind, Except.bind]
  cases first input with
  | error error => simp
  | ok outcome =>
      obtain ⟨value, middle⟩ := outcome
      constructor
      · exact fun ran => ⟨value, middle, rfl, ran⟩
      · rintro ⟨_, _, same, ran⟩
        cases same
        exact ran

theorem pure_eq_ok {value result : α} {input rest : Bytes} :
    (pure value : Reader α) input = .ok (result, rest) ↔ value = result ∧ input = rest := by
  show (Except.ok (value, input) : Except DecodeError (α × Bytes)) = .ok (result, rest) ↔ _
  rw [Except.ok.injEq, Prod.mk.injEq]

theorem refuse_ne_ok {error : DecodeError} {result : α} {input rest : Bytes} :
    (refuse error : Reader α) input ≠ .ok (result, rest) := by
  simp [refuse]

/-- What is read as an integer lies in its format. -/
theorem holds_of_integer {format : IntegerFormat} {input rest : Bytes} {number : Int}
    (ran : integer format input = .ok (number, rest)) : format.Holds number := by
  unfold integer at ran
  split at ran
  · rename_i narrow
    obtain ⟨first, middle, _, returned⟩ := bind_eq_ok.1 ran
    obtain ⟨rfl, _⟩ := pure_eq_ok.1 returned
    have firstBound := first.toNat_lt
    simp only [IntegerFormat.Holds, IntegerFormat.least, IntegerFormat.bound, narrow, byteNumber,
      Width.bits]
    cases format.signed with
    | false => simp; omega
    | true => simp; split <;> omega
  · obtain ⟨place, middle, _, checked⟩ := bind_eq_ok.1 ran
    split at checked
    · rename_i holds
      obtain ⟨rfl, _⟩ := pure_eq_ok.1 checked
      exact holds
    · exact absurd checked refuse_ne_ok

theorem manyAfter_eq_map (element : Reader α) :
    ∀ (count : Nat) (before : List α),
      manyAfter element count before = (before.reverse ++ ·) <$> many element count
  | 0, before => by simp [manyAfter, many]
  | count + 1, before => by
      simp only [manyAfter, many, map_bind]
      congr 1
      funext next
      rw [manyAfter_eq_map element count (next :: before), manyAfter_eq_map element count [next]]
      simp [Functor.map_map]

theorem many_zero (element : Reader α) : many element 0 = pure [] := rfl

/-- One repetition more reads one value in front of the others. -/
theorem many_succ (element : Reader α) (count : Nat) :
    many element (count + 1) = do
      let first ← element
      let others ← many element count
      return first :: others := by
  simp only [many, manyAfter]
  congr 1
  funext first
  rw [manyAfter_eq_map]
  simp [many]

/-- Everything that is read by repetition was read by the repeated reader. -/
theorem forall_of_many {set : α → Prop} {element : Reader α}
    (sound : ∀ input value rest, element input = .ok (value, rest) → set value) :
    ∀ {count : Nat} {input : Bytes} {values : List α} {rest : Bytes},
      many element count input = .ok (values, rest) → ∀ value ∈ values, set value
  | 0, _, _, _, ran => by
      rw [many_zero] at ran
      obtain ⟨rfl, _⟩ := pure_eq_ok.1 ran
      simp
  | count + 1, _, _, _, ran => by
      rw [many_succ] at ran
      obtain ⟨first, _, firstRan, ran⟩ := bind_eq_ok.1 ran
      obtain ⟨others, _, othersRan, ran⟩ := bind_eq_ok.1 ran
      obtain ⟨rfl, _⟩ := pure_eq_ok.1 ran
      intro value member
      cases member with
      | head => exact sound _ _ _ firstRan
      | tail _ member => exact forall_of_many sound othersRan value member

end Reader

end RemoteCall.Wire
