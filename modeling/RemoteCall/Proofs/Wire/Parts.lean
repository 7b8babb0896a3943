import RemoteCall.Proofs.Bytes
import RemoteCall.Wire.Value

/-!
Contract: the values inside a value, at any depth.

Owns:
- the parts of a value, itself included, and values all of whose parts have a property;
- the number that is written in front of a part, and values all of whose parts are short enough;
- values all of whose numbers can be written.

A property of all parts is taken apart constructor by constructor with the `every` lemmas, whatever it
says of a part.

Does not own: types.
-/

namespace RemoteCall.Wire.Value

set_option autoImplicit false

mutual

/-- A value and all values inside it. -/
def parts : Value → List Value
  | .list elements => .list elements :: partsOfEach elements
  | .present content => .present content :: content.parts
  | .tuple elements => .tuple elements :: partsOfEach elements
  | .variant index content => .variant index content :: content.parts
  | .flattened content => .flattened content :: content.parts
  | .sparse fields => .sparse fields :: partsOfEach fields
  | .bool truth => [.bool truth]
  | .char character => [.char character]
  | .text content => [.text content]
  | .float32 bits => [.float32 bits]
  | .float64 bits => [.float64 bits]
  | .integer format number => [.integer format number]
  | .absent => [.absent]

/-- Some values and all values inside them. -/
def partsOfEach : List Value → List Value
  | [] => []
  | first :: others => first.parts ++ partsOfEach others

end

theorem mem_partsOfEach {part : Value} {elements : List Value} :
    part ∈ partsOfEach elements ↔ ∃ element ∈ elements, part ∈ element.parts := by
  induction elements with
  | nil => simp [partsOfEach]
  | cons first others inductionHypothesis => simp [partsOfEach, inductionHypothesis]

/-- A value all of whose parts pass a check. -/
def Every (check : Value → Prop) (value : Value) : Prop :=
  ∀ part ∈ value.parts, check part

section Every

variable {check : Value → Prop} {elements : List Value} {content : Value}

instance [DecidablePred check] (value : Value) : Decidable (value.Every check) :=
  inferInstanceAs (Decidable (∀ part ∈ value.parts, check part))

theorem every_of_alone {value : Value} (alone : value.parts = [value]) (own : check value) :
    value.Every check := by
  unfold Every
  rw [alone]
  exact List.forall_mem_singleton.2 own

theorem Every.self {value : Value} (every : value.Every check) : check value :=
  every value (by cases value <;> exact List.mem_cons_self)

/-- A value and several values inside it. -/
theorem every_of_parts {value : Value} (inside : value.parts = value :: partsOfEach elements) :
    value.Every check ↔ check value ∧ ∀ element ∈ elements, element.Every check := by
  unfold Every
  rw [inside, List.forall_mem_cons]
  refine and_congr_right fun _ => ⟨?_, ?_⟩
  · intro all element found part inElement
    exact all part (mem_partsOfEach.2 ⟨element, found, inElement⟩)
  · intro all part inEach
    obtain ⟨element, found, inElement⟩ := mem_partsOfEach.1 inEach
    exact all element found part inElement

/-- A value and a single one inside it. -/
theorem every_of_content {value : Value} (inside : value.parts = value :: content.parts) :
    value.Every check ↔ check value ∧ content.Every check := by
  unfold Every
  rw [inside, List.forall_mem_cons]

theorem every_list :
    (list elements).Every check ↔
      check (.list elements) ∧ ∀ element ∈ elements, element.Every check :=
  every_of_parts rfl

theorem every_tuple :
    (tuple elements).Every check ↔
      check (.tuple elements) ∧ ∀ element ∈ elements, element.Every check :=
  every_of_parts rfl

theorem every_sparse :
    (sparse elements).Every check ↔
      check (.sparse elements) ∧ ∀ element ∈ elements, element.Every check :=
  every_of_parts rfl

theorem every_present :
    (present content).Every check ↔ check (.present content) ∧ content.Every check :=
  every_of_content rfl

theorem every_variant {index : Nat} :
    (variant index content).Every check ↔ check (.variant index content) ∧ content.Every check :=
  every_of_content rfl

theorem every_flattened :
    (flattened content).Every check ↔ check (.flattened content) ∧ content.Every check :=
  every_of_content rfl

end Every

/-! ## Lengths -/

/-- The number that is written in front of a value: the bytes of a text, the elements of a list. -/
def extent : Value → Nat
  | .text content => (Utf8.encode content).length
  | .list elements => elements.length
  | _ => 0

/-- All texts and lists are shorter than 2^64, so that their lengths can be written. -/
def Short (value : Value) : Prop :=
  value.Every fun part => part.extent < 2 ^ 64

theorem short_text {content : String} :
    (text content).Short ↔ (Utf8.encode content).length < 2 ^ 64 :=
  List.forall_mem_singleton

/-! ## Numbers -/

/-- A number of its format, an index below the number of variants that there can be, or anything
else. -/
def FitsFormat : Value → Prop
  | .integer format number => format.Holds number
  | .variant index _ => index < 2 ^ 32
  | _ => True

/-- All numbers lie in their formats. -/
def InRange (value : Value) : Prop :=
  value.Every FitsFormat

end RemoteCall.Wire.Value
