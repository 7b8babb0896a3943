import RemoteCall.Wire.Value

/-!
Contract: the types of values that cross the wire, and which values belong to each.

Owns:
- the grammar of types, recursive ones included;
- membership, by recursion on the type.

A recursive type binds a name for itself; `recur` refers to it by the number of such binders in
between. A value belongs to a recursive type if it belongs to one of its finite unfoldings, so
every value is finite.

The fields of a record that is written by names are its own and those of the records that are
flattened into it, in one row. A field may be left out if it is optional; a record flattened into
another one may be optional as well, as long as one of its fields cannot be left out.

Does not own: writing and reading, and fields that are something else than absent when they are left
out.
-/

namespace RemoteCall.Wire

set_option autoImplicit false

inductive WireType where
  | bool
  | char
  | text
  | float32
  | float64
  | integer (format : IntegerFormat)
  | list (element : WireType)
  | option (content : WireType)
  /-- A value kept elsewhere in memory, which the wire does not show. -/
  | box (content : WireType)
  | tuple (elements : List WireType)
  /-- A record of named fields, which are written in their order and without their names. -/
  | record (fields : List WireType)
  | choice (variants : List WireType)
  /-- A record that is written by the names of its fields; `required` is the first of them that
  cannot be left out. -/
  | flattened (required : String) (content : WireType)
  /-- A record that is written by the names of its fields, all of which may be left out. Each is an
  option of one of the types. -/
  | sparse (fields : List WireType)
  | recursive (body : WireType)
  /-- The recursive type that is bound `depth` binders further out. -/
  | recur (depth : Nat)
deriving Repr, Inhabited

/-- The number of alternatives that a type can have at most; an index is written in 32 bits. -/
def variantBound : Nat := UInt32.size

/-- A set of values that `step` describes in terms of itself, cut off after `count` unfoldings. -/
def unfoldedSet (step : (Value → Prop) → Value → Prop) : (count : Nat) → Value → Prop
  | 0 => fun _ => False
  | count + 1 => step (unfoldedSet step count)

namespace WireType

abbrev unit : WireType := .tuple []

abbrev bytes : WireType := .list (.integer .u8)

mutual

/-- The values of a type; `outer` holds the sets that stand for the recursive types around it. -/
def Conforms : WireType → (outer : List (Value → Prop)) → Value → Prop
  | .bool, _, value => ∃ truth, value = .bool truth
  | .char, _, value => ∃ character, value = .char character
  | .text, _, value => ∃ content, value = .text content
  | .float32, _, value => ∃ bits, value = .float32 bits
  | .float64, _, value => ∃ bits, value = .float64 bits
  | .integer format, _, value => ∃ number, value = .integer format number ∧ format.Holds number
  | .list element, outer, value =>
      ∃ elements, value = .list elements ∧ ∀ member ∈ elements, element.Conforms outer member
  | .option content, outer, value =>
      value = .absent ∨ ∃ inner, value = .present inner ∧ content.Conforms outer inner
  | .box content, outer, value => content.Conforms outer value
  | .tuple elements, outer, value =>
      ∃ members, value = .tuple members ∧ ConformEach elements outer members
  | .record fields, outer, value =>
      ∃ members, value = .tuple members ∧ ConformEach fields outer members
  | .choice variants, outer, value =>
      ∃ index inner, value = .variant index inner ∧ index < variantBound ∧
        ConformsAt variants index outer inner
  | .flattened _ content, outer, value =>
      ∃ inner, value = .flattened inner ∧ content.Conforms outer inner
  | .sparse fields, outer, value =>
      ∃ members, value = .sparse members ∧ ConformGiven fields outer members
  | .recursive body, outer, value =>
      ∃ count, unfoldedSet (fun self => body.Conforms (self :: outer)) count value
  | .recur depth, outer, value => ∃ set, outer[depth]? = some set ∧ set value

def ConformEach : List WireType → (outer : List (Value → Prop)) → List Value → Prop
  | [], _, values => values = []
  | type :: types, outer, values =>
      ∃ first others,
        values = first :: others ∧ type.Conforms outer first ∧ ConformEach types outer others

/-- The rows of fields of the given types, each of which is there or is not. -/
def ConformGiven : List WireType → (outer : List (Value → Prop)) → List Value → Prop
  | [], _, values => values = []
  | type :: types, outer, values =>
      ∃ first others, values = first :: others ∧
        (first = .absent ∨ ∃ inner, first = .present inner ∧ type.Conforms outer inner) ∧
        ConformGiven types outer others

def ConformsAt : List WireType → (index : Nat) → (outer : List (Value → Prop)) → Value → Prop
  | [], _, _, _ => False
  | type :: _, 0, outer, value => type.Conforms outer value
  | _ :: types, index + 1, outer, value => ConformsAt types index outer value

end

/-- Whatever the fields of a record are, all of them may be left out. -/
theorem conformGiven_bare (fields : List WireType) (outer : List (Value → Prop)) :
    ConformGiven fields outer (List.replicate fields.length .absent) := by
  induction fields with
  | nil => rfl
  | cons _ _ inductionHypothesis => exact ⟨_, _, rfl, .inl rfl, inductionHypothesis⟩

/-- There is one way to leave out all of them. -/
theorem eq_bare_of_conformGiven {fields : List WireType} {outer : List (Value → Prop)}
    {members : List Value} (conform : ConformGiven fields outer members)
    (allAbsent : ∀ member ∈ members, member = .absent) :
    members = List.replicate fields.length .absent := by
  induction fields generalizing members with
  | nil => exact conform
  | cons _ _ inductionHypothesis =>
      obtain ⟨first, others, rfl, _, conform⟩ := conform
      obtain ⟨firstAbsent, othersAbsent⟩ := List.forall_mem_cons.1 allAbsent
      rw [firstAbsent, inductionHypothesis conform othersAbsent, List.length_cons,
        List.replicate_succ]

/-- A value together with the fact that it belongs to the type. -/
def Member (type : WireType) : Type :=
  { value : Value // type.Conforms [] value }

end WireType

end RemoteCall.Wire
