import RemoteCall.Proofs.Wire.Parts
import RemoteCall.Wire.Type

/-!
Contract: what holds of all values inside the values of a type, at any depth.

Owns:
- the types that a type is put together from, and properties that these take over from it;
- the step from values as each constructor of types adds them to all values inside;
- numbers of a type's values, which lie in their formats.

A recursive type adds no values of its own, nor does a box or a reference: their values are those of
what they stand for.

Does not own: properties that hang on how the values inside a value are written.
-/

namespace RemoteCall.Wire

set_option autoImplicit false

/-- What one unfolding keeps holds of the values of all unfoldings. -/
theorem forall_unfoldedSet {check : Value → Prop} {grow : (Value → Prop) → Value → Prop}
    (keeps : ∀ set : Value → Prop, (∀ inner, set inner → check inner) →
      ∀ value, grow set value → check value) (count : Nat) :
    ∀ value, unfoldedSet grow count value → check value := by
  induction count with
  | zero => exact fun _ => False.elim
  | succ count inductionHypothesis => exact keeps _ inductionHypothesis

namespace WireType

/-- The types that a type is put together from. The fields of a record that may be left out are
options. -/
def inside : WireType → List WireType
  | .list content | .option content | .box content | .flattened _ content | .recursive content =>
      [content]
  | .tuple contents | .record contents | .choice contents => contents
  | .sparse contents => contents.map .option
  | .bool | .char | .text | .float32 | .float64 | .integer _ | .recur _ => []

/-- If a type has the property, so do all that it is put together from. -/
def Inherited (asked : WireType → Prop) : Prop :=
  ∀ type, asked type → ∀ inner ∈ type.inside, asked inner

/-- The values of a type are made by it, and not taken over from another type. -/
def Makes : WireType → Prop
  | .box _ | .recursive _ | .recur _ => False
  | _ => True

/-- The values that a type makes pass a check, whatever is inside of them. -/
def PassedByMade (asked : WireType → Prop) (check : Value → Prop) : Prop :=
  ∀ (type : WireType) (sets : List (Value → Prop)) (value : Value),
    asked type → type.Makes → type.Conforms sets value → check value

section Every

variable {asked : WireType → Prop} {check : Value → Prop}

/-- The values of the types around a type pass a check, with all values inside of them. -/
def AroundPasses (check : Value → Prop) (sets : List (Value → Prop)) : Prop :=
  ∀ set ∈ sets, ∀ inner, set inner → inner.Every check

mutual

/-- If what each type makes passes a check, so do all values inside the values of a type. -/
theorem every_of_conforms (inherited : Inherited asked) (made : PassedByMade asked check) :
    ∀ (type : WireType) {sets : List (Value → Prop)} {value : Value}, asked type →
      AroundPasses check sets → type.Conforms sets value → value.Every check
  | .bool, _, _, asks, _, conforms | .char, _, _, asks, _, conforms
  | .text, _, _, asks, _, conforms | .float32, _, _, asks, _, conforms
  | .float64, _, _, asks, _, conforms => by
      have own := made _ _ _ asks trivial conforms
      obtain ⟨_, rfl⟩ := conforms
      exact Value.every_of_alone rfl own
  | .integer _, _, _, asks, _, conforms => by
      have own := made _ _ _ asks trivial conforms
      obtain ⟨_, rfl, _⟩ := conforms
      exact Value.every_of_alone rfl own
  | .list element, _, _, asks, around, conforms => by
      have own := made _ _ _ asks trivial conforms
      have elementAsks := inherited _ asks element List.mem_cons_self
      obtain ⟨_, rfl, conform⟩ := conforms
      exact Value.every_list.2 ⟨own, fun member found =>
        every_of_conforms inherited made element elementAsks around (conform member found)⟩
  | .option content, _, _, asks, around, conforms => by
      have own := made _ _ _ asks trivial conforms
      have contentAsks := inherited _ asks content List.mem_cons_self
      rcases conforms with rfl | ⟨_, rfl, conforms⟩
      · exact Value.every_of_alone rfl own
      · exact Value.every_present.2 ⟨own,
          every_of_conforms inherited made content contentAsks around conforms⟩
  | .box content, _, _, asks, around, conforms =>
      every_of_conforms inherited made content (inherited _ asks content List.mem_cons_self) around
        conforms
  | .tuple elements, _, _, asks, around, conforms => by
      have own := made _ _ _ asks trivial conforms
      obtain ⟨_, rfl, conform⟩ := conforms
      exact Value.every_tuple.2 ⟨own,
        every_of_conformEach inherited made elements (inherited _ asks) around conform⟩
  | .record fields, _, _, asks, around, conforms => by
      have own := made _ _ _ asks trivial conforms
      obtain ⟨_, rfl, conform⟩ := conforms
      exact Value.every_tuple.2 ⟨own,
        every_of_conformEach inherited made fields (inherited _ asks) around conform⟩
  | .choice variants, _, _, asks, around, conforms => by
      have own := made _ _ _ asks trivial conforms
      obtain ⟨_, _, rfl, _, conforms⟩ := conforms
      exact Value.every_variant.2 ⟨own,
        every_of_conformsAt inherited made variants (inherited _ asks) around conforms⟩
  | .flattened _ content, _, _, asks, around, conforms => by
      have own := made _ _ _ asks trivial conforms
      have contentAsks := inherited _ asks content List.mem_cons_self
      obtain ⟨_, rfl, conforms⟩ := conforms
      exact Value.every_flattened.2 ⟨own,
        every_of_conforms inherited made content contentAsks around conforms⟩
  | .sparse fields, _, _, asks, around, conforms => by
      have own := made _ _ _ asks trivial conforms
      have fieldsAsk := List.forall_mem_map.1 (inherited _ asks)
      obtain ⟨_, rfl, conform⟩ := conforms
      exact Value.every_sparse.2 ⟨own,
        every_of_conformGiven inherited made fields fieldsAsk around conform⟩
  | .recursive body, _, _, asks, around, ⟨count, unfolded⟩ => by
      have bodyAsks := inherited _ asks body List.mem_cons_self
      exact forall_unfoldedSet (fun _ inner _ conforms => every_of_conforms inherited made body
        bodyAsks (List.forall_mem_cons.2 ⟨inner, around⟩) conforms) count _ unfolded
  | .recur _, _, _, _, around, ⟨set, found, member⟩ =>
      around set (List.mem_of_getElem? found) _ member

private theorem every_of_conformEach (inherited : Inherited asked)
    (made : PassedByMade asked check) : ∀ (types : List WireType) {sets : List (Value → Prop)}
    {values : List Value}, (∀ type ∈ types, asked type) → AroundPasses check sets →
    ConformEach types sets values → ∀ value ∈ values, value.Every check
  | [], _, _, _, _, conform => by
      cases conform
      exact List.forall_mem_nil _
  | type :: types, _, _, each, around, ⟨_, _, same, conforms, conform⟩ => by
      subst same
      obtain ⟨asks, othersAsk⟩ := List.forall_mem_cons.1 each
      exact List.forall_mem_cons.2 ⟨every_of_conforms inherited made type asks around conforms,
        every_of_conformEach inherited made types othersAsk around conform⟩

private theorem every_of_conformGiven (inherited : Inherited asked)
    (made : PassedByMade asked check) : ∀ (types : List WireType) {sets : List (Value → Prop)}
    {values : List Value}, (∀ type ∈ types, asked (.option type)) → AroundPasses check sets →
    ConformGiven types sets values → ∀ value ∈ values, value.Every check
  | [], _, _, _, _, conform => by
      cases conform
      exact List.forall_mem_nil _
  | type :: types, _, _, each, around, ⟨_, _, same, given, conform⟩ => by
      subst same
      obtain ⟨asks, othersAsk⟩ := List.forall_mem_cons.1 each
      have own := made (.option type) _ _ asks trivial given
      refine List.forall_mem_cons.2
        ⟨?_, every_of_conformGiven inherited made types othersAsk around conform⟩
      rcases given with rfl | ⟨_, rfl, conforms⟩
      · exact Value.every_of_alone rfl own
      · have contentAsks := inherited _ asks type List.mem_cons_self
        exact Value.every_present.2 ⟨own,
          every_of_conforms inherited made type contentAsks around conforms⟩

private theorem every_of_conformsAt (inherited : Inherited asked)
    (made : PassedByMade asked check) : ∀ (types : List WireType) {index : Nat}
    {sets : List (Value → Prop)} {value : Value}, (∀ type ∈ types, asked type) →
    AroundPasses check sets → ConformsAt types index sets value → value.Every check
  | [], _, _, _, _, _, conforms => conforms.elim
  | type :: _, 0, _, _, each, around, conforms =>
      every_of_conforms inherited made type (List.forall_mem_cons.1 each).1 around conforms
  | _ :: types, _ + 1, _, _, each, around, conforms =>
      every_of_conformsAt inherited made types (List.forall_mem_cons.1 each).2 around conforms

end

/-- If what each type makes passes a check, so do all values inside the members of a type. -/
theorem Member.every (inherited : Inherited asked) (made : PassedByMade asked check)
    {type : WireType} (asks : asked type) (member : type.Member) : member.val.Every check :=
  every_of_conforms inherited made type asks (List.forall_mem_nil _) member.property

end Every

/-! ## Numbers -/

/-- The numbers that a type makes lie in their formats. -/
theorem fitsFormat_of_conforms {type : WireType} {sets : List (Value → Prop)} {value : Value}
    (makes : type.Makes) (conforms : type.Conforms sets value) : value.FitsFormat := by
  cases type with
  | bool | char | text | float32 | float64 =>
      obtain ⟨_, rfl⟩ := conforms
      trivial
  | integer format =>
      obtain ⟨_, rfl, holds⟩ := conforms
      exact holds
  | option content =>
      rcases conforms with rfl | ⟨_, rfl, _⟩
      · trivial
      · trivial
  | choice variants =>
      obtain ⟨_, _, rfl, bounded, _⟩ := conforms
      exact bounded
  | list _ | tuple _ | record _ | flattened _ _ | sparse _ =>
      obtain ⟨_, rfl, _⟩ := conforms
      trivial
  | box _ | recursive _ | recur _ => exact makes.elim

/-- All numbers of a member of a type lie in their formats. -/
theorem Member.inRange {type : WireType} (member : type.Member) : member.val.InRange :=
  have inherited : Inherited fun _ => True := fun _ _ _ _ => trivial
  have made : PassedByMade (fun _ => True) Value.FitsFormat :=
    fun _ _ _ _ makes conforms => fitsFormat_of_conforms makes conforms
  member.every inherited made trivial

end WireType

end RemoteCall.Wire
