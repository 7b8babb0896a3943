import Mathlib.Algebra.GroupWithZero.Nat
import Mathlib.Algebra.Order.BigOperators.Group.List
import Mathlib.Algebra.Order.Group.Nat
import RemoteCall.Proofs.Wire.Lengths
import RemoteCall.Proofs.Wire.Shortest

/-!
Contract: a length cannot promise more than there are bytes, if what it counts takes bytes.

Owns:
- the types whose values take at least one byte, and the types in which every list is one of such
  values;
- the bound on the lengths in a value by the bytes that spell it;
- the bound on the lengths that are met when an input is decoded.

Every element of a list has a byte of its own, and so has every byte of a text. Lengths of different
levels count different bytes, as an element that holds texts or lists writes their number first.

Does not own: lists of values that take no bytes. These can be as long as a length can say.
-/

namespace RemoteCall.Wire

set_option autoImplicit false

/-! ## Values that take bytes -/

namespace Value

/-- Nothing but at least one byte spells the value. -/
def TakesBytes (value : Value) : Prop :=
  ∀ bytes, value.SpelledBy bytes → 0 < bytes.length

/-- Every element of a list takes at least one byte; anything else has no elements of this kind. -/
def ElementsTakeBytes : Value → Prop
  | .list elements => ∀ element ∈ elements, element.TakesBytes
  | _ => True

/-- Every element of every list, at all levels, takes at least one byte. -/
def Filled (value : Value) : Prop :=
  value.Every ElementsTakeBytes

/-! ## The lengths in a value -/

section Each

variable {elements : List Value} {bytes : Bytes}
  (bounded : ∀ element ∈ elements, ∀ part, element.SpelledBy part →
    element.lengths.sum ≤ part.length - 1)

include bounded

/-- Values one after the other, of which some may take no bytes. -/
theorem sum_lengths_each_le (spelled : SpelledByEach elements bytes) :
    (elements.flatMap lengths).sum ≤ bytes.length - 1 := by
  induction elements generalizing bytes with
  | nil => exact Nat.zero_le _
  | cons first others inductionHypothesis =>
      obtain ⟨head, tail, firstSpelled, othersSpelled, rfl⟩ := spelled
      obtain ⟨firstBounded, othersBounded⟩ := List.forall_mem_cons.1 bounded
      have inFirst := firstBounded head firstSpelled
      have inOthers := inductionHypothesis othersBounded othersSpelled
      rw [List.flatMap_cons, List.sum_append, List.length_append]
      omega

/-- Values that take bytes, together with their number. -/
theorem length_add_sum_lengths_le (takeBytes : ∀ element ∈ elements, element.TakesBytes)
    (spelled : SpelledByEach elements bytes) :
    elements.length + (elements.flatMap lengths).sum ≤ bytes.length := by
  induction elements generalizing bytes with
  | nil => exact Nat.zero_le _
  | cons first others inductionHypothesis =>
      obtain ⟨head, tail, firstSpelled, othersSpelled, rfl⟩ := spelled
      obtain ⟨firstBounded, othersBounded⟩ := List.forall_mem_cons.1 bounded
      obtain ⟨firstTakes, othersTake⟩ := List.forall_mem_cons.1 takeBytes
      have inFirst := firstBounded head firstSpelled
      have ownByte := firstTakes head firstSpelled
      have inOthers := inductionHypothesis othersBounded othersTake othersSpelled
      rw [List.flatMap_cons, List.sum_append, List.length_append, List.length_cons]
      omega

end Each

mutual

/-- The lengths in a value together are below the number of its bytes, or there are neither. -/
theorem sum_lengths_le : ∀ (value : Value) {bytes : Bytes}, value.Filled → value.SpelledBy bytes →
    value.lengths.sum ≤ bytes.length - 1
  | .text content, _, _, spelled => by
      obtain ⟨form, isForm, rfl⟩ := spelled
      have formPos := isForm.length_pos
      have single : (text content).lengths.sum = (Utf8.encode content).length := Nat.add_zero _
      rw [single, List.length_append]
      omega
  | .list elements, _, filled, spelled => by
      obtain ⟨form, body, isForm, eachSpelled, rfl⟩ := spelled
      have formPos := isForm.length_pos
      obtain ⟨takeBytes, each⟩ := every_list.1 filled
      have bounded := length_add_sum_lengths_le
        (fun element found => sum_lengths_le_of_mem elements element found (each element found))
        takeBytes eachSpelled
      rw [lengths_list, List.sum_cons, List.length_append]
      omega
  | .present content, _, filled, spelled => by
      obtain ⟨body, contentSpelled, rfl⟩ := spelled
      have bounded := sum_lengths_le content (every_present.1 filled).2 contentSpelled
      rw [lengths_present, List.length_cons]
      omega
  | .tuple elements, _, filled, spelled => by
      have each := (every_tuple.1 filled).2
      rw [lengths_tuple]
      exact sum_lengths_each_le
        (fun element found => sum_lengths_le_of_mem elements element found (each element found))
        spelled
  | .variant index content, _, filled, spelled => by
      obtain ⟨form, body, isForm, contentSpelled, rfl⟩ := spelled
      have bounded := sum_lengths_le content (every_variant.1 filled).2 contentSpelled
      rw [lengths_variant, List.length_append]
      omega
  | .flattened _, _, _, spelled => spelled.elim
  | .sparse fields, _, _, ⟨allAbsent, _⟩ => by
      have isBare : fields = List.replicate fields.length .absent :=
        List.eq_replicate_iff.2 ⟨rfl, allAbsent⟩
      rw [isBare, lengths_bare]
      exact Nat.zero_le _
  | .bool _, _, _, _ => Nat.zero_le _
  | .char _, _, _, _ => Nat.zero_le _
  | .float32 _, _, _, _ => Nat.zero_le _
  | .float64 _, _, _, _ => Nat.zero_le _
  | .integer _ _, _, _, _ => Nat.zero_le _
  | .absent, _, _, _ => Nat.zero_le _

private theorem sum_lengths_le_of_mem : ∀ (elements : List Value), ∀ element ∈ elements,
    element.Filled → ∀ part, element.SpelledBy part → element.lengths.sum ≤ part.length - 1
  | [] => by simp
  | first :: others => List.forall_mem_cons.2
      ⟨fun filled _ spelled => sum_lengths_le first filled spelled, sum_lengths_le_of_mem others⟩

end

end Value

/-! ## Types whose values take bytes -/

namespace WireType

mutual

/-- Whether the values of a type take at least one byte. There are no values of a recursive type
that holds itself with nothing written in between. -/
def takesBytes : WireType → Bool
  | .box content => content.takesBytes
  | .tuple elements => someTakesBytes elements
  | .record fields => someTakesBytes fields
  | .recursive body => body.takesBytes
  | .bool | .char | .text | .float32 | .float64 | .integer _ | .list _ | .option _ | .choice _
  | .flattened _ _ | .sparse _ | .recur _ => true

def someTakesBytes : List WireType → Bool
  | [] => false
  | type :: types => type.takesBytes || someTakesBytes types

end

mutual

/-- Whether the values in all lists, at all levels of a type, take at least one byte. -/
def listsFilled : WireType → Bool
  | .list element => element.takesBytes && element.listsFilled
  | .option content => content.listsFilled
  | .box content => content.listsFilled
  | .tuple elements => allListsFilled elements
  | .record fields => allListsFilled fields
  | .choice variants => allListsFilled variants
  | .flattened _ content => content.listsFilled
  | .sparse fields => allListsFilled fields
  | .recursive body => body.listsFilled
  | .bool | .char | .text | .float32 | .float64 | .integer _ | .recur _ => true

def allListsFilled : List WireType → Bool
  | [] => true
  | type :: types => type.listsFilled && allListsFilled types

end

mutual

/-- The values of a type that takes bytes take bytes, if those of the recursive types around do. -/
theorem takesBytes_of_conforms : ∀ (type : WireType) {sets : List (Value → Prop)} {value : Value},
    type.takesBytes = true → (∀ set ∈ sets, ∀ inner, set inner → inner.TakesBytes) →
    type.Conforms sets value → value.TakesBytes
  | .bool, _, _, _, _, ⟨_, same⟩ => by
      subst same
      rintro _ rfl
      exact Nat.zero_lt_one
  | .char, _, _, _, _, ⟨character, same⟩ => by
      subst same
      rintro _ rfl
      obtain ⟨first, others, written, _⟩ := Utf8.ofChar_announced character
      rw [written]
      exact Nat.zero_lt_succ _
  | .text, _, _, _, _, ⟨_, same⟩ => by
      subst same
      rintro _ ⟨form, isForm, rfl⟩
      have formPos := isForm.length_pos
      rw [List.length_append]
      omega
  | .float32, _, _, _, _, ⟨_, same⟩ => by
      subst same
      rintro _ rfl
      rw [Bytes.length_littleEndian]
      exact Nat.zero_lt_succ _
  | .float64, _, _, _, _, ⟨_, same⟩ => by
      subst same
      rintro _ rfl
      rw [Bytes.length_littleEndian]
      exact Nat.zero_lt_succ _
  | .integer _, _, _, _, _, ⟨_, same, _⟩ => by
      subst same
      exact fun _ isForm => IntegerForm.length_pos isForm
  | .list _, _, _, _, _, ⟨_, same, _⟩ => by
      subst same
      rintro _ ⟨form, body, isForm, _, rfl⟩
      have formPos := isForm.length_pos
      rw [List.length_append]
      omega
  | .option _, _, _, _, _, conforms => by
      rcases conforms with rfl | ⟨_, rfl, _⟩
      · rintro _ rfl
        exact Nat.zero_lt_one
      · rintro _ ⟨body, _, rfl⟩
        exact Nat.zero_lt_succ _
  | .box content, _, _, takes, around, conforms =>
      takesBytes_of_conforms content takes around conforms
  | .tuple elements, _, _, takes, around, ⟨_, same, conform⟩ => by
      subst same
      exact fun _ spelled => length_pos_of_conformEach elements takes around conform spelled
  | .record fields, _, _, takes, around, ⟨_, same, conform⟩ => by
      subst same
      exact fun _ spelled => length_pos_of_conformEach fields takes around conform spelled
  | .choice _, _, _, _, _, ⟨_, _, same, _, _⟩ => by
      subst same
      rintro _ ⟨form, body, isForm, _, rfl⟩
      have formPos := isForm.length_pos
      rw [List.length_append]
      omega
  | .flattened _ _, _, _, _, _, ⟨_, same, _⟩ => by
      subst same
      exact fun _ spelled => spelled.elim
  | .sparse _, _, _, _, _, ⟨_, same, _⟩ => by
      subst same
      exact fun _ ⟨_, isForm⟩ => isForm.length_pos
  | .recursive body, _, _, takes, around, ⟨count, unfolded⟩ =>
      forall_unfoldedSet (fun _ inner _ conforms => takesBytes_of_conforms body takes
        (List.forall_mem_cons.2 ⟨inner, around⟩) conforms) count _ unfolded
  | .recur _, _, _, _, around, ⟨set, found, member⟩ =>
      around set (List.mem_of_getElem? found) _ member

private theorem length_pos_of_conformEach : ∀ (types : List WireType) {sets : List (Value → Prop)}
    {values : List Value} {bytes : Bytes}, someTakesBytes types = true →
    (∀ set ∈ sets, ∀ inner, set inner → inner.TakesBytes) → ConformEach types sets values →
    Value.SpelledByEach values bytes → 0 < bytes.length
  | type :: types, _, _, _, takes, around, ⟨_, _, same, conforms, conform⟩, spelled => by
      subst same
      obtain ⟨head, tail, firstSpelled, othersSpelled, rfl⟩ := spelled
      rw [List.length_append]
      rcases Bool.or_eq_true_iff.1 takes with first | later
      · have ownByte := takesBytes_of_conforms type first around conforms head firstSpelled
        omega
      · have laterByte := length_pos_of_conformEach types later around conform othersSpelled
        omega

end

mutual

/-- Every type that takes no bytes has a value that nothing spells. -/
theorem exists_of_takesNoBytes : ∀ (type : WireType) (sets : List (Value → Prop)),
    type.takesBytes = false → ∃ value, type.Conforms sets value ∧ value.SpelledBy []
  | .box content, sets, takesNone => exists_of_takesNoBytes content sets takesNone
  | .tuple elements, sets, takesNone => by
      obtain ⟨values, conform, spelled⟩ := exists_each_of_takeNoBytes elements sets takesNone
      exact ⟨.tuple values, ⟨values, rfl, conform⟩, spelled⟩
  | .record fields, sets, takesNone => by
      obtain ⟨values, conform, spelled⟩ := exists_each_of_takeNoBytes fields sets takesNone
      exact ⟨.tuple values, ⟨values, rfl, conform⟩, spelled⟩
  | .recursive body, sets, takesNone => by
      obtain ⟨value, conforms, spelled⟩ :=
        exists_of_takesNoBytes body ((fun _ => False) :: sets) takesNone
      exact ⟨value, ⟨1, conforms⟩, spelled⟩

private theorem exists_each_of_takeNoBytes : ∀ (types : List WireType) (sets : List (Value → Prop)),
    someTakesBytes types = false →
    ∃ values, ConformEach types sets values ∧ Value.SpelledByEach values []
  | [], _, _ => ⟨[], rfl, rfl⟩
  | type :: types, sets, takesNone => by
      obtain ⟨firstTakesNone, othersTakeNone⟩ := Bool.or_eq_false_iff.1 takesNone
      obtain ⟨first, conforms, firstSpelled⟩ := exists_of_takesNoBytes type sets firstTakesNone
      obtain ⟨others, conform, othersSpelled⟩ :=
        exists_each_of_takeNoBytes types sets othersTakeNone
      exact ⟨first :: others, ⟨first, others, rfl, conforms, conform⟩,
        [], [], firstSpelled, othersSpelled, rfl⟩

end

/-- A type takes bytes exactly if all its values do. -/
theorem takesBytes_iff (type : WireType) :
    type.takesBytes = true ↔ ∀ value, type.Conforms [] value → value.TakesBytes := by
  constructor
  · exact fun takes value => takesBytes_of_conforms type takes (by simp)
  · intro allTake
    cases takes : type.takesBytes with
    | true => rfl
    | false =>
        obtain ⟨value, conforms, spelled⟩ := exists_of_takesNoBytes type [] takes
        exact absurd (allTake value conforms [] spelled) (Nat.lt_irrefl 0)

mutual

/-- There are no lists in the values of a type that takes no bytes. -/
private theorem filled_of_takesNoBytes : ∀ (type : WireType) {sets : List (Value → Prop)}
    {value : Value}, type.takesBytes = false → type.Conforms sets value → value.Filled
  | .box content, _, _, takesNone, conforms => filled_of_takesNoBytes content takesNone conforms
  | .tuple elements, _, _, takesNone, ⟨_, same, conform⟩ => by
      subst same
      exact Value.every_tuple.2 ⟨trivial, filled_each_of_takeNoBytes elements takesNone conform⟩
  | .record fields, _, _, takesNone, ⟨_, same, conform⟩ => by
      subst same
      exact Value.every_tuple.2 ⟨trivial, filled_each_of_takeNoBytes fields takesNone conform⟩
  | .recursive body, _, _, takesNone, ⟨count, unfolded⟩ => by
      cases count with
      | zero => exact unfolded.elim
      | succ count => exact filled_of_takesNoBytes body takesNone unfolded

private theorem filled_each_of_takeNoBytes : ∀ (types : List WireType) {sets : List (Value → Prop)}
    {values : List Value}, someTakesBytes types = false → ConformEach types sets values →
    ∀ value ∈ values, value.Filled
  | [], _, _, _, conform => by
      cases conform
      simp
  | type :: types, _, _, takesNone, ⟨_, _, same, conforms, conform⟩ => by
      subst same
      obtain ⟨firstTakesNone, othersTakeNone⟩ := Bool.or_eq_false_iff.1 takesNone
      exact List.forall_mem_cons.2 ⟨filled_of_takesNoBytes type firstTakesNone conforms,
        filled_each_of_takeNoBytes types othersTakeNone conform⟩

end

/-- What is asked of the values of the recursive types around a type. -/
private def AroundFilled (sets : List (Value → Prop)) : Prop :=
  ∀ set ∈ sets, ∀ inner, set inner → inner.Filled ∧ inner.TakesBytes

mutual

/-- The lists in the values of a type are filled if those of the type are. -/
private theorem filled_of_conforms : ∀ (type : WireType) {sets : List (Value → Prop)}
    {value : Value}, type.listsFilled = true → AroundFilled sets → type.Conforms sets value →
    value.Filled
  | .bool, _, _, _, _, ⟨_, same⟩ | .char, _, _, _, _, ⟨_, same⟩ | .text, _, _, _, _, ⟨_, same⟩
  | .float32, _, _, _, _, ⟨_, same⟩ | .float64, _, _, _, _, ⟨_, same⟩
  | .integer _, _, _, _, _, ⟨_, same, _⟩ => by
      subst same
      exact Value.every_of_alone rfl trivial
  | .list element, _, _, filled, around, ⟨_, same, conform⟩ => by
      subst same
      obtain ⟨takes, elementFilled⟩ := Bool.and_eq_true_iff.1 filled
      refine Value.every_list.2 ⟨fun member found => ?_, fun member found => ?_⟩
      · exact takesBytes_of_conforms element takes
          (fun set isAround inner isMember => (around set isAround inner isMember).2)
          (conform member found)
      · exact filled_of_conforms element elementFilled around (conform member found)
  | .option content, _, _, filled, around, conforms => by
      rcases conforms with rfl | ⟨_, rfl, conforms⟩
      · exact Value.every_of_alone rfl trivial
      · exact Value.every_present.2 ⟨trivial, filled_of_conforms content filled around conforms⟩
  | .box content, _, _, filled, around, conforms =>
      filled_of_conforms content filled around conforms
  | .tuple elements, _, _, filled, around, ⟨_, same, conform⟩ => by
      subst same
      exact Value.every_tuple.2 ⟨trivial, filled_of_conformEach elements filled around conform⟩
  | .record fields, _, _, filled, around, ⟨_, same, conform⟩ => by
      subst same
      exact Value.every_tuple.2 ⟨trivial, filled_of_conformEach fields filled around conform⟩
  | .choice variants, _, _, filled, around, ⟨_, _, same, _, conforms⟩ => by
      subst same
      exact Value.every_variant.2 ⟨trivial, filled_of_conformsAt variants filled around conforms⟩
  | .flattened _ content, _, _, filled, around, ⟨_, same, conforms⟩ => by
      subst same
      exact Value.every_flattened.2 ⟨trivial, filled_of_conforms content filled around conforms⟩
  | .sparse fields, _, _, filled, around, ⟨_, same, conform⟩ => by
      subst same
      exact Value.every_sparse.2 ⟨trivial, filled_of_conformGiven fields filled around conform⟩
  | .recursive body, sets, value, filled, around, ⟨count, unfolded⟩ => by
      cases takes : body.takesBytes with
      | true =>
          have keeps (set : Value → Prop)
              (inner : ∀ member, set member → member.Filled ∧ member.TakesBytes) (member : Value)
              (conforms : body.Conforms (set :: sets) member) :
              member.Filled ∧ member.TakesBytes := by
            have allAround : AroundFilled (set :: sets) := List.forall_mem_cons.2 ⟨inner, around⟩
            refine ⟨filled_of_conforms body filled allAround conforms, ?_⟩
            exact takesBytes_of_conforms body takes
              (fun set isAround inner isMember => (allAround set isAround inner isMember).2)
              conforms
          exact (forall_unfoldedSet keeps count value unfolded).1
      | false => exact filled_of_takesNoBytes (.recursive body) takes ⟨count, unfolded⟩
  | .recur _, _, value, _, around, ⟨set, found, member⟩ =>
      (around set (List.mem_of_getElem? found) value member).1

private theorem filled_of_conformEach : ∀ (types : List WireType) {sets : List (Value → Prop)}
    {values : List Value}, allListsFilled types = true → AroundFilled sets →
    ConformEach types sets values → ∀ value ∈ values, value.Filled
  | [], _, _, _, _, conform => by
      cases conform
      simp
  | type :: types, _, _, filled, around, ⟨_, _, same, conforms, conform⟩ => by
      subst same
      obtain ⟨firstFilled, othersFilled⟩ := Bool.and_eq_true_iff.1 filled
      exact List.forall_mem_cons.2 ⟨filled_of_conforms type firstFilled around conforms,
        filled_of_conformEach types othersFilled around conform⟩

private theorem filled_of_conformGiven : ∀ (types : List WireType) {sets : List (Value → Prop)}
    {values : List Value}, allListsFilled types = true → AroundFilled sets →
    ConformGiven types sets values → ∀ value ∈ values, value.Filled
  | [], _, _, _, _, conform => by
      cases conform
      simp
  | type :: types, _, _, filled, around, ⟨_, _, same, given, conform⟩ => by
      subst same
      obtain ⟨firstFilled, othersFilled⟩ := Bool.and_eq_true_iff.1 filled
      refine List.forall_mem_cons.2
        ⟨?_, filled_of_conformGiven types othersFilled around conform⟩
      rcases given with rfl | ⟨_, rfl, conforms⟩
      · exact Value.every_of_alone rfl trivial
      · exact Value.every_present.2
          ⟨trivial, filled_of_conforms type firstFilled around conforms⟩

private theorem filled_of_conformsAt : ∀ (types : List WireType) {index : Nat}
    {sets : List (Value → Prop)} {value : Value}, allListsFilled types = true →
    AroundFilled sets → ConformsAt types index sets value → value.Filled
  | [], _, _, _, _, _, conforms => conforms.elim
  | type :: _, 0, _, _, filled, around, conforms =>
      filled_of_conforms type (Bool.and_eq_true_iff.1 filled).1 around conforms
  | _ :: types, _ + 1, _, _, filled, around, conforms =>
      filled_of_conformsAt types (Bool.and_eq_true_iff.1 filled).2 around conforms

end

/-- All lists in a member of a type whose lists are filled are filled. -/
theorem Member.filled {type : WireType} (filled : type.listsFilled = true) (member : type.Member) :
    member.val.Filled :=
  filled_of_conforms type filled (by simp [AroundFilled]) member.property

/-! ## Decoding -/

section Filled

variable {type : WireType} (filled : type.listsFilled = true) {input : Bytes}

include filled

theorem sum_lengths_le_of_decode {member : type.Member} (decoded : type.decode input = .ok member) :
    member.val.lengths.sum ≤ input.length := by
  have below := member.val.sum_lengths_le (member.filled filled) (spelledBy_of_decode decoded)
  exact Nat.le_trans below (Nat.sub_le _ _)

theorem exists_error_of_lengthsMet
    (promisesMore : input.length < (type.lengthsMet [] [] input).sum) :
    ∃ error, type.decode input = .error error := by
  cases decoded : type.decode input with
  | error error => exact ⟨error, rfl⟩
  | ok member =>
      rw [lengthsMet_of_decode decoded] at promisesMore
      exact absurd (sum_lengths_le_of_decode filled decoded) (Nat.not_le.2 promisesMore)

end Filled

/-- What is decoded is no larger than the input: the bytes of all texts in it and the elements of
all lists, at all levels, are together at most as many as the bytes of the input. So an input on
which larger lengths are met is refused. -/
theorem decode_sum_lengths_le (type : WireType) (filled : type.listsFilled = true) (input : Bytes) :
    (∀ member, type.decode input = .ok member → member.val.lengths.sum ≤ input.length) ∧
    (input.length < (type.lengthsMet [] [] input).sum →
      ∃ error, type.decode input = .error error) :=
  ⟨fun _ => sum_lengths_le_of_decode filled, exists_error_of_lengthsMet filled⟩

def twoTexts : (WireType.list .text).Member :=
  ⟨.list [.text "a", .text "b"], _, rfl, by
    rw [List.forall_mem_cons, List.forall_mem_singleton]
    exact ⟨⟨_, rfl⟩, ⟨_, rfl⟩⟩⟩

/-- Two texts of one byte each; and the greatest length that there is, with nothing behind it. -/
theorem decode_twoTexts :
    let type : WireType := .list .text
    let hostile : Bytes := [0xFD, 255, 255, 255, 255, 255, 255, 255, 255]
    type.listsFilled = true ∧
      (type.decode [2, 1, 97, 1, 98] = .ok twoTexts ∧ twoTexts.val.lengths = [2, 1, 1] ∧
        twoTexts.val.lengths.sum ≤ 5) ∧
      (hostile.length < (type.lengthsMet [] [] hostile).sum ∧
        ∃ error, type.decode hostile = .error error) := by
  intro type hostile
  have filled : type.listsFilled = true := rfl
  have spelled : twoTexts.val.SpelledBy [2, 1, 97, 1, 98] :=
    ⟨[2], _, .single (by decide), ⟨_, _, ⟨[1], .single (by decide), rfl⟩,
      ⟨_, [], ⟨[1], .single (by decide), rfl⟩, rfl, rfl⟩, rfl⟩, by decide⟩
  have decoded := decode_of_spelledBy twoTexts spelled
  obtain ⟨bounded, _⟩ := decode_sum_lengths_le type filled [2, 1, 97, 1, 98]
  obtain ⟨_, refuses⟩ := decode_sum_lengths_le type filled hostile
  have lengthRead : Reader.length hostile = .ok (2 ^ 64 - 1, []) := rfl
  have promisesMore : hostile.length < (type.lengthsMet [] [] hostile).sum := by
    rw [lengthsMet, metBehind_of_ok lengthRead, List.sum_cons]
    exact Nat.lt_of_lt_of_le (by decide) (Nat.le_add_right _ _)
  exact ⟨filled, ⟨decoded, rfl, bounded twoTexts decoded⟩, promisesMore, refuses promisesMore⟩

end WireType

end RemoteCall.Wire
