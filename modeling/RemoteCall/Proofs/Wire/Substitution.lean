import Mathlib.Order.Filter.AtTopBot.Basic
import Mathlib.Order.Filter.Finite
import RemoteCall.Proofs.Wire.FixedPoint

/-!
Contract: a recursive type is what its body is with the type itself in the place of every reference
to it.

Owns:
- types in which the references to the types around them are replaced, and how they are read and
  which values they have;
- one unfolding of a recursive type;
- the values of a type when those of the recursive types around it are reached in stages, and with
  this the values of a recursive type as what its body makes of them.

Does not own: the reader of a recursive type as what its body makes of it.
-/

namespace RemoteCall.Wire.WireType

set_option autoImplicit false

/-! ## References -/

mutual

/-- The type with each reference replaced by what `target` says, given the number of binders in
between and the number that the reference is written as. -/
def mapRecur (target : (inside found : Nat) → WireType) : WireType → (inside : Nat) → WireType
  | .recur found, inside => target inside found
  | .recursive body, inside => .recursive (body.mapRecur target (inside + 1))
  | .list element, inside => .list (element.mapRecur target inside)
  | .option content, inside => .option (content.mapRecur target inside)
  | .box content, inside => .box (content.mapRecur target inside)
  | .tuple elements, inside => .tuple (mapRecurEach target elements inside)
  | .record fields, inside => .record (mapRecurEach target fields inside)
  | .choice variants, inside => .choice (mapRecurEach target variants inside)
  | .flattened required content, inside => .flattened required (content.mapRecur target inside)
  | .sparse fields, inside => .sparse (mapRecurEach target fields inside)
  | .bool, _ => .bool
  | .char, _ => .char
  | .text, _ => .text
  | .float32, _ => .float32
  | .float64, _ => .float64
  | .integer format, _ => .integer format

def mapRecurEach (target : (inside found : Nat) → WireType) :
    List WireType → (inside : Nat) → List WireType
  | [], _ => []
  | type :: types, inside => type.mapRecur target inside :: mapRecurEach target types inside

end

theorem length_mapRecurEach (target : Nat → Nat → WireType) (types : List WireType)
    (inside : Nat) : (mapRecurEach target types inside).length = types.length := by
  induction types with
  | nil => rfl
  | cons type types inductionHypothesis =>
      rw [mapRecurEach, List.length_cons, List.length_cons, inductionHypothesis]

section Read

variable {target : Nat → Nat → WireType} {readers others : List (Reader Value)}

/-- What stands for a reference is read as the reference is, behind any readers of types in
between. -/
def ReadsAsReferences (target : (inside found : Nat) → WireType)
    (readers others : List (Reader Value)) : Prop :=
  ∀ (front : List (Reader Value)) (found : Nat),
    (target front.length found).read (front ++ others) =
      (WireType.recur found).read (front ++ readers)

mutual

/-- If what stands for a reference is read as the reference is, the whole type is read as before. -/
theorem read_mapRecur (same : ReadsAsReferences target readers others) :
    ∀ (type : WireType) (front : List (Reader Value)),
      (type.mapRecur target front.length).read (front ++ others) = type.read (front ++ readers)
  | .bool, _ | .char, _ | .text, _ | .float32, _ | .float64, _ | .integer _, _
  | .flattened _ _, _ => rfl
  | .list element, front => by
      rw [mapRecur, read, read, read_mapRecur same element front]
  | .option content, front => by
      rw [mapRecur, read, read, read_mapRecur same content front]
  | .box content, front => read_mapRecur same content front
  | .tuple elements, front => by
      rw [mapRecur, read, read, readEach_mapRecur same elements front]
  | .record fields, front => by
      rw [mapRecur, read, read, readEach_mapRecur same fields front]
  | .choice variants, front => by
      simp only [mapRecur, read, length_mapRecurEach, readAt_mapRecur same variants front]
  | .sparse fields, front => by
      rw [mapRecur, read, read, length_mapRecurEach]
  | .recursive body, front => by
      rw [mapRecur, read, read]
      congr 1
      funext self
      exact read_mapRecur same body (self :: front)
  | .recur found, front => same front found

private theorem readEach_mapRecur (same : ReadsAsReferences target readers others) :
    ∀ (types : List WireType) (front : List (Reader Value)),
      readEach (mapRecurEach target types front.length) (front ++ others) =
        readEach types (front ++ readers)
  | [], _ => rfl
  | type :: types, front => by
      rw [mapRecurEach, readEach, readEach, read_mapRecur same type front,
        readEach_mapRecur same types front]

private theorem readAt_mapRecur (same : ReadsAsReferences target readers others) :
    ∀ (types : List WireType) (front : List (Reader Value)) {index : Nat} {error : DecodeError},
      readAt (mapRecurEach target types front.length) index error (front ++ others) =
        readAt types index error (front ++ readers)
  | [], _, _, _ => rfl
  | type :: _, front, 0, _ => read_mapRecur same type front
  | _ :: types, front, _ + 1, _ => readAt_mapRecur same types front

end

end Read

section Conforms

variable {target : Nat → Nat → WireType} {sets others : List (Value → Prop)}

/-- What stands for a reference has the values of the reference, behind any sets of values of types
in between. -/
def ConformsAsReferences (target : (inside found : Nat) → WireType)
    (sets others : List (Value → Prop)) : Prop :=
  ∀ (front : List (Value → Prop)) (found : Nat),
    (target front.length found).Conforms (front ++ others) =
      (WireType.recur found).Conforms (front ++ sets)

mutual

/-- If what stands for a reference has the values of the reference, the whole type has the values
that it had before. -/
theorem conforms_mapRecur (same : ConformsAsReferences target sets others) :
    ∀ (type : WireType) (front : List (Value → Prop)),
      (type.mapRecur target front.length).Conforms (front ++ others) =
        type.Conforms (front ++ sets)
  | .bool, _ | .char, _ | .text, _ | .float32, _ | .float64, _ | .integer _, _ => rfl
  | .list element, front => by
      funext value
      rw [mapRecur, Conforms, Conforms, conforms_mapRecur same element front]
  | .option content, front => by
      funext value
      rw [mapRecur, Conforms, Conforms, conforms_mapRecur same content front]
  | .box content, front => conforms_mapRecur same content front
  | .tuple elements, front => by
      funext value
      rw [mapRecur, Conforms, Conforms, conformEach_mapRecur same elements front]
  | .record fields, front => by
      funext value
      rw [mapRecur, Conforms, Conforms, conformEach_mapRecur same fields front]
  | .choice variants, front => by
      funext value
      simp only [mapRecur, Conforms, conformsAt_mapRecur same variants front]
  | .flattened _ content, front => by
      funext value
      rw [mapRecur, Conforms, Conforms, conforms_mapRecur same content front]
  | .sparse fields, front => by
      funext value
      rw [mapRecur, Conforms, Conforms, conformGiven_mapRecur same fields front]
  | .recursive body, front => by
      have sameBody : (fun self => (body.mapRecur target (front.length + 1)).Conforms
            (self :: (front ++ others))) =
          fun self => body.Conforms (self :: (front ++ sets)) := by
        funext self
        exact conforms_mapRecur same body (self :: front)
      funext value
      rw [mapRecur, Conforms, Conforms, sameBody]
  | .recur found, front => same front found

private theorem conformEach_mapRecur (same : ConformsAsReferences target sets others) :
    ∀ (types : List WireType) (front : List (Value → Prop)),
      ConformEach (mapRecurEach target types front.length) (front ++ others) =
        ConformEach types (front ++ sets)
  | [], _ => rfl
  | type :: types, front => by
      funext values
      rw [mapRecurEach, ConformEach, ConformEach, conforms_mapRecur same type front,
        conformEach_mapRecur same types front]

private theorem conformGiven_mapRecur (same : ConformsAsReferences target sets others) :
    ∀ (types : List WireType) (front : List (Value → Prop)),
      ConformGiven (mapRecurEach target types front.length) (front ++ others) =
        ConformGiven types (front ++ sets)
  | [], _ => rfl
  | type :: types, front => by
      funext values
      rw [mapRecurEach, ConformGiven, ConformGiven, conforms_mapRecur same type front,
        conformGiven_mapRecur same types front]

private theorem conformsAt_mapRecur (same : ConformsAsReferences target sets others) :
    ∀ (types : List WireType) (front : List (Value → Prop)) {index : Nat},
      ConformsAt (mapRecurEach target types front.length) index (front ++ others) =
        ConformsAt types index (front ++ sets)
  | [], _, _ => rfl
  | type :: _, front, 0 => conforms_mapRecur same type front
  | _ :: types, front, _ + 1 => conformsAt_mapRecur same types front

end

end Conforms

/-! ## One unfolding -/

/-- The type as it is written inside `count` further binders. -/
def raised (type : WireType) (count : Nat) : WireType :=
  type.mapRecur (fun inside found => .recur (if found < inside then found else found + count)) 0

/-- The body of a recursive type, with `self` in the place of each reference to that type. -/
def withSelf (body self : WireType) : WireType :=
  body.mapRecur (fun inside found =>
    if found < inside then .recur found
    else if found = inside then self.raised inside
    else .recur (found - 1)) 0

/-- A recursive type, unfolded once. -/
def unfoldedOnce (body : WireType) : WireType :=
  body.withSelf (.recursive body)

theorem getElem?_raised {α : Type} (front middle back : List α) (found : Nat) :
    (front ++ (middle ++ back))[if found < front.length then found else found + middle.length]? =
      (front ++ back)[found]? := by
  split
  · rename_i below
    rw [List.getElem?_append_left below, List.getElem?_append_left below]
  · rename_i notBelow
    rw [List.getElem?_append_right (by omega), List.getElem?_append_right (by omega),
      List.getElem?_append_right (by omega)]
    congr 1
    omega

theorem getElem?_behind {α : Type} (front : List α) (entry : α) (back : List α) {found : Nat}
    (behind : front.length < found) :
    (front ++ back)[found - 1]? = (front ++ entry :: back)[found]? := by
  obtain ⟨less, rfl⟩ : ∃ less, found = front.length + 1 + less :=
    ⟨found - front.length - 1, by omega⟩
  rw [List.getElem?_append_right (by omega), List.getElem?_append_right (by omega)]
  have inBack : front.length + 1 + less - 1 - front.length = less := by omega
  have behindEntry : front.length + 1 + less - front.length = less + 1 := by omega
  rw [inBack, behindEntry, List.getElem?_cons_succ]

theorem read_raised (type : WireType) (middle back : List (Reader Value)) :
    (type.raised middle.length).read (middle ++ back) = type.read back := by
  refine read_mapRecur (fun front found => ?_) type []
  show (WireType.recur _).read (front ++ (middle ++ back)) = _
  rw [read, read, getElem?_raised]

theorem conforms_raised (type : WireType) (middle back : List (Value → Prop)) :
    (type.raised middle.length).Conforms (middle ++ back) = type.Conforms back := by
  refine conforms_mapRecur (fun front found => ?_) type []
  funext value
  show (WireType.recur _).Conforms (front ++ (middle ++ back)) value = _
  rw [Conforms, Conforms, getElem?_raised]

theorem read_withSelf (body self : WireType) (readers : List (Reader Value)) :
    (body.withSelf self).read readers = body.read (self.read readers :: readers) := by
  refine read_mapRecur (fun front found => ?_) body []
  split
  · rename_i below
    rw [read, read, List.getElem?_append_left below, List.getElem?_append_left below]
  · split
    · rename_i isSelf
      subst isSelf
      rw [read_raised, read, List.getElem?_append_right (Nat.le_refl _), Nat.sub_self,
        List.getElem?_cons_zero]
    · rw [read, read, getElem?_behind front (self.read readers) readers (by omega)]

theorem conforms_withSelf (body self : WireType) (sets : List (Value → Prop)) :
    (body.withSelf self).Conforms sets = body.Conforms (self.Conforms sets :: sets) := by
  refine conforms_mapRecur (fun front found => ?_) body []
  split
  · rename_i below
    funext value
    rw [Conforms, Conforms, List.getElem?_append_left below, List.getElem?_append_left below]
  · split
    · rename_i isSelf
      subst isSelf
      funext value
      simp only [conforms_raised, Conforms, List.getElem?_append_right (Nat.le_refl _),
        Nat.sub_self, List.getElem?_cons_zero, Option.some.injEq, exists_eq_left']
    · funext value
      rw [Conforms, Conforms, getElem?_behind front (self.Conforms sets) sets (by omega)]

/-! ## Values in stages -/

open Filter in
/-- The values of the sets in `outer` belong to those in `stages`, each from some stage on. -/
def Approach (stages : Nat → List (Value → Prop)) (outer : List (Value → Prop)) : Prop :=
  ∀ (depth : Nat) set, outer[depth]? = some set → ∀ value, set value →
    ∀ᶠ stage in atTop, ∃ reached, (stages stage)[depth]? = some reached ∧ reached value

theorem Approach.unchanged (sets : List (Value → Prop)) : Approach (fun _ => sets) sets :=
  fun _ set found _ member => .of_forall fun _ => ⟨set, found, member⟩

open Filter in
theorem Approach.cons {stages : Nat → List (Value → Prop)} {outer : List (Value → Prop)}
    {first : Nat → Value → Prop} {set : Value → Prop}
    (reached : ∀ value, set value → ∀ᶠ stage in atTop, first stage value)
    (approach : Approach stages outer) :
    Approach (fun stage => first stage :: stages stage) (set :: outer) := by
  intro depth found isFound value member
  cases depth with
  | zero =>
      cases isFound
      exact (reached value member).mono fun stage holds => ⟨first stage, rfl, holds⟩
  | succ depth => exact approach depth found isFound value member

open Filter in
/-- If the values of a body are reached in stages, so are those of each of its unfoldings. -/
private theorem eventually_unfoldedSet {body : WireType}
    (reached : ∀ {stages : Nat → List (Value → Prop)} {outer : List (Value → Prop)} {value : Value},
      Approach stages outer → body.Conforms outer value →
      ∀ᶠ stage in atTop, body.Conforms (stages stage) value)
    {stages : Nat → List (Value → Prop)} {outer : List (Value → Prop)}
    (approach : Approach stages outer) (count : Nat) :
    ∀ value, unfoldedSet (fun self => body.Conforms (self :: outer)) count value →
      ∀ᶠ stage in atTop, unfoldedSet (fun self => body.Conforms (self :: stages stage)) count
        value := by
  induction count with
  | zero => exact fun _ => False.elim
  | succ count inductionHypothesis =>
      exact fun value unfolded => reached (approach.cons inductionHypothesis) unfolded

open Filter in
mutual

/-- A value of a type needs only finitely many values of the recursive types around it, so that it
belongs to the type from some stage on if each of these does. -/
theorem eventually_conforms : ∀ (type : WireType) {stages : Nat → List (Value → Prop)}
    {outer : List (Value → Prop)} {value : Value}, Approach stages outer →
    type.Conforms outer value → ∀ᶠ stage in atTop, type.Conforms (stages stage) value
  | .bool, _, _, _, _, conforms | .char, _, _, _, _, conforms | .text, _, _, _, _, conforms
  | .float32, _, _, _, _, conforms | .float64, _, _, _, _, conforms
  | .integer _, _, _, _, _, conforms => .of_forall fun _ => conforms
  | .list element, _, _, _, approach, ⟨elements, same, members⟩ => by
      have each := (eventually_all_finite elements.finite_toSet).2 fun member found =>
        eventually_conforms element approach (members member found)
      exact each.mono fun _ all => ⟨elements, same, all⟩
  | .option content, _, _, _, approach, conforms => by
      rcases conforms with same | ⟨inner, same, conforms⟩
      · exact .of_forall fun _ => .inl same
      · exact (eventually_conforms content approach conforms).mono fun _ holds =>
          .inr ⟨inner, same, holds⟩
  | .box content, _, _, _, approach, conforms => eventually_conforms content approach conforms
  | .tuple elements, _, _, _, approach, ⟨members, same, conform⟩ =>
      (eventually_conformEach elements approach conform).mono fun _ all => ⟨members, same, all⟩
  | .record fields, _, _, _, approach, ⟨members, same, conform⟩ =>
      (eventually_conformEach fields approach conform).mono fun _ all => ⟨members, same, all⟩
  | .choice variants, _, _, _, approach, ⟨index, inner, same, bounded, conforms⟩ =>
      (eventually_conformsAt variants approach conforms).mono fun _ holds =>
        ⟨index, inner, same, bounded, holds⟩
  | .flattened _ content, _, _, _, approach, ⟨inner, same, conforms⟩ =>
      (eventually_conforms content approach conforms).mono fun _ holds => ⟨inner, same, holds⟩
  | .sparse fields, _, _, _, approach, ⟨members, same, conform⟩ =>
      (eventually_conformGiven fields approach conform).mono fun _ all => ⟨members, same, all⟩
  | .recursive body, _, _, _, approach, ⟨count, unfolded⟩ =>
      (eventually_unfoldedSet (eventually_conforms body) approach count _ unfolded).mono
        fun _ holds => ⟨count, holds⟩
  | .recur depth, _, _, _, approach, ⟨set, found, member⟩ => approach depth set found _ member

private theorem eventually_conformEach : ∀ (types : List WireType)
    {stages : Nat → List (Value → Prop)} {outer : List (Value → Prop)} {values : List Value},
    Approach stages outer → ConformEach types outer values →
    ∀ᶠ stage in atTop, ConformEach types (stages stage) values
  | [], _, _, _, _, conform => .of_forall fun _ => conform
  | type :: types, _, _, _, approach, ⟨first, others, same, conforms, conform⟩ =>
      ((eventually_conforms type approach conforms).and
        (eventually_conformEach types approach conform)).mono
        fun _ ⟨firstHolds, all⟩ => ⟨first, others, same, firstHolds, all⟩

private theorem eventually_conformGiven : ∀ (types : List WireType)
    {stages : Nat → List (Value → Prop)} {outer : List (Value → Prop)} {values : List Value},
    Approach stages outer → ConformGiven types outer values →
    ∀ᶠ stage in atTop, ConformGiven types (stages stage) values
  | [], _, _, _, _, conform => .of_forall fun _ => conform
  | _ :: types, _, _, _, approach, ⟨_, _, rfl, .inl leftOut, conform⟩ =>
      (eventually_conformGiven types approach conform).mono fun _ all =>
        ⟨_, _, rfl, .inl leftOut, all⟩
  | type :: types, _, _, _, approach, ⟨_, _, rfl, .inr ⟨inner, isGiven, conforms⟩, conform⟩ =>
      ((eventually_conforms type approach conforms).and
        (eventually_conformGiven types approach conform)).mono
        fun _ ⟨firstHolds, all⟩ => ⟨_, _, rfl, .inr ⟨inner, isGiven, firstHolds⟩, all⟩

private theorem eventually_conformsAt : ∀ (types : List WireType) {index : Nat}
    {stages : Nat → List (Value → Prop)} {outer : List (Value → Prop)} {value : Value},
    Approach stages outer → ConformsAt types index outer value →
    ∀ᶠ stage in atTop, ConformsAt types index (stages stage) value
  | [], _, _, _, _, _, conforms => conforms.elim
  | type :: _, 0, _, _, _, approach, conforms => eventually_conforms type approach conforms
  | _ :: types, _ + 1, _, _, _, approach, conforms => eventually_conformsAt types approach conforms

end

section Unfold

variable {body : WireType} {sets : List (Value → Prop)}

/-- A larger set for the recursive type itself does not take values away. -/
theorem conforms_of_subset {set larger : Value → Prop} (subset : ∀ value, set value → larger value)
    {value : Value} (conforms : body.Conforms (set :: sets) value) :
    body.Conforms (larger :: sets) value := by
  have approach : Approach (fun _ => larger :: sets) (set :: sets) :=
    (Approach.unchanged sets).cons fun value member => .of_forall fun _ => subset value member
  exact Filter.eventually_const.1 (eventually_conforms body approach conforms)

theorem unfoldedSet_of_le {count more : Nat} (notMore : count ≤ more) {value : Value}
    (unfolded : unfoldedSet (fun self => body.Conforms (self :: sets)) count value) :
    unfoldedSet (fun self => body.Conforms (self :: sets)) more value := by
  induction count generalizing more value with
  | zero => exact unfolded.elim
  | succ count inductionHypothesis =>
      obtain ⟨more, rfl⟩ : ∃ less, more = less + 1 := ⟨more - 1, by omega⟩
      exact conforms_of_subset (fun _ => inductionHypothesis (by omega)) unfolded

/-- The values of a recursive type are what its body makes of them. -/
theorem conforms_recursive (body : WireType) (sets : List (Value → Prop)) :
    (WireType.recursive body).Conforms sets =
      body.Conforms ((WireType.recursive body).Conforms sets :: sets) := by
  funext value
  apply propext
  constructor
  · rintro ⟨_ | count, unfolded⟩
    · exact unfolded.elim
    · exact conforms_of_subset (fun _ member => ⟨count, member⟩) unfolded
  · intro conforms
    -- the value holds finitely many others of its type, so that one unfolding has them all
    have approach : Approach
        (fun count => unfoldedSet (fun self => body.Conforms (self :: sets)) count :: sets)
        ((WireType.recursive body).Conforms sets :: sets) :=
      (Approach.unchanged sets).cons fun value ⟨count, unfolded⟩ =>
        (Filter.eventually_ge_atTop count).mono fun _ notMore => unfoldedSet_of_le notMore unfolded
    obtain ⟨count, unfolded⟩ := (eventually_conforms body approach conforms).exists
    exact ⟨count + 1, unfolded⟩

/-- A recursive type has the same values as its unfolding. -/
theorem conforms_unfoldedOnce (body : WireType) (sets : List (Value → Prop)) :
    body.unfoldedOnce.Conforms sets = (WireType.recursive body).Conforms sets := by
  rw [unfoldedOnce, conforms_withSelf, ← conforms_recursive]

/-- A recursive type is read as its unfolding is. -/
theorem read_unfoldedOnce (body : WireType) {readers : List (Reader Value)}
    (around : ∀ reader ∈ readers, TakesOnlySpellings reader) :
    body.unfoldedOnce.read readers = (WireType.recursive body).read readers := by
  funext input
  rw [unfoldedOnce, read_withSelf, ← read_recursive_eq_body body around]

end Unfold

end RemoteCall.Wire.WireType
