import Mathlib.Data.List.Forall2
import RemoteCall.Proofs.Wire.Corresponding

/-!
Contract: sets of values each of which corresponds to a value of another set.

Owns:
- such sets, also of several values in a row, and the ways in which sets are put together that keep
  this;
- the fact that the values of a type keep it when the sets for the recursive types around it are
  replaced.

Does not own: the values of different types.
-/

namespace RemoteCall.Wire

set_option autoImplicit false

/-- Each value of a set corresponds to one of another set. -/
def HasPartners (set other : Value → Prop) : Prop :=
  ∀ value, set value → ∃ partner, other partner ∧ value.Corresponds partner

/-- The same for several values in a row, which may be grouped differently. -/
def EachHasPartners (set other : List Value → Prop) : Prop :=
  ∀ values, set values →
    ∃ partners, other partners ∧ Value.contentEach values = Value.contentEach partners

/-- The same for several values in a row, each of which corresponds to the one in its place. -/
def RegroupedHavePartners (set other : List Value → Prop) : Prop :=
  ∀ values, set values →
    ∃ partners, other partners ∧ Value.regrouped values = Value.regrouped partners

namespace HasPartners

variable {set middle other : Value → Prop}

theorem refl (set : Value → Prop) : HasPartners set set :=
  fun value member => ⟨value, member, rfl⟩

theorem trans (first : HasPartners set middle) (second : HasPartners middle other) :
    HasPartners set other := by
  intro value member
  obtain ⟨between, middleMember, corresponds⟩ := first value member
  obtain ⟨partner, otherMember, correspondsNext⟩ := second between middleMember
  exact ⟨partner, otherMember, corresponds.trans correspondsNext⟩

theorem exists_regrouped (partners : HasPartners set other) :
    ∀ elements : List Value, (∀ element ∈ elements, set element) →
      ∃ others : List Value, (∀ element ∈ others, other element) ∧
        Value.regrouped elements = Value.regrouped others
  | [], _ => ⟨[], by simp, rfl⟩
  | first :: elements, members => by
      obtain ⟨firstMember, members⟩ := List.forall_mem_cons.1 members
      obtain ⟨partner, partnerMember, corresponds⟩ := partners first firstMember
      obtain ⟨others, otherMembers, same⟩ := exists_regrouped partners elements members
      exact ⟨partner :: others, List.forall_mem_cons.2 ⟨partnerMember, otherMembers⟩,
        Value.regrouped_cons_eq corresponds same⟩

theorem list (partners : HasPartners set other) :
    HasPartners
      (fun value => ∃ elements, value = .list elements ∧ ∀ element ∈ elements, set element)
      (fun value => ∃ elements, value = .list elements ∧ ∀ element ∈ elements, other element) := by
  rintro _ ⟨elements, rfl, members⟩
  obtain ⟨others, otherMembers, same⟩ := partners.exists_regrouped elements members
  exact ⟨.list others, ⟨others, rfl, otherMembers⟩, .list same⟩

theorem option (partners : HasPartners set other) :
    HasPartners (fun value => value = .absent ∨ ∃ inner, value = .present inner ∧ set inner)
      (fun value => value = .absent ∨ ∃ inner, value = .present inner ∧ other inner) := by
  rintro _ (rfl | ⟨inner, rfl, member⟩)
  · exact ⟨.absent, .inl rfl, rfl⟩
  · obtain ⟨partner, otherMember, corresponds⟩ := partners inner member
    exact ⟨.present partner, .inr ⟨partner, rfl, otherMember⟩, corresponds.present⟩

theorem tuple {set other : List Value → Prop} (partners : EachHasPartners set other) :
    HasPartners (fun value => ∃ members, value = .tuple members ∧ set members)
      (fun value => ∃ members, value = .tuple members ∧ other members) := by
  rintro _ ⟨members, rfl, conform⟩
  obtain ⟨others, otherConform, same⟩ := partners members conform
  exact ⟨.tuple others, ⟨others, rfl, otherConform⟩, same⟩

theorem choice {set other : Nat → Value → Prop}
    (partners : ∀ index, HasPartners (set index) (other index)) :
    HasPartners
      (fun value => ∃ index inner,
        value = .variant index inner ∧ index < variantBound ∧ set index inner)
      (fun value => ∃ index inner,
        value = .variant index inner ∧ index < variantBound ∧ other index inner) := by
  rintro _ ⟨index, inner, rfl, bounded, member⟩
  obtain ⟨partner, otherMember, corresponds⟩ := partners index inner member
  exact ⟨.variant index partner, ⟨index, partner, rfl, bounded, otherMember⟩,
    corresponds.variant index⟩

theorem flattened (partners : HasPartners set other) :
    HasPartners (fun value => ∃ inner, value = .flattened inner ∧ set inner)
      (fun value => ∃ inner, value = .flattened inner ∧ other inner) := by
  rintro _ ⟨inner, rfl, member⟩
  obtain ⟨partner, otherMember, corresponds⟩ := partners inner member
  exact ⟨.flattened partner, ⟨partner, rfl, otherMember⟩, corresponds.flattened⟩

theorem sparse {set other : List Value → Prop} (partners : RegroupedHavePartners set other) :
    HasPartners (fun value => ∃ members, value = .sparse members ∧ set members)
      (fun value => ∃ members, value = .sparse members ∧ other members) := by
  rintro _ ⟨members, rfl, conform⟩
  obtain ⟨others, otherConform, same⟩ := partners members conform
  exact ⟨.sparse others, ⟨others, rfl, otherConform⟩, .sparse same⟩

theorem unfolded {grow otherGrow : (Value → Prop) → Value → Prop}
    (keeps : ∀ set other, HasPartners set other → HasPartners (grow set) (otherGrow other)) :
    HasPartners (fun value => ∃ count, unfoldedSet grow count value)
      (fun value => ∃ count, unfoldedSet otherGrow count value) := by
  have unfoldings (count : Nat) :
      HasPartners (unfoldedSet grow count) (unfoldedSet otherGrow count) := by
    induction count with
    | zero => exact fun _ => False.elim
    | succ count inductionHypothesis => exact keeps _ _ inductionHypothesis
  rintro value ⟨count, member⟩
  obtain ⟨partner, otherMember, corresponds⟩ := unfoldings count value member
  exact ⟨partner, ⟨count, otherMember⟩, corresponds⟩

end HasPartners

namespace EachHasPartners

theorem nil : EachHasPartners (fun values => values = []) (fun values => values = []) := by
  rintro _ rfl
  exact ⟨[], rfl, rfl⟩

theorem cons {set other : Value → Prop} {sets others : List Value → Prop}
    (first : HasPartners set other) (behind : EachHasPartners sets others) :
    EachHasPartners
      (fun values => ∃ head tail, values = head :: tail ∧ set head ∧ sets tail)
      (fun values => ∃ head tail, values = head :: tail ∧ other head ∧ others tail) := by
  rintro _ ⟨head, tail, rfl, member, members⟩
  obtain ⟨partner, otherMember, corresponds⟩ := first head member
  obtain ⟨partners, otherMembers, same⟩ := behind tail members
  exact ⟨partner :: partners, ⟨partner, partners, rfl, otherMember, otherMembers⟩,
    Value.contentEach_cons_eq corresponds same⟩

end EachHasPartners

namespace RegroupedHavePartners

theorem refl (set : List Value → Prop) : RegroupedHavePartners set set :=
  fun values members => ⟨values, members, rfl⟩

theorem nil : RegroupedHavePartners (fun values => values = []) (fun values => values = []) := by
  rintro _ rfl
  exact ⟨[], rfl, rfl⟩

theorem cons {set other : Value → Prop} {sets others : List Value → Prop}
    (first : HasPartners set other) (behind : RegroupedHavePartners sets others) :
    RegroupedHavePartners
      (fun values => ∃ head tail, values = head :: tail ∧ set head ∧ sets tail)
      (fun values => ∃ head tail, values = head :: tail ∧ other head ∧ others tail) := by
  rintro _ ⟨head, tail, rfl, member, members⟩
  obtain ⟨partner, otherMember, corresponds⟩ := first head member
  obtain ⟨partners, otherMembers, same⟩ := behind tail members
  exact ⟨partner :: partners, ⟨partner, partners, rfl, otherMember, otherMembers⟩,
    Value.regrouped_cons_eq corresponds same⟩

end RegroupedHavePartners

namespace WireType

theorem hasPartners_recur {sets others : List (Value → Prop)}
    (each : List.Forall₂ HasPartners sets others) :
    ∀ depth, HasPartners ((WireType.recur depth).Conforms sets)
      ((WireType.recur depth).Conforms others) := by
  induction each with
  | nil =>
      rintro depth _ ⟨_, found, _⟩
      cases found
  | cons first _ inductionHypothesis =>
      rintro (_ | depth) value ⟨set, found, member⟩
      · cases found
        obtain ⟨partner, otherMember, corresponds⟩ := first value member
        exact ⟨partner, ⟨_, rfl, otherMember⟩, corresponds⟩
      · exact inductionHypothesis depth value ⟨set, found, member⟩

mutual

/-- The values of a type have partners in other surroundings, if those of the types around it do. -/
theorem hasPartners_conforms : ∀ (type : WireType) {sets others : List (Value → Prop)},
    List.Forall₂ HasPartners sets others →
    HasPartners (type.Conforms sets) (type.Conforms others)
  | .bool, _, _, _ | .char, _, _, _ | .text, _, _, _ | .float32, _, _, _ | .float64, _, _, _
  | .integer _, _, _, _ => .refl _
  | .list element, _, _, each => (hasPartners_conforms element each).list
  | .option content, _, _, each => (hasPartners_conforms content each).option
  | .box content, _, _, each => hasPartners_conforms content each
  | .tuple elements, _, _, each => .tuple (eachHasPartners_conform elements each)
  | .record fields, _, _, each => .tuple (eachHasPartners_conform fields each)
  | .choice variants, _, _, each => .choice fun index => hasPartners_conformsAt variants index each
  | .flattened _ content, _, _, each => (hasPartners_conforms content each).flattened
  | .sparse fields, _, _, each => .sparse (havePartners_conformGiven fields each)
  | .recursive body, _, _, each =>
      .unfolded fun _ _ inner => hasPartners_conforms body (.cons inner each)
  | .recur depth, _, _, each => hasPartners_recur each depth

theorem eachHasPartners_conform : ∀ (types : List WireType) {sets others : List (Value → Prop)},
    List.Forall₂ HasPartners sets others →
    EachHasPartners (ConformEach types sets) (ConformEach types others)
  | [], _, _, _ => .nil
  | type :: types, _, _, each =>
      .cons (hasPartners_conforms type each) (eachHasPartners_conform types each)

theorem havePartners_conformGiven : ∀ (types : List WireType)
    {sets others : List (Value → Prop)}, List.Forall₂ HasPartners sets others →
    RegroupedHavePartners (ConformGiven types sets) (ConformGiven types others)
  | [], _, _, _ => .nil
  | type :: types, _, _, each =>
      .cons (hasPartners_conforms type each).option (havePartners_conformGiven types each)

theorem hasPartners_conformsAt : ∀ (types : List WireType) (index : Nat)
    {sets others : List (Value → Prop)}, List.Forall₂ HasPartners sets others →
    HasPartners (ConformsAt types index sets) (ConformsAt types index others)
  | [], _, _, _, _ => fun _ => False.elim
  | type :: _, 0, _, _, each => hasPartners_conforms type each
  | _ :: types, index + 1, _, _, each => hasPartners_conformsAt types index each

end

end WireType

end RemoteCall.Wire
