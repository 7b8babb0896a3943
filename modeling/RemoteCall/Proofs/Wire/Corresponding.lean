import RemoteCall.Wire.Type

/-!
Contract: values that differ in nothing but how their parts are grouped into tuples.

Owns:
- the content of a value: what is left of it once its tuples are dissolved and only their elements
  are kept, in order;
- values that correspond, which have the same content and are written alike;
- the fact that two values of one type do not correspond unless they are the same.

Does not own: reading, and values of different types.
-/

namespace RemoteCall.Wire

set_option autoImplicit false

namespace Value

mutual

/-- The values in a row that a value is if one sees no tuples. What stands inside another value
stays there, as a single tuple of its own content. -/
def content : Value → List Value
  | .tuple elements => contentEach elements
  | .list elements => [.list (regrouped elements)]
  | .present inner => [.present (.tuple inner.content)]
  | .variant index inner => [.variant index (.tuple inner.content)]
  | .flattened inner => [.flattened (.tuple inner.content)]
  | .sparse fields => [.sparse (regrouped fields)]
  | .bool truth => [.bool truth]
  | .char character => [.char character]
  | .text characters => [.text characters]
  | .float32 bits => [.float32 bits]
  | .float64 bits => [.float64 bits]
  | .integer format number => [.integer format number]
  | .absent => [.absent]

/-- The content of several values in a row. -/
def contentEach : List Value → List Value
  | [] => []
  | first :: others => first.content ++ contentEach others

/-- Several values, each as a tuple of its content. -/
def regrouped : List Value → List Value
  | [] => []
  | first :: others => .tuple first.content :: regrouped others

end

theorem contentEach_append (front back : List Value) :
    contentEach (front ++ back) = contentEach front ++ contentEach back := by
  induction front with
  | nil => rfl
  | cons first others inductionHypothesis =>
      rw [List.cons_append, contentEach, contentEach, inductionHypothesis, List.append_assoc]

theorem length_regrouped (elements : List Value) :
    (regrouped elements).length = elements.length := by
  induction elements with
  | nil => rfl
  | cons first others inductionHypothesis =>
      rw [regrouped, List.length_cons, List.length_cons, inductionHypothesis]

/-- Two values correspond if they differ in nothing but the tuples that their parts are grouped
into. -/
def Corresponds (value partner : Value) : Prop :=
  value.content = partner.content

theorem contentEach_cons_eq {first partner : Value} {others partners : List Value}
    (corresponds : first.Corresponds partner) (same : contentEach others = contentEach partners) :
    contentEach (first :: others) = contentEach (partner :: partners) := by
  rw [contentEach, contentEach, corresponds, same]

theorem regrouped_cons_eq {first partner : Value} {others partners : List Value}
    (corresponds : first.Corresponds partner) (same : regrouped others = regrouped partners) :
    regrouped (first :: others) = regrouped (partner :: partners) := by
  rw [regrouped, regrouped, corresponds, same]

namespace Corresponds

theorem list {elements partners : List Value} (same : regrouped elements = regrouped partners) :
    (Value.list elements).Corresponds (.list partners) :=
  congrArg (fun elements => [Value.list elements]) same

variable {inner partner : Value}

theorem present (corresponds : inner.Corresponds partner) :
    (Value.present inner).Corresponds (.present partner) :=
  congrArg (fun content => [Value.present (.tuple content)]) corresponds

theorem variant (corresponds : inner.Corresponds partner) (index : Nat) :
    (Value.variant index inner).Corresponds (.variant index partner) :=
  congrArg (fun content => [Value.variant index (.tuple content)]) corresponds

theorem sparse {fields partners : List Value} (same : regrouped fields = regrouped partners) :
    (Value.sparse fields).Corresponds (.sparse partners) :=
  congrArg (fun fields => [Value.sparse fields]) same

theorem flattened (corresponds : inner.Corresponds partner) :
    (Value.flattened inner).Corresponds (.flattened partner) :=
  congrArg (fun content => [Value.flattened (.tuple content)]) corresponds

end Corresponds

/-! ## Writing -/

theorem encodeEach_singleton (value : Value) : encodeEach [value] = value.encode := by
  rw [encodeEach]
  cases value.encode with
  | error error => rfl
  | ok bytes => exact congrArg Except.ok (List.append_nil bytes)

theorem encodeEach_append (front back : List Value) :
    encodeEach (front ++ back) =
      (encodeEach front).bind fun bytes => (encodeEach back).map (bytes ++ ·) := by
  induction front with
  | nil =>
      rw [List.nil_append, encodeEach]
      cases encodeEach back <;> rfl
  | cons first others inductionHypothesis =>
      rw [List.cons_append, encodeEach, encodeEach, inductionHypothesis]
      cases first.encode with
      | error error => rfl
      | ok head =>
          cases encodeEach others with
          | error error => rfl
          | ok middle =>
              cases encodeEach back with
              | error error => rfl
              | ok tail => exact congrArg Except.ok (List.append_assoc head middle tail).symm

mutual

/-- A value is written as its content, one after the other. -/
theorem encode_eq_content : ∀ value : Value, value.encode = encodeEach value.content
  | .tuple elements => encodeEach_eq_content elements
  | .list elements => by
      rw [content, encodeEach_singleton, encode_list, encode_list, length_regrouped,
        encodeEach_eq_regrouped elements]
  | .present inner => by
      rw [content, encodeEach_singleton, encode, encode, encode, encode_eq_content inner]
  | .variant index inner => by
      rw [content, encodeEach_singleton, encode, encode, encode, encode_eq_content inner]
  | .flattened _ | .sparse _ => by
      rw [content, encodeEach_singleton, encode, encode]
  | .bool _ | .char _ | .text _ | .float32 _ | .float64 _ | .integer _ _ | .absent => by
      rw [content, encodeEach_singleton]

private theorem encodeEach_eq_content : ∀ values : List Value,
    encodeEach values = encodeEach (contentEach values)
  | [] => rfl
  | first :: others => by
      rw [contentEach, encodeEach_append, ← encode_eq_content first,
        ← encodeEach_eq_content others, encodeEach]
      cases first.encode <;> rfl

private theorem encodeEach_eq_regrouped : ∀ values : List Value,
    encodeEach values = encodeEach (regrouped values)
  | [] => rfl
  | first :: others => by
      rw [regrouped, encodeEach, encodeEach, encode, ← encode_eq_content first,
        ← encodeEach_eq_regrouped others]

end

/-- Values that correspond are written alike, and if one of them cannot be written, neither can the
other. -/
theorem Corresponds.encode_eq {value partner : Value} (corresponds : value.Corresponds partner) :
    value.encode = partner.encode := by
  rw [encode_eq_content value, encode_eq_content partner, corresponds]

end Value

/-! ## Values of one type -/

/-- The values of two sets are told apart by their contents, even if nothing says where these end:
where a row of values starts with the content of a value of either set, the two are the same. -/
def Distinguishes (set other : Value → Prop) : Prop :=
  ∀ value partner rest otherRest, set value → other partner →
    value.content ++ rest = partner.content ++ otherRest → value = partner ∧ rest = otherRest

namespace Distinguishes

variable {set other : Value → Prop}

/-- Values that are their own content are told apart by it. -/
theorem ofAlone (alone : ∀ value, set value → value.content = [value])
    (otherAlone : ∀ partner, other partner → partner.content = [partner]) :
    Distinguishes set other := by
  intro value partner rest otherRest member otherMember together
  rw [alone value member, otherAlone partner otherMember] at together
  exact List.cons.inj together

theorem eq_of_corresponds (distinguishes : Distinguishes set other) {value partner : Value}
    (member : set value) (otherMember : other partner) (corresponds : value.Corresponds partner) :
    value = partner :=
  (distinguishes value partner [] [] member otherMember (congrArg (· ++ []) corresponds)).1

theorem eq_of_regrouped (distinguishes : Distinguishes set other) :
    ∀ {elements partners : List Value}, (∀ element ∈ elements, set element) →
      (∀ partner ∈ partners, other partner) →
      Value.regrouped elements = Value.regrouped partners → elements = partners
  | [], [], _, _, _ => rfl
  | first :: others, partner :: partners, members, otherMembers, same => by
      obtain ⟨sameFirst, sameOthers⟩ := List.cons.inj same
      obtain ⟨firstMember, members⟩ := List.forall_mem_cons.1 members
      obtain ⟨partnerMember, otherMembers⟩ := List.forall_mem_cons.1 otherMembers
      rw [distinguishes.eq_of_corresponds firstMember partnerMember (Value.tuple.inj sameFirst),
        eq_of_regrouped distinguishes members otherMembers sameOthers]

/-- Values that are there or are not. -/
theorem option (distinguishes : Distinguishes set other) :
    Distinguishes (fun value => value = .absent ∨ ∃ inner, value = .present inner ∧ set inner)
      (fun value => value = .absent ∨ ∃ inner, value = .present inner ∧ other inner) := by
  rintro _ _ rest otherRest (rfl | ⟨value, rfl, member⟩) (rfl | ⟨partner, rfl, otherMember⟩)
    together
  · exact ⟨rfl, (List.cons.inj together).2⟩
  · cases (List.cons.inj together).1
  · cases (List.cons.inj together).1
  · obtain ⟨same, sameRest⟩ := List.cons.inj together
    have sameInner := distinguishes.eq_of_corresponds member otherMember
      (Value.tuple.inj (Value.present.inj same))
    exact ⟨congrArg Value.present sameInner, sameRest⟩

theorem unfolded {grow otherGrow : (Value → Prop) → Value → Prop}
    (keeps : ∀ set other, Distinguishes set other → Distinguishes (grow set) (otherGrow other))
    (count otherCount : Nat) :
    Distinguishes (unfoldedSet grow count) (unfoldedSet otherGrow otherCount) := by
  induction count generalizing otherCount with
  | zero => exact fun _ _ _ _ member _ _ => member.elim
  | succ count inductionHypothesis =>
      cases otherCount with
      | zero => exact fun _ _ _ _ _ otherMember _ => otherMember.elim
      | succ otherCount => exact keeps _ _ (inductionHypothesis otherCount)

end Distinguishes

namespace WireType

/-- Sets for the recursive types around a type whose values are told apart. -/
def DistinguishEach (sets others : List (Value → Prop)) : Prop :=
  ∀ (depth : Nat) set other, sets[depth]? = some set → others[depth]? = some other →
    Distinguishes set other

theorem DistinguishEach.cons {sets others : List (Value → Prop)} {set other : Value → Prop}
    (first : Distinguishes set other) (each : DistinguishEach sets others) :
    DistinguishEach (set :: sets) (other :: others) := by
  intro depth found otherFound isFound isOtherFound
  cases depth with
  | zero =>
      cases isFound
      cases isOtherFound
      exact first
  | succ depth => exact each depth found otherFound isFound isOtherFound

mutual

/-- The values of a type are told apart by their contents, if those of the recursive types around it
are. -/
theorem conforms_distinguishes : ∀ (type : WireType) {sets others : List (Value → Prop)},
    DistinguishEach sets others → Distinguishes (type.Conforms sets) (type.Conforms others)
  | .bool, _, _, _ | .char, _, _, _ | .text, _, _, _ | .float32, _, _, _ | .float64, _, _, _ =>
      .ofAlone (fun _ ⟨_, same⟩ => same ▸ rfl) (fun _ ⟨_, same⟩ => same ▸ rfl)
  | .integer _, _, _, _ =>
      .ofAlone (fun _ ⟨_, same, _⟩ => same ▸ rfl) (fun _ ⟨_, same, _⟩ => same ▸ rfl)
  | .list element, _, _, each => by
      rintro _ _ rest otherRest ⟨elements, rfl, members⟩ ⟨partners, rfl, otherMembers⟩ together
      obtain ⟨same, sameRest⟩ := List.cons.inj together
      have sameElements := (conforms_distinguishes element each).eq_of_regrouped members
        otherMembers (Value.list.inj same)
      exact ⟨congrArg Value.list sameElements, sameRest⟩
  | .option inner, _, _, each => (conforms_distinguishes inner each).option
  | .box inner, _, _, each => conforms_distinguishes inner each
  | .tuple elements, _, _, each => by
      rintro _ _ rest otherRest ⟨values, rfl, conform⟩ ⟨partners, rfl, otherConform⟩ together
      obtain ⟨same, sameRest⟩ :=
        conformEach_distinguishes elements each conform otherConform together
      exact ⟨congrArg Value.tuple same, sameRest⟩
  | .record fields, _, _, each => by
      rintro _ _ rest otherRest ⟨values, rfl, conform⟩ ⟨partners, rfl, otherConform⟩ together
      obtain ⟨same, sameRest⟩ := conformEach_distinguishes fields each conform otherConform together
      exact ⟨congrArg Value.tuple same, sameRest⟩
  | .choice variants, _, _, each => by
      rintro _ _ rest otherRest ⟨index, value, rfl, _, conforms⟩ ⟨_, partner, rfl, _, otherConforms⟩
        together
      obtain ⟨same, sameRest⟩ := List.cons.inj together
      obtain ⟨rfl, sameContent⟩ := Value.variant.inj same
      have sameInner := (conformsAt_distinguishes variants index each).eq_of_corresponds conforms
        otherConforms (Value.tuple.inj sameContent)
      exact ⟨congrArg (Value.variant index) sameInner, sameRest⟩
  | .flattened _ inner, _, _, each => by
      rintro _ _ rest otherRest ⟨value, rfl, member⟩ ⟨partner, rfl, otherMember⟩ together
      obtain ⟨same, sameRest⟩ := List.cons.inj together
      have sameInner := (conforms_distinguishes inner each).eq_of_corresponds member otherMember
        (Value.tuple.inj (Value.flattened.inj same))
      exact ⟨congrArg Value.flattened sameInner, sameRest⟩
  | .sparse fields, _, _, each => by
      rintro _ _ rest otherRest ⟨values, rfl, conform⟩ ⟨partners, rfl, otherConform⟩ together
      obtain ⟨same, sameRest⟩ := List.cons.inj together
      have sameFields := conformGiven_distinguishes fields each conform otherConform
        (Value.sparse.inj same)
      exact ⟨congrArg Value.sparse sameFields, sameRest⟩
  | .recursive body, _, _, each => by
      rintro _ _ rest otherRest ⟨count, unfolded⟩ ⟨otherCount, otherUnfolded⟩ together
      exact Distinguishes.unfolded
        (fun _ _ distinguishes => conforms_distinguishes body (each.cons distinguishes))
        count otherCount _ _ _ _ unfolded otherUnfolded together
  | .recur depth, _, _, each => by
      rintro _ _ rest otherRest ⟨set, found, member⟩ ⟨other, otherFound, otherMember⟩ together
      exact each depth set other found otherFound _ _ _ _ member otherMember together

private theorem conformEach_distinguishes : ∀ (types : List WireType)
    {sets others : List (Value → Prop)}, DistinguishEach sets others →
    ∀ {values partners rest otherRest : List Value},
      ConformEach types sets values → ConformEach types others partners →
      Value.contentEach values ++ rest = Value.contentEach partners ++ otherRest →
      values = partners ∧ rest = otherRest
  | [], _, _, _, _, _, _, _, rfl, rfl, together => ⟨rfl, together⟩
  | type :: types, _, _, each, _, _, _, _, ⟨first, others, rfl, conforms, conform⟩,
      ⟨partner, partners, rfl, otherConforms, otherConform⟩, together => by
      rw [Value.contentEach, Value.contentEach, List.append_assoc, List.append_assoc] at together
      obtain ⟨rfl, behind⟩ :=
        conforms_distinguishes type each _ _ _ _ conforms otherConforms together
      obtain ⟨rfl, sameRest⟩ := conformEach_distinguishes types each conform otherConform behind
      exact ⟨rfl, sameRest⟩

private theorem conformGiven_distinguishes : ∀ (types : List WireType)
    {sets others : List (Value → Prop)}, DistinguishEach sets others →
    ∀ {values partners : List Value},
      ConformGiven types sets values → ConformGiven types others partners →
      Value.regrouped values = Value.regrouped partners → values = partners
  | [], _, _, _, _, _, rfl, rfl, _ => rfl
  | type :: types, _, _, each, _, _, ⟨_, _, rfl, given, conform⟩,
      ⟨_, _, rfl, otherGiven, otherConform⟩, together => by
      obtain ⟨sameFirst, sameOthers⟩ := List.cons.inj together
      rw [conformGiven_distinguishes types each conform otherConform sameOthers,
        (Distinguishes.option (conforms_distinguishes type each)).eq_of_corresponds given
          otherGiven (Value.tuple.inj sameFirst)]

private theorem conformsAt_distinguishes : ∀ (types : List WireType) (index : Nat)
    {sets others : List (Value → Prop)}, DistinguishEach sets others →
    Distinguishes (ConformsAt types index sets) (ConformsAt types index others)
  | [], _, _, _, _ => fun _ _ _ _ member _ _ => member.elim
  | type :: _, 0, _, _, each => conforms_distinguishes type each
  | _ :: types, index + 1, _, _, each => conformsAt_distinguishes types index each

end

/-- Two members of one type correspond only if they are the same. -/
theorem Member.eq_of_corresponds {type : WireType} {member other : type.Member}
    (corresponds : member.val.Corresponds other.val) : member = other := by
  have around : DistinguishEach [] [] := fun _ _ _ found => by simp at found
  exact Subtype.ext ((conforms_distinguishes type around).eq_of_corresponds member.property
    other.property corresponds)

end WireType

end RemoteCall.Wire
