import Mathlib.Logic.Relation
import RemoteCall.Envelope
import RemoteCall.Proofs.Wire.Partners
import RemoteCall.Proofs.Wire.Substitution

/-!
Contract: types of the same shape may be put for each other on either side of the wire.

Owns:
- one replacement in a type, by which tuples are regrouped, boxes are added, records are made tuples
  and recursive types are unfolded, and types of the same shape, which are reached from each other
  by such replacements;
- the partners of a type's values among those of another type of its shape;
- writing and decoding as types of the same shape.

A record that is written by names stays one, for no tuple is written like it. The types of its
fields may be replaced.

Does not own: types that are written alike without being reached in this way.
-/

namespace RemoteCall.Wire

set_option autoImplicit false

namespace WireType

/-- One replacement, at one place inside a type. -/
inductive Replaces : WireType → WireType → Prop where
  /-- Some elements of a tuple, all of them or none, are grouped into a tuple of their own. -/
  | group (before inner after : List WireType) :
      Replaces (.tuple (before ++ (inner ++ after))) (.tuple (before ++ .tuple inner :: after))
  | box (type : WireType) : Replaces type (.box type)
  /-- A record is the tuple of its fields. -/
  | record (fields : List WireType) : Replaces (.record fields) (.tuple fields)
  /-- A recursive type is its body, with the type itself in the place of each reference to it. -/
  | unfold (body : WireType) : Replaces (.recursive body) body.unfoldedOnce
  | inList {type other : WireType} : Replaces type other → Replaces (.list type) (.list other)
  | inOption {type other : WireType} : Replaces type other → Replaces (.option type) (.option other)
  | inBox {type other : WireType} : Replaces type other → Replaces (.box type) (.box other)
  | inTuple (before : List WireType) {type other : WireType} (after : List WireType) :
      Replaces type other →
      Replaces (.tuple (before ++ type :: after)) (.tuple (before ++ other :: after))
  | inRecord (before : List WireType) {type other : WireType} (after : List WireType) :
      Replaces type other →
      Replaces (.record (before ++ type :: after)) (.record (before ++ other :: after))
  | inChoice (before : List WireType) {type other : WireType} (after : List WireType) :
      Replaces type other →
      Replaces (.choice (before ++ type :: after)) (.choice (before ++ other :: after))
  | inFlattened (required : String) (before : List WireType) {type other : WireType}
      (after : List WireType) : Replaces type other →
      Replaces (.flattened required (.record (before ++ type :: after)))
        (.flattened required (.record (before ++ other :: after)))
  | inSparse (before : List WireType) {type other : WireType} (after : List WireType) :
      Replaces type other →
      Replaces (.sparse (before ++ type :: after)) (.sparse (before ++ other :: after))
  | inRecursive {body other : WireType} :
      Replaces body other → Replaces (.recursive body) (.recursive other)

/-- Two types have the same shape if replacements lead from one to the other, each of them made in
either direction. A tuple without elements is added or taken away by grouping none. -/
def SameShape : WireType → WireType → Prop :=
  Relation.EqvGen Replaces

/-! ## Reading -/

open Reader (Alike)

/-- Two readers that leave the same and give values that correspond, or fail with the same error. -/
abbrev ReadAlike (reader other : Reader Value) : Prop :=
  Alike (fun _ error other => error = other) Value.Corresponds reader other

/-- The same for readers of several values in a row, which may be grouped differently. -/
abbrev ReadEachAlike (reader other : Reader (List Value)) : Prop :=
  Alike (fun _ error other => error = other)
    (fun values partners => Value.contentEach values = Value.contentEach partners) reader other

section Read

variable {readers : List (Reader Value)}

theorem readEach_append (front back : List WireType) :
    readEach (front ++ back) readers = (do
      let values ← readEach front readers
      let others ← readEach back readers
      return values ++ others) := by
  induction front with
  | nil => simp [readEach]
  | cons type types inductionHypothesis => simp [readEach, inductionHypothesis]

theorem readAlike_self (around : ∀ reader ∈ readers, TakesOnlySpellings reader)
    (type : WireType) : ReadAlike (type.read readers) (type.read readers) :=
  read_alike tolerates_eq type (alike_of_takesOnly tolerates_eq around)

theorem readEachAlike_self (around : ∀ reader ∈ readers, TakesOnlySpellings reader)
    (types : List WireType) : ReadEachAlike (readEach types readers) (readEach types readers) :=
  readEach_alike tolerates_eq types (alike_of_takesOnly tolerates_eq around)

/-- What is alike behind some elements is alike with them. -/
theorem readEachAlike_behind (around : ∀ reader ∈ readers, TakesOnlySpellings reader)
    {types others : List WireType} (alike : ReadEachAlike (readEach types readers)
      (readEach others readers)) (before : List WireType) :
    ReadEachAlike (readEach (before ++ types) readers) (readEach (before ++ others) readers) := by
  rw [readEach_append, readEach_append]
  refine (readEachAlike_self around before).bind tolerates_eq fun values partners same =>
    alike.returning tolerates_eq fun behind behindPartners sameBehind => ?_
  rw [Value.contentEach_append, Value.contentEach_append, same, sameBehind]

theorem readEachAlike_at (around : ∀ reader ∈ readers, TakesOnlySpellings reader)
    {type other : WireType} (alike : ReadAlike (type.read readers) (other.read readers))
    (before after : List WireType) :
    ReadEachAlike (readEach (before ++ type :: after) readers)
      (readEach (before ++ other :: after) readers) := by
  have fromThere : ReadEachAlike (readEach (type :: after) readers)
      (readEach (other :: after) readers) :=
    alike.bind tolerates_eq fun _ _ corresponds =>
      (readEachAlike_self around after).returning tolerates_eq fun _ _ same =>
        Value.contentEach_cons_eq corresponds same
  exact readEachAlike_behind around fromThere before

theorem readEachAlike_group (around : ∀ reader ∈ readers, TakesOnlySpellings reader)
    (before inner after : List WireType) :
    ReadEachAlike (readEach (before ++ (inner ++ after)) readers)
      (readEach (before ++ .tuple inner :: after) readers) := by
  refine readEachAlike_behind around ?_ before
  have grouped : readEach (.tuple inner :: after) readers = (do
      let values ← readEach inner readers
      let others ← readEach after readers
      return .tuple values :: others) := by
    simp [readEach, read]
  rw [readEach_append, grouped]
  refine (readEachAlike_self around inner).bind tolerates_eq fun values partners same =>
    (readEachAlike_self around after).returning tolerates_eq fun others rest sameOthers => ?_
  rw [Value.contentEach_append, Value.contentEach, Value.content, same, sameOthers]

theorem readAlike_at (around : ∀ reader ∈ readers, TakesOnlySpellings reader)
    {type other : WireType} (alike : ReadAlike (type.read readers) (other.read readers))
    (after : List WireType) (error : DecodeError) :
    ∀ (before : List WireType) (index : Nat),
      ReadAlike (readAt (before ++ type :: after) index error readers)
        (readAt (before ++ other :: after) index error readers)
  | [], 0 => alike
  | [], index + 1 =>
      readAt_alike tolerates_eq after index error (alike_of_takesOnly tolerates_eq around)
  | first :: _, 0 => readAlike_self around first
  | _ :: before, index + 1 => readAlike_at around alike after error before index

/-- If two bodies are read alike in all surroundings, so are all their unfoldings. -/
theorem readAlike_recursive (around : ∀ reader ∈ readers, TakesOnlySpellings reader)
    {body other : WireType}
    (alike : ∀ readers : List (Reader Value), (∀ reader ∈ readers, TakesOnlySpellings reader) →
      ReadAlike (body.read readers) (other.read readers)) :
    ReadAlike ((WireType.recursive body).read readers)
      ((WireType.recursive other).read readers) := by
  have unfoldings (count : Nat) :
      ReadAlike (unfolding body readers count) (unfolding other readers count) := by
    induction count with
    | zero => exact .refuse tolerates_eq _
    | succ count inductionHypothesis =>
        -- the replacement is made in the body first, and then in what the body comes back to
        have takesOnly := body.unfolded_takesOnly around count
        have changed := alike (unfolding body readers count :: readers)
          (List.forall_mem_cons.2 ⟨takesOnly, around⟩)
        exact changed.trans (read_alike tolerates_eq other
          (.cons inductionHypothesis (alike_of_takesOnly tolerates_eq around)))
  exact ⟨fun {input _ _} ran => (unfoldings (input.length + 1)).taken ran,
    fun {input _} ran => (unfoldings (input.length + 1)).refused ran⟩

end Read

/-- A replacement does not change what is read, but for the tuples in it. -/
theorem Replaces.readAlike {type other : WireType} (replaces : Replaces type other) :
    ∀ readers : List (Reader Value), (∀ reader ∈ readers, TakesOnlySpellings reader) →
      ReadAlike (type.read readers) (other.read readers) := by
  induction replaces with
  | group before inner after =>
      intro readers around
      exact (readEachAlike_group around before inner after).tuple tolerates_eq
  | box type => exact fun readers around => readAlike_self around type
  | record fields => exact fun readers around => readAlike_self around (.record fields)
  | unfold body =>
      intro readers around
      rw [read_unfoldedOnce body around]
      exact readAlike_self around _
  | inList _ inductionHypothesis =>
      exact fun readers around => (inductionHypothesis readers around).list tolerates_eq
  | inOption _ inductionHypothesis =>
      exact fun readers around => (inductionHypothesis readers around).option tolerates_eq
  | inBox _ inductionHypothesis => exact inductionHypothesis
  | inTuple before after _ inductionHypothesis =>
      intro readers around
      exact (readEachAlike_at around (inductionHypothesis readers around) before after).tuple
        tolerates_eq
  | inRecord before after _ inductionHypothesis =>
      intro readers around
      exact (readEachAlike_at around (inductionHypothesis readers around) before after).tuple
        tolerates_eq
  | @inChoice before type other after _ inductionHypothesis =>
      intro readers around
      have sameLength : (before ++ type :: after).length = (before ++ other :: after).length := by
        simp
      rw [read, read, sameLength]
      exact read_alike_variant tolerates_eq fun index =>
        readAlike_at around (inductionHypothesis readers around) after
          (.unknownVariant index (before ++ other :: after).length) before index
  | inFlattened required _ _ _ _ =>
      -- the fields are never read: the reader stops behind the length
      exact fun _ _ => (Reader.alike_length tolerates_eq).bind tolerates_eq fun count _ same =>
        same ▸ .refuse tolerates_eq _
  | @inSparse before type other after _ _ =>
      intro readers around
      have sameLength : (before ++ type :: after).length = (before ++ other :: after).length := by
        simp
      have readsAsOther : (WireType.sparse (before ++ type :: after)).read readers =
          (WireType.sparse (before ++ other :: after)).read readers := by
        rw [read, read, sameLength]
      rw [readsAsOther]
      exact readAlike_self around _
  | inRecursive _ inductionHypothesis =>
      exact fun readers around => readAlike_recursive around inductionHypothesis

theorem SameShape.readAlike {type other : WireType} (sameShape : SameShape type other) :
    ReadAlike (type.read []) (other.read []) := by
  have around : ∀ reader ∈ ([] : List (Reader Value)), TakesOnlySpellings reader := by simp
  induction sameShape with
  | rel _ _ replaces => exact replaces.readAlike [] around
  | refl type => exact readAlike_self around type
  | symm _ _ _ inductionHypothesis => exact inductionHypothesis.symm
  | trans _ _ _ _ _ first second => exact first.trans second

/-! ## Values -/

section Values

variable {sets : List (Value → Prop)}

theorem conformEach_append {front back : List WireType} {values : List Value} :
    ConformEach (front ++ back) sets values ↔ ∃ head tail, values = head ++ tail ∧
      ConformEach front sets head ∧ ConformEach back sets tail := by
  induction front generalizing values with
  | nil =>
      constructor
      · exact fun conform => ⟨[], values, rfl, rfl, conform⟩
      · rintro ⟨_, tail, rfl, rfl, conform⟩
        exact conform
  | cons type types inductionHypothesis =>
      constructor
      · rintro ⟨first, others, rfl, conforms, conform⟩
        obtain ⟨head, tail, rfl, frontConform, backConform⟩ := inductionHypothesis.1 conform
        exact ⟨first :: head, tail, rfl, ⟨first, head, rfl, conforms, frontConform⟩, backConform⟩
      · rintro ⟨_, tail, rfl, ⟨first, head, rfl, conforms, frontConform⟩, backConform⟩
        exact ⟨first, head ++ tail, rfl, conforms,
          inductionHypothesis.2 ⟨head, tail, rfl, frontConform, backConform⟩⟩

theorem eachHasPartners_behind {types others : List WireType}
    (partners : EachHasPartners (ConformEach types sets) (ConformEach others sets)) :
    ∀ before : List WireType,
      EachHasPartners (ConformEach (before ++ types) sets) (ConformEach (before ++ others) sets)
  | [] => partners
  | _ :: before => .cons (.refl _) (eachHasPartners_behind partners before)

theorem eachHasPartners_at {type other : WireType}
    (partners : HasPartners (type.Conforms sets) (other.Conforms sets))
    (before after : List WireType) :
    EachHasPartners (ConformEach (before ++ type :: after) sets)
      (ConformEach (before ++ other :: after) sets) := by
  have back : EachHasPartners (ConformEach after sets) (ConformEach after sets) :=
    fun values conform => ⟨values, conform, rfl⟩
  have fromThere : EachHasPartners (ConformEach (type :: after) sets)
      (ConformEach (other :: after) sets) := .cons partners back
  exact eachHasPartners_behind fromThere before

/-- Of the fields of a record, one has another type; each field has its partner in its place. -/
theorem havePartners_given {type other : WireType}
    (partners : HasPartners (type.Conforms sets) (other.Conforms sets)) (after : List WireType) :
    ∀ before : List WireType, RegroupedHavePartners (ConformGiven (before ++ type :: after) sets)
      (ConformGiven (before ++ other :: after) sets)
  | [] => .cons partners.option (.refl _)
  | _ :: before => .cons (.refl _) (havePartners_given partners after before)

theorem eachHasPartners_group (before inner after : List WireType) :
    EachHasPartners (ConformEach (before ++ (inner ++ after)) sets)
      (ConformEach (before ++ .tuple inner :: after) sets) := by
  refine eachHasPartners_behind (fun values conform => ?_) before
  obtain ⟨head, tail, rfl, innerConform, afterConform⟩ := conformEach_append.1 conform
  exact ⟨.tuple head :: tail, ⟨_, _, rfl, ⟨head, rfl, innerConform⟩, afterConform⟩,
    Value.contentEach_append head tail⟩

theorem eachHasPartners_ungroup (before inner after : List WireType) :
    EachHasPartners (ConformEach (before ++ .tuple inner :: after) sets)
      (ConformEach (before ++ (inner ++ after)) sets) := by
  refine eachHasPartners_behind (fun values conform => ?_) before
  obtain ⟨_, tail, rfl, ⟨head, rfl, innerConform⟩, afterConform⟩ := conform
  exact ⟨head ++ tail, conformEach_append.2 ⟨head, tail, rfl, innerConform, afterConform⟩,
    (Value.contentEach_append head tail).symm⟩

theorem hasPartners_at {type other : WireType}
    (partners : HasPartners (type.Conforms sets) (other.Conforms sets)) (after : List WireType) :
    ∀ (before : List WireType) (index : Nat),
      HasPartners (ConformsAt (before ++ type :: after) index sets)
        (ConformsAt (before ++ other :: after) index sets)
  | [], 0 => partners
  | [], _ + 1 => .refl _
  | _ :: _, 0 => .refl _
  | _ :: before, index + 1 => hasPartners_at partners after before index

/-- If the values of a body have partners in all surroundings, so do those of its unfoldings. -/
theorem hasPartners_recursive {body other : WireType}
    (partners : ∀ sets, HasPartners (body.Conforms sets) (other.Conforms sets)) :
    HasPartners ((WireType.recursive body).Conforms sets)
      ((WireType.recursive other).Conforms sets) :=
  .unfolded fun set _ inner => (partners (set :: sets)).trans
    (hasPartners_conforms other (.cons inner (List.forall₂_same.2 fun set _ => .refl set)))

end Values

/-- The values of a type and those that a replacement makes of it are partners of each other. -/
theorem Replaces.hasPartners {type other : WireType} (replaces : Replaces type other) :
    ∀ sets, HasPartners (type.Conforms sets) (other.Conforms sets) ∧
      HasPartners (other.Conforms sets) (type.Conforms sets) := by
  induction replaces with
  | group before inner after =>
      exact fun sets => ⟨.tuple (eachHasPartners_group before inner after),
        .tuple (eachHasPartners_ungroup before inner after)⟩
  | box type => exact fun sets => ⟨.refl _, .refl _⟩
  | record fields => exact fun sets => ⟨.refl _, .refl _⟩
  | unfold body =>
      intro sets
      rw [conforms_unfoldedOnce]
      exact ⟨.refl _, .refl _⟩
  | inList _ inductionHypothesis =>
      exact fun sets => ⟨(inductionHypothesis sets).1.list, (inductionHypothesis sets).2.list⟩
  | inOption _ inductionHypothesis =>
      exact fun sets => ⟨(inductionHypothesis sets).1.option, (inductionHypothesis sets).2.option⟩
  | inBox _ inductionHypothesis => exact inductionHypothesis
  | inTuple before after _ inductionHypothesis =>
      exact fun sets => ⟨.tuple (eachHasPartners_at (inductionHypothesis sets).1 before after),
        .tuple (eachHasPartners_at (inductionHypothesis sets).2 before after)⟩
  | inRecord before after _ inductionHypothesis =>
      exact fun sets => ⟨.tuple (eachHasPartners_at (inductionHypothesis sets).1 before after),
        .tuple (eachHasPartners_at (inductionHypothesis sets).2 before after)⟩
  | inChoice before after _ inductionHypothesis =>
      exact fun sets => ⟨.choice (hasPartners_at (inductionHypothesis sets).1 after before),
        .choice (hasPartners_at (inductionHypothesis sets).2 after before)⟩
  | inFlattened _ before after _ inductionHypothesis =>
      intro sets
      obtain ⟨partners, backPartners⟩ := inductionHypothesis sets
      exact ⟨.flattened (.tuple (eachHasPartners_at partners before after)),
        .flattened (.tuple (eachHasPartners_at backPartners before after))⟩
  | inSparse before after _ inductionHypothesis =>
      exact fun sets => ⟨.sparse (havePartners_given (inductionHypothesis sets).1 after before),
        .sparse (havePartners_given (inductionHypothesis sets).2 after before)⟩
  | inRecursive _ inductionHypothesis =>
      exact fun sets => ⟨hasPartners_recursive fun sets => (inductionHypothesis sets).1,
        hasPartners_recursive fun sets => (inductionHypothesis sets).2⟩

theorem SameShape.symm {type other : WireType} (sameShape : SameShape type other) :
    SameShape other type :=
  Relation.EqvGen.symm _ _ sameShape

theorem SameShape.hasPartners {type other : WireType} (sameShape : SameShape type other) :
    HasPartners (type.Conforms []) (other.Conforms []) ∧
      HasPartners (other.Conforms []) (type.Conforms []) := by
  induction sameShape with
  | rel _ _ replaces => exact replaces.hasPartners []
  | refl _ => exact ⟨.refl _, .refl _⟩
  | symm _ _ _ inductionHypothesis => exact inductionHypothesis.symm
  | trans _ _ _ _ _ first second => exact ⟨first.1.trans second.1, second.2.trans first.2⟩

/-! ## Members -/

section Members

variable {type other : WireType}

/-- Each member of a type has exactly one partner among those of a type of its shape. -/
theorem SameShape.existsUnique_partner (sameShape : SameShape type other) (member : type.Member) :
    ∃! partner : other.Member, member.val.Corresponds partner.val := by
  obtain ⟨value, conforms, corresponds⟩ := sameShape.hasPartners.1 member.val member.property
  refine ⟨⟨value, conforms⟩, corresponds, fun partner alsoCorresponds => ?_⟩
  exact Member.eq_of_corresponds (alsoCorresponds.symm.trans corresponds)

theorem SameShape.decode_eq_ok (sameShape : SameShape type other) {input : Bytes}
    {member : type.Member} {partner : other.Member}
    (corresponds : member.val.Corresponds partner.val)
    (decoded : type.decode input = .ok member) : other.decode input = .ok partner := by
  have read := readMember_eq_ok.1 (WireType.decode_eq_ok.1 decoded)
  obtain ⟨_, value, otherRead, alsoCorresponds⟩ := sameShape.readAlike.taken read
  have conforms := read_conforms other .nil _ _ _ otherRead
  have same : (⟨value, conforms⟩ : other.Member) = partner :=
    Member.eq_of_corresponds (alsoCorresponds.symm.trans corresponds)
  exact WireType.decode_eq_ok.2 (readMember_eq_ok.2 (same ▸ otherRead))

theorem SameShape.decode_eq_error (sameShape : SameShape type other) {input : Bytes}
    {error : DecodeError} (refused : type.decode input = .error error) :
    other.decode input = .error error := by
  rcases WireType.decode_eq_error.1 refused with stopped | ⟨rfl, member, rest, read, goesOn⟩
  · obtain ⟨_, otherStopped, rfl⟩ := sameShape.readAlike.refused (readMember_eq_error.1 stopped)
    exact WireType.decode_eq_error.2 (.inl (readMember_eq_error.2 otherStopped))
  · obtain ⟨_, value, otherRead, _⟩ := sameShape.readAlike.taken (readMember_eq_ok.1 read)
    have conforms := read_conforms other .nil _ _ _ otherRead
    exact WireType.decode_eq_error.2 (.inr ⟨rfl, ⟨value, conforms⟩, rest,
      readMember_eq_ok.2 otherRead, goesOn⟩)

end Members

end WireType

/-! ## Ordinary values -/

section Transferable

variable {α β : Type} [Transferable α] [Transferable β]

/-- Where values of one type correspond to values of another one, they are written alike, and the
inputs that are decoded as the ones are decoded as the others. -/
theorem decode_map_of_sameShape
    (sameShape : WireType.SameShape (Transferable.type α) (Transferable.type β)) {f : α → β}
    (corresponds : ∀ value : α,
      (Transferable.toValue value).Corresponds (Transferable.toValue (f value))) :
    (∀ value : α, Transferable.encode value = Transferable.encode (f value)) ∧
    ∀ input, Transferable.decode β input = (Transferable.decode α input).map f := by
  refine ⟨fun value => (corresponds value).encode_eq, fun input => ?_⟩
  unfold Transferable.decode
  cases decoded : (Transferable.type α).decode input with
  | error error =>
      rw [sameShape.decode_eq_error decoded]
      rfl
  | ok member =>
      have related : member.val.Corresponds
          (Transferable.toMember (f (Transferable.ofMember member))).val := by
        have same := corresponds (Transferable.ofMember member)
        rwa [show Transferable.toValue (Transferable.ofMember member) = member.val from
          congrArg Subtype.val (Transferable.toMember_ofMember member)] at same
      rw [sameShape.decode_eq_ok related decoded]
      exact congrArg Except.ok (Transferable.ofMember_toMember _)

end Transferable

namespace WireType

/-- Types of the same shape may be put for each other. Each value of the one corresponds to exactly
one value of the other, the two are written alike, and the inputs that are decoded as the one are
decoded as the other; every other input is refused for the same reason as either type. A request is
written and decoded as the pair of its fields, and so is a response. -/
theorem encode_decode_of_sameShape :
    (∀ type other : WireType, SameShape type other →
      (∀ member : type.Member, ∃! partner : other.Member, member.val.Corresponds partner.val) ∧
      (∀ partner : other.Member, ∃! member : type.Member, member.val.Corresponds partner.val) ∧
      (∀ (member : type.Member) (partner : other.Member), member.val.Corresponds partner.val →
        member.val.encode = partner.val.encode ∧
        ∀ input, type.decode input = .ok member ↔ other.decode input = .ok partner) ∧
      ∀ input error, type.decode input = .error error ↔ other.decode input = .error error) ∧
    ((∀ request : Request,
        Transferable.encode request = Transferable.encode (request.name, request.args)) ∧
      ∀ input, Transferable.decode (String × Bytes) input =
        (Request.decode input).map fun request => (request.name, request.args)) ∧
    (∀ response : Response,
        Transferable.encode response = Transferable.encode (response.ok, response.payload)) ∧
      ∀ input, Transferable.decode (Bool × Bytes) input =
        (Response.decode input).map fun response => (response.ok, response.payload) := by
  refine ⟨fun type other sameShape => ⟨sameShape.existsUnique_partner, fun partner => ?_,
    fun member partner corresponds => ⟨corresponds.encode_eq, fun input => ?_⟩,
    fun input error => ⟨sameShape.decode_eq_error, sameShape.symm.decode_eq_error⟩⟩,
    decode_map_of_sameShape (.rel _ _ (.record _)) fun _ => rfl,
    decode_map_of_sameShape (.rel _ _ (.record _)) fun _ => rfl⟩
  · obtain ⟨member, corresponds, unique⟩ := sameShape.symm.existsUnique_partner partner
    exact ⟨member, corresponds.symm, fun found alsoCorresponds =>
      unique found alsoCorresponds.symm⟩
  · exact ⟨sameShape.decode_eq_ok corresponds, sameShape.symm.decode_eq_ok corresponds.symm⟩

/-- A tree as a tuple of its number in a box, of nothing, and of boxed trees. -/
def boxedTree : WireType :=
  .tuple [.box (.integer .i32), .unit, .list (.box Sample.tree)]

theorem sameShape_boxedTree : SameShape Sample.tree boxedTree := by
  let number := WireType.integer .i32
  have unfolded : SameShape Sample.tree (.record [number, .list Sample.tree]) :=
    .rel _ _ (.unfold _)
  have asTuple : SameShape (.record [number, .list Sample.tree])
      (.tuple [number, .list Sample.tree]) := .rel _ _ (.record _)
  have boxedNumber : SameShape (.tuple [number, .list Sample.tree])
      (.tuple [.box number, .list Sample.tree]) := .rel _ _ (.inTuple [] _ (.box _))
  have withUnit : SameShape (.tuple [.box number, .list Sample.tree])
      (.tuple [.box number, .unit, .list Sample.tree]) := .rel _ _ (.group [.box number] [] _)
  have boxedTrees : SameShape (.tuple [.box number, .unit, .list Sample.tree]) boxedTree :=
    .rel _ _ (.inTuple [.box number, .unit] [] (.inList (.box _)))
  exact ((((unfolded.trans _ _ _ asTuple).trans _ _ _ boxedNumber).trans _ _ _ withUnit).trans
    _ _ _ boxedTrees)

theorem encode_decode_boxedTree :
    SameShape Sample.tree boxedTree ∧
    (∃ partner : boxedTree.Member, twoNodes.val.Corresponds partner.val ∧
      partner.val.encode = .ok [0xFC, 0xFF, 0xFF, 0xFF, 0xFF, 1, 250, 0] ∧
      boxedTree.decode [0xFC, 0xFF, 0xFF, 0xFF, 0xFF, 1, 250, 0] = .ok partner) ∧
    boxedTree.decode [250, 1] = .error .endOfInput := by
  obtain ⟨exists_partner, _, alike, refused⟩ :=
    encode_decode_of_sameShape.1 Sample.tree boxedTree sameShape_boxedTree
  obtain ⟨partner, corresponds, _⟩ := exists_partner twoNodes
  obtain ⟨sameBytes, sameInputs⟩ := alike twoNodes partner corresponds
  have written : twoNodes.val.encode = .ok [0xFC, 0xFF, 0xFF, 0xFF, 0xFF, 1, 250, 0] := rfl
  have short : twoNodes.val.Short := by
    unfold Value.Short
    decide
  have decoded := decode_of_spelledBy twoNodes (twoNodes.spelledBy written short)
  have cutOff : Sample.tree.decode [250, 1] = .error .endOfInput := rfl
  exact ⟨sameShape_boxedTree, ⟨partner, corresponds, sameBytes.symm.trans written,
    (sameInputs _).1 decoded⟩, (refused _ _).1 cutOff⟩

end WireType

end RemoteCall.Wire
