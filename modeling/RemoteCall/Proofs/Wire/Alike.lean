import Mathlib.Data.List.Forall2
import RemoteCall.Proofs.Wire.Corresponding
import RemoteCall.Proofs.Wire.FrontToBack
import RemoteCall.Proofs.Wire.Recursion

/-!
Contract: readers that take the same bytes and give values that correspond.

Owns:
- which errors may stand for each other, depending on what is left of the input;
- readers that agree up to these errors and up to a relation of what they give, and the ways in
  which readers are put together that keep this;
- the fact that the reader of a type keeps it when the readers of the recursive types around it are
  replaced.

Does not own: the readers of different types.
-/

namespace RemoteCall.Wire

set_option autoImplicit false

/-- Errors that may stand for each other, given the input at which they are met: each for itself,
and where two may on a part of the input that is left, they may on the whole. -/
structure Tolerates (excused : Bytes → DecodeError → DecodeError → Prop) : Prop where
  refl : ∀ input error, excused input error error
  ofRest : ∀ {input rest : Bytes} {error other : DecodeError}, rest <:+ input →
    excused rest error other → excused input error other

/-- Nothing is excused but the same error. -/
theorem tolerates_eq : Tolerates fun _ error other => error = other where
  refl _ _ := rfl
  ofRest _ same := same

/-- Two readers that leave the same and give related values, or are refused both, for errors that
are excused. -/
structure Reader.Alike {α β : Type} (excused : Bytes → DecodeError → DecodeError → Prop)
    (same : α → β → Prop) (reader : Reader α) (other : Reader β) : Prop where
  taken : ∀ {input rest : Bytes} {value : α}, reader input = .ok (value, rest) →
    rest <:+ input ∧ ∃ partner, other input = .ok (partner, rest) ∧ same value partner
  refused : ∀ {input : Bytes} {error : DecodeError}, reader input = .error error →
    ∃ otherError, other input = .error otherError ∧ excused input error otherError

namespace Reader

variable {α β γ δ : Type} {excused : Bytes → DecodeError → DecodeError → Prop}

namespace Alike

section Relation

variable {same : α → β → Prop} {reader : Reader α} {other : Reader β}

/-- What the second reader takes, the first one takes as well. -/
theorem takenBack (alike : Alike excused same reader other) {input rest : Bytes} {partner : β}
    (ran : other input = .ok (partner, rest)) :
    rest <:+ input ∧ ∃ value, reader input = .ok (value, rest) ∧ same value partner := by
  cases outcome : reader input with
  | error error =>
      obtain ⟨_, otherRefused, _⟩ := alike.refused outcome
      rw [ran] at otherRefused
      cases otherRefused
  | ok front =>
      obtain ⟨ends, found, otherTaken, related⟩ := alike.taken outcome
      rw [ran] at otherTaken
      cases otherTaken
      exact ⟨ends, _, rfl, related⟩

/-- What the second reader refuses, the first one refuses as well. -/
theorem refusedBack (alike : Alike excused same reader other) {input : Bytes}
    {otherError : DecodeError} (ran : other input = .error otherError) :
    ∃ error, reader input = .error error ∧ excused input error otherError := by
  cases outcome : reader input with
  | error error =>
      obtain ⟨_, otherRefused, isExcused⟩ := alike.refused outcome
      rw [ran] at otherRefused
      cases otherRefused
      exact ⟨error, rfl, isExcused⟩
  | ok front =>
      obtain ⟨_, _, otherTaken, _⟩ := alike.taken outcome
      rw [ran] at otherTaken
      cases otherTaken

/-- A reader is like itself, and like another one that gives the same. -/
theorem itself {same : α → α → Prop} {reader : Reader α} (tolerates : Tolerates excused)
    (ends : ∀ {input rest : Bytes} {value : α}, reader input = .ok (value, rest) → rest <:+ input)
    (refl : ∀ value, same value value) : Alike excused same reader reader where
  taken ran := ⟨ends ran, _, ran, refl _⟩
  refused ran := ⟨_, ran, tolerates.refl _ _⟩

theorem pure {value : α} {partner : β} (related : same value partner) :
    Alike excused same (pure value) (pure partner) where
  taken ran := by
    obtain ⟨rfl, rfl⟩ := pure_eq_ok.1 ran
    exact ⟨List.suffix_rfl, partner, rfl, related⟩
  refused ran := nomatch ran

theorem refuse (tolerates : Tolerates excused) (error : DecodeError) :
    Alike excused same (refuse error) (Reader.refuse error) where
  taken ran := absurd ran refuse_ne_ok
  refused ran := by
    cases ran
    exact ⟨error, rfl, tolerates.refl _ _⟩

theorem bind {result : γ → δ → Prop} {next : α → Reader γ} {otherNext : β → Reader δ}
    (tolerates : Tolerates excused) (first : Alike excused same reader other)
    (second : ∀ value partner, same value partner →
      Alike excused result (next value) (otherNext partner)) :
    Alike excused result (reader >>= next) (other >>= otherNext) where
  taken ran := by
    obtain ⟨value, middle, firstRan, ran⟩ := bind_eq_ok.1 ran
    obtain ⟨ends, partner, otherFirstRan, related⟩ := first.taken firstRan
    obtain ⟨nextEnds, found, otherRan, relatedResult⟩ := (second value partner related).taken ran
    exact ⟨nextEnds.trans ends, found, bind_eq_ok.2 ⟨partner, middle, otherFirstRan, otherRan⟩,
      relatedResult⟩
  refused ran := by
    rcases bind_eq_error.1 ran with firstRan | ⟨value, middle, firstRan, ran⟩
    · obtain ⟨otherError, otherRan, isExcused⟩ := first.refused firstRan
      exact ⟨otherError, bind_eq_error.2 (.inl otherRan), isExcused⟩
    · obtain ⟨ends, partner, otherFirstRan, related⟩ := first.taken firstRan
      obtain ⟨otherError, otherRan, isExcused⟩ := (second value partner related).refused ran
      exact ⟨otherError, bind_eq_error.2 (.inr ⟨partner, middle, otherFirstRan, otherRan⟩),
        tolerates.ofRest ends isExcused⟩

/-- Readers that return something of what alike readers give. -/
theorem returning {result : γ → δ → Prop} {give : α → γ} {otherGive : β → δ}
    (tolerates : Tolerates excused) (alike : Alike excused same reader other)
    (related : ∀ value partner, same value partner → result (give value) (otherGive partner)) :
    Alike excused result (do return give (← reader)) (do return otherGive (← other)) :=
  alike.bind tolerates fun value partner sameValue => .pure (related value partner sameValue)

theorem unfolded {step : Reader α → Reader α} {otherStep : Reader β → Reader β}
    (tolerates : Tolerates excused)
    (keeps : ∀ reader other, Alike excused same reader other →
      Alike excused same (step reader) (otherStep other)) (count : Nat) :
    Alike excused same (unfolded step count) (Reader.unfolded otherStep count) := by
  induction count with
  | zero => exact .refuse tolerates _
  | succ count inductionHypothesis => exact keeps _ _ inductionHypothesis

theorem fix {step : Reader α → Reader α} {otherStep : Reader β → Reader β}
    (tolerates : Tolerates excused)
    (keeps : ∀ reader other, Alike excused same reader other →
      Alike excused same (step reader) (otherStep other)) :
    Alike excused same (fix step) (Reader.fix otherStep) where
  taken {input _ _} ran := (Alike.unfolded tolerates keeps (input.length + 1)).taken ran
  refused {input _} ran := (Alike.unfolded tolerates keeps (input.length + 1)).refused ran

end Relation

/-- Where nothing is excused and values correspond, one reader may be put for the other. -/
theorem symm {reader other : Reader Value}
    (alike : Alike (fun _ error other => error = other) Value.Corresponds reader other) :
    Alike (fun _ error other => error = other) Value.Corresponds other reader where
  taken ran := by
    obtain ⟨ends, value, otherRan, corresponds⟩ := alike.takenBack ran
    exact ⟨ends, value, otherRan, corresponds.symm⟩
  refused ran := by
    obtain ⟨error, otherRan, same⟩ := alike.refusedBack ran
    exact ⟨error, otherRan, same.symm⟩

theorem trans {reader middle other : Reader Value}
    (first : Alike (fun _ error other => error = other) Value.Corresponds reader middle)
    (second : Alike (fun _ error other => error = other) Value.Corresponds middle other) :
    Alike (fun _ error other => error = other) Value.Corresponds reader other where
  taken ran := by
    obtain ⟨ends, between, middleRan, corresponds⟩ := first.taken ran
    obtain ⟨_, partner, otherRan, correspondsNext⟩ := second.taken middleRan
    exact ⟨ends, partner, otherRan, corresponds.trans correspondsNext⟩
  refused ran := by
    obtain ⟨middleError, middleRan, same⟩ := first.refused ran
    obtain ⟨otherError, otherRan, sameNext⟩ := second.refused middleRan
    exact ⟨otherError, otherRan, same.trans sameNext⟩

end Alike

/-! ## Numbers and marks in front of values -/

theorem alike_length (tolerates : Tolerates excused) : Alike excused Eq length length :=
  .itself tolerates (fun ran => by
    obtain ⟨form, _, rfl⟩ := compact_eq_ok ran
    exact List.suffix_append form _) fun _ => rfl

theorem alike_presence (tolerates : Tolerates excused) : Alike excused Eq presence presence :=
  .itself tolerates (fun ran => by
    rw [presence_eq_ok ran]
    exact List.suffix_cons _ _) fun _ => rfl

theorem alike_integer (tolerates : Tolerates excused) (format : IntegerFormat) :
    Alike excused Eq (integer format) (integer format) :=
  .itself tolerates (fun ran => by
    obtain ⟨form, _, rfl⟩ := integer_eq_ok ran
    exact List.suffix_append form _) fun _ => rfl

/-! ## Lists, options, alternatives -/

section Holding

variable {reader other : Reader Value}

theorem Alike.many (tolerates : Tolerates excused)
    (alike : Alike excused Value.Corresponds reader other) (count : Nat) :
    Alike excused (fun values partners => Value.regrouped values = Value.regrouped partners)
      (many reader count) (Reader.many other count) := by
  induction count with
  | zero => exact .pure rfl
  | succ count inductionHypothesis =>
      rw [many_succ, many_succ]
      exact alike.bind tolerates fun first partner corresponds =>
        inductionHypothesis.returning tolerates fun others partners same =>
          Value.regrouped_cons_eq corresponds same

theorem Alike.list (tolerates : Tolerates excused)
    (alike : Alike excused Value.Corresponds reader other) :
    Alike excused Value.Corresponds
      (do return .list (← Reader.many reader (← length)))
      (do return .list (← Reader.many other (← length))) := by
  refine (alike_length tolerates).bind tolerates fun count _ sameCount => ?_
  subst sameCount
  exact (alike.many tolerates count).returning tolerates fun values partners => .list

theorem Alike.option (tolerates : Tolerates excused)
    (alike : Alike excused Value.Corresponds reader other) :
    Alike excused Value.Corresponds
      (do if ← presence then return .present (← reader) else return .absent)
      (do if ← presence then return .present (← other) else return .absent) := by
  refine (alike_presence tolerates).bind tolerates fun isThere _ same => ?_
  subst same
  cases isThere with
  | false => exact .pure rfl
  | true => exact alike.returning tolerates fun value partner => .present

/-- Values in a row are read as a tuple of them. -/
theorem Alike.tuple {reader other : Reader (List Value)} (tolerates : Tolerates excused)
    (alike : Alike excused
      (fun values partners => Value.contentEach values = Value.contentEach partners) reader other) :
    Alike excused Value.Corresponds (do return .tuple (← reader)) (do return .tuple (← other)) :=
  alike.returning tolerates fun _ _ same => same

end Holding

end Reader

/-! ## Every type -/

namespace WireType

open Reader (Alike)

variable {excused : Bytes → DecodeError → DecodeError → Prop}

/-- A type whose reader does not look at the types around it is read alike everywhere. -/
theorem read_alike_alone (tolerates : Tolerates excused) {type : WireType}
    {readers others : List (Reader Value)} (alone : type.read readers = type.read [])
    (otherAlone : type.read others = type.read []) :
    Alike excused Value.Corresponds (type.read readers) (type.read others) := by
  rw [alone, otherAlone]
  refine .itself tolerates (fun ran => ?_) fun _ => rfl
  obtain ⟨front, _, rfl⟩ := read_takesOnly type (by simp) _ _ _ ran
  exact List.suffix_append front _

theorem read_alike_variant (tolerates : Tolerates excused) {reader other : Nat → Reader Value}
    (alike : ∀ index, Alike excused Value.Corresponds (reader index) (other index)) :
    Alike excused Value.Corresponds
      (do
        let index := (← Reader.integer .u32).toNat
        return .variant index (← reader index))
      (do
        let index := (← Reader.integer .u32).toNat
        return .variant index (← other index)) := by
  refine (Reader.alike_integer tolerates .u32).bind tolerates fun index _ same => ?_
  subst same
  exact (alike index.toNat).returning tolerates fun value partner corresponds =>
    corresponds.variant index.toNat

theorem read_alike_recur (tolerates : Tolerates excused) {readers others : List (Reader Value)}
    (each : List.Forall₂ (Alike excused Value.Corresponds) readers others) :
    ∀ depth, Alike excused Value.Corresponds ((WireType.recur depth).read readers)
      ((WireType.recur depth).read others) := by
  induction each with
  | nil => exact fun _ => .refuse tolerates .endOfInput
  | cons first _ inductionHypothesis =>
      intro depth
      cases depth with
      | zero => exact first
      | succ depth => exact inductionHypothesis depth

mutual

/-- The readers of a type in two surroundings are alike, if those of the types around it are. -/
theorem read_alike (tolerates : Tolerates excused) : ∀ (type : WireType)
    {readers others : List (Reader Value)},
    List.Forall₂ (Alike excused Value.Corresponds) readers others →
    Alike excused Value.Corresponds (type.read readers) (type.read others)
  | .bool, _, _, _ | .char, _, _, _ | .text, _, _, _ | .float32, _, _, _ | .float64, _, _, _
  | .integer _, _, _, _ | .flattened _ _, _, _, _ | .sparse _, _, _, _ =>
      read_alike_alone tolerates rfl rfl
  | .list element, _, _, each => (read_alike tolerates element each).list tolerates
  | .option content, _, _, each => (read_alike tolerates content each).option tolerates
  | .box content, _, _, each => read_alike tolerates content each
  | .tuple elements, _, _, each => (readEach_alike tolerates elements each).tuple tolerates
  | .record fields, _, _, each => (readEach_alike tolerates fields each).tuple tolerates
  | .choice variants, _, _, each =>
      read_alike_variant tolerates fun index =>
        readAt_alike tolerates variants index (.unknownVariant index variants.length) each
  | .recursive body, _, _, each =>
      .fix tolerates fun _ _ inner => read_alike tolerates body (.cons inner each)
  | .recur depth, _, _, each => read_alike_recur tolerates each depth

theorem readEach_alike (tolerates : Tolerates excused) : ∀ (types : List WireType)
    {readers others : List (Reader Value)},
    List.Forall₂ (Alike excused Value.Corresponds) readers others →
    Alike excused (fun values partners => Value.contentEach values = Value.contentEach partners)
      (readEach types readers) (readEach types others)
  | [], _, _, _ => .pure rfl
  | type :: types, _, _, each =>
      (read_alike tolerates type each).bind tolerates fun _ _ corresponds =>
        (readEach_alike tolerates types each).returning tolerates fun _ _ same =>
          Value.contentEach_cons_eq corresponds same

theorem readAt_alike (tolerates : Tolerates excused) : ∀ (types : List WireType)
    (index : Nat) (error : DecodeError) {readers others : List (Reader Value)},
    List.Forall₂ (Alike excused Value.Corresponds) readers others →
    Alike excused Value.Corresponds (readAt types index error readers)
      (readAt types index error others)
  | [], _, _, _, _, _ => .refuse tolerates _
  | type :: _, 0, _, _, _, each => read_alike tolerates type each
  | _ :: types, index + 1, error, _, _, each => readAt_alike tolerates types index error each

end

/-- Readers that take only spellings are like themselves. -/
theorem alike_of_takesOnly (tolerates : Tolerates excused) {readers : List (Reader Value)}
    (around : ∀ reader ∈ readers, TakesOnlySpellings reader) :
    List.Forall₂ (Alike excused Value.Corresponds) readers readers := by
  refine List.forall₂_same.2 fun reader found => .itself tolerates (fun ran => ?_) fun _ => rfl
  obtain ⟨front, _, rfl⟩ := around reader found _ _ _ ran
  exact List.suffix_append front _

end WireType

end RemoteCall.Wire
