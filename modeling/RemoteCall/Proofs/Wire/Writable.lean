import RemoteCall.Panic
import RemoteCall.Proofs.Wire.RoundTrip

/-!
Contract: exactly the values that hold a record written by names cannot be written.

Owns:
- values that hold no such record, at any depth;
- writing, which succeeds on these and on no others;
- the panic of a writer that takes every value to be one that can be written;
- the records of this kind in a value that is spelled, and types in whose values there are none.

What counts is what a value holds and not what its type mentions: where a type has a place for such
a record, there may be values of it in which the place is not taken.

Does not own: reading.
-/

namespace RemoteCall.Wire

set_option autoImplicit false

namespace Value

/-- A record that is written by the names of its fields and not by their places. -/
def ByNames : Value → Prop
  | .flattened _ | .sparse _ => True
  | _ => False

/-- No value inside is written by names, at whatever depth. -/
def Writable (value : Value) : Prop :=
  value.Every fun part => ¬ part.ByNames

theorem exists_map_ok_iff {α β ε : Type} {outcome : Except ε α} {f : α → β} :
    (∃ result, outcome.map f = .ok result) ↔ ∃ value, outcome = .ok value := by
  cases outcome <;> simp [Except.map]

theorem exists_encodeEach_cons_iff {first : Value} {others : List Value} :
    (∃ bytes, encodeEach (first :: others) = .ok bytes) ↔
      (∃ bytes, first.encode = .ok bytes) ∧ ∃ bytes, encodeEach others = .ok bytes := by
  constructor
  · rintro ⟨bytes, written⟩
    obtain ⟨head, tail, headWritten, tailWritten, _⟩ := encodeEach_cons_eq_ok.1 written
    exact ⟨⟨head, headWritten⟩, tail, tailWritten⟩
  · rintro ⟨⟨head, headWritten⟩, tail, tailWritten⟩
    exact ⟨head ++ tail, encodeEach_cons_eq_ok.2 ⟨head, tail, headWritten, tailWritten, rfl⟩⟩

mutual

/-- A value can be written exactly if nothing inside it is written by names. -/
theorem exists_encode_iff : ∀ value : Value,
    (∃ bytes, value.encode = .ok bytes) ↔ value.Writable
  | .bool _ | .char _ | .text _ | .float32 _ | .float64 _ | .integer _ _ | .absent =>
      iff_of_true ⟨_, rfl⟩ (every_of_alone rfl not_false)
  | .list elements => by
      rw [encode_list, exists_map_ok_iff]
      exact (exists_encodeEach_iff elements).trans
        (every_list.trans (and_iff_right not_false)).symm
  | .present content => by
      rw [encode, exists_map_ok_iff]
      exact (exists_encode_iff content).trans (every_present.trans (and_iff_right not_false)).symm
  | .tuple elements =>
      (exists_encodeEach_iff elements).trans (every_tuple.trans (and_iff_right not_false)).symm
  | .variant index content => by
      rw [encode, exists_map_ok_iff]
      exact (exists_encode_iff content).trans (every_variant.trans (and_iff_right not_false)).symm
  | .flattened _ | .sparse _ =>
      iff_of_false (fun ⟨_, written⟩ => nomatch written) fun writable => writable.self trivial

private theorem exists_encodeEach_iff : ∀ values : List Value,
    (∃ bytes, encodeEach values = .ok bytes) ↔ ∀ value ∈ values, value.Writable
  | [] => iff_of_true ⟨[], rfl⟩ (List.forall_mem_nil _)
  | first :: others => by
      rw [exists_encodeEach_cons_iff, List.forall_mem_cons, exists_encode_iff first,
        exists_encodeEach_iff others]

end

/-- A record that is written by names is one of which all fields are left out. -/
def BareIfByNames (part : Value) : Prop :=
  part.ByNames → ∃ count, part = .bare count

mutual

/-- A value that has a spelling holds no record written by names but such as all fields of which are
left out. -/
theorem bareIfByNames_of_spelledBy : ∀ (value : Value) {bytes : Bytes}, value.SpelledBy bytes →
    value.Every BareIfByNames
  | .bool _, _, _ | .char _, _, _ | .text _, _, _ | .float32 _, _, _ | .float64 _, _, _
  | .integer _ _, _, _ | .absent, _, _ => every_of_alone rfl False.elim
  | .list elements, _, ⟨_, _, _, eachSpelled, _⟩ =>
      every_list.2 ⟨False.elim, bareIfByNames_of_spelledByEach elements eachSpelled⟩
  | .present content, _, ⟨_, contentSpelled, _⟩ =>
      every_present.2 ⟨False.elim, bareIfByNames_of_spelledBy content contentSpelled⟩
  | .tuple elements, _, spelled =>
      every_tuple.2 ⟨False.elim, bareIfByNames_of_spelledByEach elements spelled⟩
  | .variant _ content, _, ⟨_, _, _, contentSpelled, _⟩ =>
      every_variant.2 ⟨False.elim, bareIfByNames_of_spelledBy content contentSpelled⟩
  | .flattened _, _, spelled => spelled.elim
  | .sparse fields, _, ⟨allAbsent, _⟩ => by
      refine every_sparse.2 ⟨fun _ => ⟨fields.length, ?_⟩, fun field found => ?_⟩
      · exact congrArg Value.sparse (List.eq_replicate_iff.2 ⟨rfl, allAbsent⟩)
      · rw [allAbsent field found]
        exact every_of_alone rfl False.elim

private theorem bareIfByNames_of_spelledByEach : ∀ (values : List Value) {bytes : Bytes},
    SpelledByEach values bytes → ∀ value ∈ values, value.Every BareIfByNames
  | [], _, _ => List.forall_mem_nil _
  | first :: others, _, ⟨_, _, firstSpelled, othersSpelled, _⟩ =>
      List.forall_mem_cons.2 ⟨bareIfByNames_of_spelledBy first firstSpelled,
        bareIfByNames_of_spelledByEach others othersSpelled⟩

end

/-- Not a record all of whose fields may be left out. -/
def NotSparse (part : Value) : Prop :=
  ∀ fields, part ≠ .sparse fields

end Value

/-! ## Types without records that may be left bare -/

namespace WireType

mutual

/-- Whether no record in a type may have all of its fields left out. -/
def sparseFree : WireType → Bool
  | .list element => element.sparseFree
  | .option content => content.sparseFree
  | .box content => content.sparseFree
  | .tuple elements => allSparseFree elements
  | .record fields => allSparseFree fields
  | .choice variants => allSparseFree variants
  | .flattened _ content => content.sparseFree
  | .sparse _ => false
  | .recursive body => body.sparseFree
  | .bool | .char | .text | .float32 | .float64 | .integer _ | .recur _ => true

def allSparseFree : List WireType → Bool
  | [] => true
  | type :: types => type.sparseFree && allSparseFree types

end

theorem forall_sparseFree {types : List WireType} (free : allSparseFree types = true) :
    ∀ type ∈ types, type.sparseFree = true := by
  induction types with
  | nil => exact List.forall_mem_nil _
  | cons first others inductionHypothesis =>
      obtain ⟨firstFree, othersFree⟩ := Bool.and_eq_true_iff.1 free
      exact List.forall_mem_cons.2 ⟨firstFree, inductionHypothesis othersFree⟩

theorem sparseFree_inherited : Inherited fun type => type.sparseFree = true := by
  intro type free
  cases type with
  | list _ | option _ | box _ | flattened _ _ | recursive _ => exact List.forall_mem_singleton.2 free
  | tuple _ | record _ | choice _ => exact forall_sparseFree free
  | sparse _ => cases free
  | bool | char | text | float32 | float64 | integer _ | recur _ => exact List.forall_mem_nil _

/-- A record all of whose fields may be left out is made by the type of such a record alone. -/
theorem notSparse_of_made :
    PassedByMade (fun type => type.sparseFree = true) Value.NotSparse := by
  rintro type sets value free makes conforms fields rfl
  cases type with
  | sparse _ => cases free
  | box _ | recursive _ | recur _ => exact makes
  | _ => simp [Conforms] at conforms

/-- Where no record may have all of its fields left out, what is spelled can be written. -/
theorem writable_of_spelledBy {type : WireType} (free : type.sparseFree = true)
    (member : type.Member) {bytes : Bytes} (spelled : member.val.SpelledBy bytes) :
    member.val.Writable := by
  intro part inside byNames
  obtain ⟨count, isBare⟩ := member.val.bareIfByNames_of_spelledBy spelled part inside byNames
  exact member.every sparseFree_inherited notSparse_of_made free part inside _ isBare

end WireType

end RemoteCall.Wire
