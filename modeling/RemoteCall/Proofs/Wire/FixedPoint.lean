import RemoteCall.Proofs.Wire.Alike

/-!
Contract: the reader of a recursive type is what its body makes of it, whether the type has values
or not.

Owns:
- the unfoldings of a type that reaches itself, all of which refuse every input;
- the error with which they do, which is the same for all that are deeper than the input is long;
- recursive types as what their bodies make of them.

A type that reaches itself may take bytes on the way, or not. Where it does not, an unfolding fails
with what the next one inside it fails with on the same input, so that all of them fail alike.

Does not own: the values of recursive types.
-/

namespace RemoteCall.Wire.WireType

set_option autoImplicit false

open Reader (Alike)

variable {body : WireType} {readers : List (Reader Value)}

/-- The reader of a recursive type that may come back to itself `count` times. -/
abbrev unfolding (body : WireType) (readers : List (Reader Value)) (count : Nat) : Reader Value :=
  Reader.unfolded (fun self => body.read (self :: readers)) count

/-- What is read in an unfolding of a type that reaches itself belongs to no set. -/
private theorem unfolding_readsInto_empty (reaches : body.Reaches 0) (count : Nat) :
    ReadsInto (unfolding body readers count) fun _ => False := by
  have anything : ReadsEachInto readers (readers.map fun _ _ => True) := by
    induction readers with
    | nil => exact .nil
    | cons reader readers inductionHypothesis =>
        exact .cons (fun _ _ _ _ => trivial) inductionHypothesis
  induction count with
  | zero => exact fun _ _ _ ran => absurd ran Reader.refuse_ne_ok
  | succ count inductionHypothesis =>
      intro input value rest ran
      have conforms := read_conforms body (.cons inductionHypothesis anything) input value rest ran
      exact not_unfoldedSet_of_reaches reaches 1 value conforms

/-- An unfolding of a type that reaches itself refuses every input. -/
theorem exists_error_of_reaches (reaches : body.Reaches 0) (readers : List (Reader Value))
    (count : Nat) (input : Bytes) :
    ∃ error, unfolding body readers count input = .error error := by
  cases ran : unfolding body readers count input with
  | error error => exact ⟨error, rfl⟩
  | ok front => exact (unfolding_readsInto_empty reaches count _ _ _ ran).elim

/-! ## Errors -/

/-- On inputs that are longer than `size`, every error is excused. -/
theorem tolerates_longer (size : Nat) :
    Tolerates fun input error other => size < input.length ∨ error = other where
  refl _ _ := .inr rfl
  ofRest ends := .imp_left fun longer => Nat.lt_of_lt_of_le longer ends.length_le

/-- On inputs of just the given size, the errors of two unfoldings in a row may stand for each
other; on longer ones, all errors may. -/
def NextError (body : WireType) (readers : List (Reader Value)) (size count : Nat) (input : Bytes)
    (error other : DecodeError) : Prop :=
  size < input.length ∨ error = other ∨ input.length = size ∧
    unfolding body readers count input = .error error ∧
    unfolding body readers (count + 1) input = .error other

theorem tolerates_nextError (body : WireType) (readers : List (Reader Value)) (size count : Nat) :
    Tolerates (NextError body readers size count) where
  refl _ _ := .inr (.inl rfl)
  ofRest {input rest _ _} ends excused := by
    rcases excused with longer | same | ⟨isSize, both⟩
    · exact .inl (Nat.lt_of_lt_of_le longer ends.length_le)
    · exact .inr (.inl same)
    · rcases Nat.lt_or_ge rest.length input.length with shorter | notShorter
      · exact .inl (isSize ▸ shorter)
      · rw [ends.eq_of_length_le notShorter] at isSize both
        exact .inr (.inr ⟨isSize, both⟩)

theorem alike_unfolding (reaches : body.Reaches 0) (size count : Nat)
    (stable : ∀ input : Bytes, input.length < size →
      unfolding body readers count input = unfolding body readers (count + 1) input) :
    Alike (NextError body readers size count) Value.Corresponds (unfolding body readers count)
      (unfolding body readers (count + 1)) where
  taken ran := (unfolding_readsInto_empty reaches count _ _ _ ran).elim
  refused {input error} ran := by
    obtain ⟨other, otherRan⟩ := exists_error_of_reaches reaches readers (count + 1) input
    refine ⟨other, otherRan, ?_⟩
    rcases Nat.lt_trichotomy input.length size with shorter | isSize | longer
    · have same := stable input shorter
      rw [ran, otherRan] at same
      exact .inr (.inl (Except.error.inj same))
    · exact .inr (.inr ⟨isSize, ran, otherRan⟩)
    · exact .inl longer

/-- Where a type reaches itself, too, unfoldings that are deeper than their input is long give the
same. Either an unfolding does not come back to itself before it has taken a byte, or it gives what
the next one inside gives on the same input. -/
theorem unfolding_eq_succ (reaches : body.Reaches 0)
    (around : ∀ reader ∈ readers, TakesOnlySpellings reader) (size : Nat) :
    ∀ (input : Bytes) (count : Nat), input.length = size → size < count →
      unfolding body readers count input = unfolding body readers (count + 1) input := by
  induction size using Nat.strongRecOn with
  | ind size inductionHypothesis =>
      intro input count isSize below
      obtain ⟨count, rfl⟩ : ∃ less, count = less + 1 := ⟨count - 1, by omega⟩
      have inner := alike_unfolding reaches size count fun left shorter =>
        inductionHypothesis left.length shorter left count rfl (by omega)
      have tolerates := tolerates_nextError body readers size count
      have whole := read_alike tolerates body (.cons inner (alike_of_takesOnly tolerates around))
      obtain ⟨error, ran⟩ := exists_error_of_reaches reaches readers (count + 1) input
      obtain ⟨other, otherRan, longer | same | ⟨_, _, next⟩⟩ := whole.refused ran
      · omega
      · exact ran.trans (same ▸ otherRan.symm)
      · -- the body came back to itself before it took a byte, and failed for what it failed there
        exact next.trans otherRan.symm

theorem read_recursive_eq_unfolding (reaches : body.Reaches 0)
    (around : ∀ reader ∈ readers, TakesOnlySpellings reader) {count : Nat} {input : Bytes}
    (below : input.length < count) :
    (WireType.recursive body).read readers input = unfolding body readers count input := by
  obtain ⟨more, rfl⟩ := Nat.exists_eq_add_of_lt below
  clear below
  induction more with
  | zero => rfl
  | succ more inductionHypothesis =>
      rw [inductionHypothesis]
      exact unfolding_eq_succ reaches around _ input _ rfl (by omega)

/-! ## The fixed point -/

/-- On inputs that are not longer than `size`, a type that reaches itself is read as it is in its
unfolding of one more. -/
theorem alike_recursive (reaches : body.Reaches 0)
    (around : ∀ reader ∈ readers, TakesOnlySpellings reader) (size : Nat) :
    Alike (fun input error other => size < input.length ∨ error = other) Value.Corresponds
      (unfolding body readers (size + 1)) ((WireType.recursive body).read readers) where
  taken ran := (unfolding_readsInto_empty reaches _ _ _ _ ran).elim
  refused {input error} ran := by
    rcases Nat.lt_or_ge size input.length with longer | notLonger
    · obtain ⟨other, otherRan⟩ := exists_error_of_reaches reaches readers (input.length + 1) input
      exact ⟨other, otherRan, .inl longer⟩
    · have same := read_recursive_eq_unfolding reaches around (Nat.lt_succ_of_le notLonger)
      exact ⟨error, same.trans ran, .inr rfl⟩

/-- The reader of a recursive type is what its body makes of it, whether there are values of this
type or not. -/
theorem read_recursive_eq_body (body : WireType)
    (around : ∀ reader ∈ readers, TakesOnlySpellings reader) (input : Bytes) :
    (WireType.recursive body).read readers input =
      body.read ((WireType.recursive body).read readers :: readers) input := by
  by_cases reaches : body.Reaches 0
  · have tolerates := tolerates_longer input.length
    have inner := alike_recursive reaches around input.length
    have whole := read_alike tolerates body (.cons inner (alike_of_takesOnly tolerates around))
    have deeper : input.length < input.length + 2 := by omega
    have unfolded := read_recursive_eq_unfolding reaches around deeper
    obtain ⟨error, ran⟩ := exists_error_of_reaches reaches readers (input.length + 2) input
    obtain ⟨other, otherRan, longer | same⟩ := whole.refused ran
    · omega
    · exact unfolded.trans (ran.trans (same ▸ otherRan.symm))
  · exact read_recursive reaches around input

end RemoteCall.Wire.WireType
