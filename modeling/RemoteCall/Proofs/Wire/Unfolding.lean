import RemoteCall.Proofs.Wire.Spelling
import RemoteCall.Wire.Type

/-!
Contract: a value of a recursive type is nested no deeper than its spelling is long.

Owns:
- the recursive types that a type reaches without anything being written on the way;
- the change of surroundings that a value of a type does not notice;
- the bound on the number of unfoldings.

A recursive type that reaches itself in this way has no values. Every other one writes a length, a
mark of presence or an index between two occurrences of itself, so that each level of nesting has
a byte of its own. This is what makes the bound on the recursion of a reader one that is never
felt.

Does not own: reading.
-/

namespace RemoteCall.Wire

set_option autoImplicit false

namespace WireType

mutual

/-- A type reaches the recursive type that is bound `depth` binders further out before anything of
its values is written. -/
def Reaches : WireType → (depth : Nat) → Prop
  | .box content, depth => content.Reaches depth
  | .tuple elements, depth => ReachesAny elements depth
  | .record fields, depth => ReachesAny fields depth
  | .recursive body, depth => body.Reaches (depth + 1)
  | .recur found, depth => found = depth
  | .bool, _ | .char, _ | .text, _ | .float32, _ | .float64, _ | .integer _, _ | .list _, _
  | .option _, _ | .choice _, _ | .flattened _ _, _ | .sparse _, _ => False

/-- `Reaches` for one of some types. -/
def ReachesAny : List WireType → (depth : Nat) → Prop
  | [], _ => False
  | type :: types, depth => type.Reaches depth ∨ ReachesAny types depth

end

mutual

/-- A type that reaches a recursive type around it has no values unless that one has. -/
private theorem exists_of_reaches : ∀ (type : WireType) {depth : Nat}
    {outer : List (Value → Prop)} {value : Value}, type.Reaches depth →
    type.Conforms outer value → ∃ set, outer[depth]? = some set ∧ ∃ inner, set inner
  | .box content, _, _, _, reaches, conforms => exists_of_reaches content reaches conforms
  | .tuple elements, _, _, _, reaches, ⟨_, _, each⟩ => exists_of_reachesAny elements reaches each
  | .record fields, _, _, _, reaches, ⟨_, _, each⟩ => exists_of_reachesAny fields reaches each
  | .recursive body, _, _, _, reaches, ⟨count, unfolded⟩ => by
      cases count with
      | zero => exact unfolded.elim
      | succ count =>
          rw [Reaches] at reaches
          obtain ⟨set, found, inhabited⟩ := exists_of_reaches body reaches unfolded
          exact ⟨set, found, inhabited⟩
  | .recur _, _, _, value, reaches, ⟨set, found, member⟩ => by
      cases reaches
      exact ⟨set, found, value, member⟩

private theorem exists_of_reachesAny : ∀ (types : List WireType) {depth : Nat}
    {outer : List (Value → Prop)} {values : List Value}, ReachesAny types depth →
    ConformEach types outer values → ∃ set, outer[depth]? = some set ∧ ∃ inner, set inner
  | type :: types, _, _, _, reaches, ⟨_, _, _, firstConforms, othersConform⟩ => by
      rcases reaches with first | others
      · exact exists_of_reaches type first firstConforms
      · exact exists_of_reachesAny types others othersConform

end

/-- A recursive type that reaches itself has no values. -/
theorem not_unfoldedSet_of_reaches {body : WireType} (reaches : body.Reaches 0)
    {outer : List (Value → Prop)} (count : Nat) (value : Value) :
    ¬ unfoldedSet (fun self => body.Conforms (self :: outer)) count value := by
  induction count generalizing value with
  | zero => exact id
  | succ count inductionHypothesis =>
      intro unfolded
      obtain ⟨set, found, inner, member⟩ := exists_of_reaches body reaches unfolded
      cases found
      exact inductionHypothesis inner member

/-! ## Surroundings that make no difference -/

/-- The sets of `inner` hold what is in the sets of `outer`, as far as it has spellings that are
short enough to stand in `size` bytes: shorter ones, and those of just this size in the sets that
are `reached`. -/
def Covers (size : Nat) (reached : Nat → Prop) (outer inner : List (Value → Prop)) : Prop :=
  ∀ depth set, outer[depth]? = some set → ∃ larger, inner[depth]? = some larger ∧
    ∀ value bytes, set value → value.SpelledBy bytes →
      bytes.length < size ∨ reached depth ∧ bytes.length ≤ size → larger value

theorem Covers.mono {size smaller : Nat} {reached fewer : Nat → Prop}
    {outer inner : List (Value → Prop)} (covers : Covers size reached outer inner)
    (notLarger : smaller ≤ size) (sub : ∀ depth, fewer depth → reached depth) :
    Covers smaller fewer outer inner := by
  intro depth set found
  obtain ⟨larger, foundLarger, contains⟩ := covers depth set found
  refine ⟨larger, foundLarger, fun value bytes member spelled fits => ?_⟩
  apply contains value bytes member spelled
  rcases fits with below | ⟨isReached, atMost⟩
  · exact .inl (by omega)
  · exact .inr ⟨sub depth isReached, by omega⟩

/-- Behind a byte that was written, it no longer matters which sets are reached. -/
theorem Covers.ofLess {size smaller : Nat} {reached others : Nat → Prop}
    {outer inner : List (Value → Prop)} (covers : Covers size reached outer inner)
    (less : smaller < size) : Covers smaller others outer inner := by
  intro depth set found
  obtain ⟨larger, foundLarger, contains⟩ := covers depth set found
  refine ⟨larger, foundLarger, fun value bytes member spelled fits => ?_⟩
  exact contains value bytes member spelled (.inl (by omega))

theorem Covers.cons {size : Nat} {reached : Nat → Prop} {outer inner : List (Value → Prop)}
    {set larger : Value → Prop}
    (contains : ∀ value bytes, set value → value.SpelledBy bytes →
      bytes.length < size ∨ reached 0 ∧ bytes.length ≤ size → larger value)
    (covers : Covers size (fun depth => reached (depth + 1)) outer inner) :
    Covers size reached (set :: outer) (larger :: inner) := by
  intro depth found isFound
  cases depth with
  | zero =>
      cases isFound
      exact ⟨larger, rfl, contains⟩
  | succ depth => exact covers depth found isFound

/-- If the values of a body do not notice a change of surroundings, neither do those of any of its
unfoldings. -/
private theorem unfoldedSet_of_covers {body : WireType}
    (unnoticed : ∀ {outer inner : List (Value → Prop)} {value : Value} {bytes : Bytes},
      body.Conforms outer value → value.SpelledBy bytes →
      Covers bytes.length body.Reaches outer inner → body.Conforms inner value)
    {outer inner : List (Value → Prop)} (count : Nat) {value : Value} {bytes : Bytes}
    (unfolded : unfoldedSet (fun self => body.Conforms (self :: outer)) count value)
    (spelled : value.SpelledBy bytes)
    (covers : Covers bytes.length (fun depth => body.Reaches (depth + 1)) outer inner) :
    unfoldedSet (fun self => body.Conforms (self :: inner)) count value := by
  induction count generalizing value bytes with
  | zero => exact unfolded
  | succ count inductionHypothesis =>
      refine unnoticed unfolded spelled (covers.cons fun nested part member partSpelled fits => ?_)
      have notLonger : part.length ≤ bytes.length := by
        rcases fits with below | ⟨_, atMost⟩
        · exact Nat.le_of_lt below
        · exact atMost
      exact inductionHypothesis member partSpelled (covers.mono notLonger fun _ => id)

mutual

/-- A value of a type is one in any surroundings that cover the original ones up to its size. -/
theorem conforms_of_covers : ∀ (type : WireType) {outer inner : List (Value → Prop)}
    {value : Value} {bytes : Bytes}, type.Conforms outer value → value.SpelledBy bytes →
    Covers bytes.length type.Reaches outer inner → type.Conforms inner value
  | .bool, _, _, _, _, conforms, _, _ => conforms
  | .char, _, _, _, _, conforms, _, _ => conforms
  | .text, _, _, _, _, conforms, _, _ => conforms
  | .float32, _, _, _, _, conforms, _, _ => conforms
  | .float64, _, _, _, _, conforms, _, _ => conforms
  | .integer _, _, _, _, _, conforms, _, _ => conforms
  | .list element, _, _, _, _, ⟨elements, same, each⟩, spelled, covers => by
      subst same
      obtain ⟨form, body, isForm, eachSpelled, rfl⟩ := spelled
      refine ⟨elements, rfl, fun member found => ?_⟩
      obtain ⟨part, partSpelled, notLonger⟩ := Value.exists_spelling_of_mem found eachSpelled
      have formPos := isForm.length_pos
      refine conforms_of_covers element (each member found) partSpelled (covers.ofLess ?_)
      rw [List.length_append]
      omega
  | .option content, _, _, _, _, conforms, spelled, covers => by
      rcases conforms with rfl | ⟨present, rfl, conforms⟩
      · exact .inl rfl
      · obtain ⟨body, contentSpelled, rfl⟩ := spelled
        exact .inr ⟨present, rfl, conforms_of_covers content conforms contentSpelled
          (covers.ofLess (by simp))⟩
  | .box content, _, _, _, _, conforms, spelled, covers =>
      conforms_of_covers content conforms spelled covers
  | .tuple elements, _, _, _, _, ⟨members, same, each⟩, spelled, covers => by
      subst same
      exact ⟨members, rfl, conformEach_of_covers elements each spelled covers⟩
  | .record fields, _, _, _, _, ⟨members, same, each⟩, spelled, covers => by
      subst same
      exact ⟨members, rfl, conformEach_of_covers fields each spelled covers⟩
  | .choice variants, _, _, _, _, ⟨index, content, same, bounded, conforms⟩, spelled, covers => by
      subst same
      obtain ⟨form, body, isForm, contentSpelled, rfl⟩ := spelled
      have formPos := isForm.length_pos
      refine ⟨index, content, rfl, bounded, conformsAt_of_covers variants conforms contentSpelled
        (covers.ofLess ?_)⟩
      rw [List.length_append]
      omega
  | .flattened _ _, _, _, _, _, ⟨_, same, _⟩, spelled, _ => by
      subst same
      exact spelled.elim
  | .sparse fields, _, inner, _, _, ⟨_, same, conform⟩, spelled, _ => by
      subst same
      rw [eq_bare_of_conformGiven conform spelled.1]
      exact ⟨_, rfl, conformGiven_bare fields inner⟩
  | .recursive body, _, _, _, _, ⟨count, unfolded⟩, spelled, covers =>
      ⟨count, unfoldedSet_of_covers (conforms_of_covers body) count unfolded spelled
        (covers.mono (Nat.le_refl _) fun depth reaches => by rwa [Reaches])⟩
  | .recur depth, _, _, value, bytes, ⟨set, found, member⟩, spelled, covers => by
      obtain ⟨larger, foundLarger, contains⟩ := covers depth set found
      exact ⟨larger, foundLarger, contains value bytes member spelled (.inr ⟨rfl, Nat.le_refl _⟩)⟩

private theorem conformEach_of_covers : ∀ (types : List WireType)
    {outer inner : List (Value → Prop)} {values : List Value} {bytes : Bytes},
    ConformEach types outer values → Value.SpelledByEach values bytes →
    Covers bytes.length (ReachesAny types) outer inner → ConformEach types inner values
  | [], _, _, _, _, conform, _, _ => conform
  | type :: types, _, _, _, _, ⟨first, others, same, firstConforms, othersConform⟩, spelled,
      covers => by
      subst same
      obtain ⟨head, tail, firstSpelled, othersSpelled, rfl⟩ := spelled
      rw [List.length_append] at covers
      exact ⟨first, others, rfl,
        conforms_of_covers type firstConforms firstSpelled
          (covers.mono (by omega) fun _ => .inl),
        conformEach_of_covers types othersConform othersSpelled
          (covers.mono (by omega) fun _ => .inr)⟩

private theorem conformsAt_of_covers : ∀ (types : List WireType) {index : Nat}
    {outer inner : List (Value → Prop)} {value : Value} {bytes : Bytes},
    ConformsAt types index outer value → value.SpelledBy bytes →
    Covers bytes.length (fun _ => True) outer inner → ConformsAt types index inner value
  | [], _, _, _, _, _, conforms, _, _ => conforms.elim
  | type :: _, 0, _, _, _, _, conforms, spelled, covers =>
      conforms_of_covers type conforms spelled (covers.mono (Nat.le_refl _) fun _ _ => trivial)
  | _ :: types, _ + 1, _, _, _, _, conforms, spelled, covers =>
      conformsAt_of_covers types conforms spelled covers

end

/-! ## The bound -/

/-- A value that belongs to some unfolding of a recursive type belongs to every one that is unfolded
more often than its spelling has bytes. -/
theorem unfoldedSet_of_length_lt {body : WireType} {outer : List (Value → Prop)} {count : Nat}
    {value : Value} {bytes : Bytes}
    (unfolded : unfoldedSet (fun self => body.Conforms (self :: outer)) count value)
    (spelled : value.SpelledBy bytes) {bound : Nat} (below : bytes.length < bound) :
    unfoldedSet (fun self => body.Conforms (self :: outer)) bound value := by
  induction bound generalizing count value bytes with
  | zero => omega
  | succ bound inductionHypothesis =>
      cases count with
      | zero => exact unfolded.elim
      | succ count =>
          refine conforms_of_covers body unfolded spelled (Covers.cons ?_ ?_)
          · intro nested part member partSpelled fits
            rcases fits with shorter | ⟨reaches, _⟩
            · exact inductionHypothesis member partSpelled (by omega)
            · exact absurd member (not_unfoldedSet_of_reaches reaches count nested)
          · exact fun depth set found => ⟨set, found, fun _ _ member _ _ => member⟩

end WireType

end RemoteCall.Wire
