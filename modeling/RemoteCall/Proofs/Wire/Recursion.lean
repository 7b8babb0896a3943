import RemoteCall.Proofs.Wire.Taken
import RemoteCall.Proofs.Wire.Unfolding

/-!
Contract: the bound on the recursion of a reader is never felt.

Owns:
- readers that give the same on every input that is short enough;
- the fact that the reader of a type does not notice when those of the recursive types around it
  are changed in this way;
- the reader of a recursive type as what its body makes of it.

A body that does not reach its own type takes at least one byte before it comes back to it. So each
unfolding is run on a shorter input than the one around it, and no more of them are ever asked for
than the input has bytes.

Does not own: bodies that reach their own type. There are no values of these types.
-/

namespace RemoteCall.Wire

set_option autoImplicit false

theorem TakesOnlySpellings.length_le {reader : Reader Value} (takesOnly : TakesOnlySpellings reader)
    {input rest : Bytes} {value : Value} (ran : reader input = .ok (value, rest)) :
    rest.length ≤ input.length := by
  obtain ⟨front, _, rfl⟩ := takesOnly _ _ _ ran
  rw [List.length_append]
  exact Nat.le_add_left _ _

namespace Reader

variable {α β : Type}

/-- Two readers run one after the other give the same as two others, if the first ones do and the
second ones do on what is left. -/
theorem bind_congr {first otherFirst : Reader α} {next otherNext : α → Reader β} {input : Bytes}
    (sameFirst : first input = otherFirst input)
    (sameNext : ∀ value rest, first input = .ok (value, rest) →
      next value rest = otherNext value rest) :
    (first >>= next) input = (otherFirst >>= otherNext) input := by
  simp only [bind, StateT.bind, Except.bind]
  rw [← sameFirst]
  cases ran : first input with
  | error error => rfl
  | ok outcome => exact sameNext outcome.1 outcome.2 ran

theorem length_lt_of_length {input rest : Bytes} {count : Nat}
    (ran : length input = .ok (count, rest)) : rest.length < input.length := by
  obtain ⟨form, isForm, rfl⟩ := compact_eq_ok ran
  have formPos := isForm.length_pos
  rw [List.length_append]
  omega

theorem length_lt_of_presence {input rest : Bytes} {isThere : Bool}
    (ran : presence input = .ok (isThere, rest)) : rest.length < input.length := by
  rw [presence_eq_ok ran]
  exact Nat.lt_succ_self _

theorem length_lt_of_integer {format : IntegerFormat} {input rest : Bytes} {number : Int}
    (ran : integer format input = .ok (number, rest)) : rest.length < input.length := by
  obtain ⟨form, isForm, rfl⟩ := integer_eq_ok ran
  have formPos := isForm.length_pos
  rw [List.length_append]
  omega

theorem many_congr {element other : Reader Value} (takesOnly : TakesOnlySpellings element)
    {size : Nat} (same : ∀ input, input.length ≤ size → element input = other input)
    (count : Nat) {input : Bytes} (fits : input.length ≤ size) :
    many element count input = many other count input := by
  induction count generalizing input with
  | zero => rfl
  | succ count inductionHypothesis =>
      rw [many_succ, many_succ]
      refine bind_congr (same input fits) fun first rest ran => bind_congr ?_ fun _ _ _ => rfl
      exact inductionHypothesis (Nat.le_trans (takesOnly.length_le ran) fits)

end Reader

/-! ## Surroundings that give the same -/

/-- Readers of the recursive types around a type that give the same on inputs of up to `size` bytes:
on shorter ones, and on those of just this size where the types are `reached`. -/
structure AgreeUpTo (size : Nat) (reached : Nat → Prop) (readers others : List (Reader Value)) :
    Prop where
  length : readers.length = others.length
  each : ∀ depth reader other, readers[depth]? = some reader → others[depth]? = some other →
    ∀ input, input.length < size ∨ reached depth ∧ input.length ≤ size →
      reader input = other input

namespace AgreeUpTo

variable {size smaller : Nat} {reached fewer : Nat → Prop} {readers others : List (Reader Value)}

theorem refl (size : Nat) (reached : Nat → Prop) (readers : List (Reader Value)) :
    AgreeUpTo size reached readers readers where
  length := rfl
  each := by
    intro depth reader other found foundOther input _
    rw [found] at foundOther
    cases foundOther
    rfl

theorem mono (agree : AgreeUpTo size reached readers others) (notLarger : smaller ≤ size)
    (sub : ∀ depth, fewer depth → reached depth) : AgreeUpTo smaller fewer readers others where
  length := agree.length
  each := by
    intro depth reader other found foundOther input fits
    apply agree.each depth reader other found foundOther input
    rcases fits with below | ⟨isReached, atMost⟩
    · exact .inl (by omega)
    · exact .inr ⟨sub depth isReached, by omega⟩

/-- Behind a byte that was taken, it no longer matters which types are reached. -/
theorem ofLess (agree : AgreeUpTo size reached readers others) (less : smaller < size) :
    AgreeUpTo smaller fewer readers others where
  length := agree.length
  each := by
    intro depth reader other found foundOther input fits
    exact agree.each depth reader other found foundOther input (.inl (by omega))

theorem cons {reader other : Reader Value}
    (same : ∀ input, input.length < size ∨ reached 0 ∧ input.length ≤ size →
      reader input = other input)
    (agree : AgreeUpTo size (fun depth => reached (depth + 1)) readers others) :
    AgreeUpTo size reached (reader :: readers) (other :: others) where
  length := congrArg (· + 1) agree.length
  each := by
    intro depth found foundOther isFound isFoundOther
    cases depth with
    | zero =>
        cases isFound
        cases isFoundOther
        exact same
    | succ depth => exact agree.each depth found foundOther isFound isFoundOther

end AgreeUpTo

namespace WireType

theorem unfolded_takesOnly (body : WireType) {readers : List (Reader Value)}
    (around : ∀ reader ∈ readers, TakesOnlySpellings reader) (count : Nat) :
    TakesOnlySpellings (Reader.unfolded (fun self => body.read (self :: readers)) count) :=
  Reader.takesOnly_unfolded (fun _ takesOnly => read_takesOnly body
    (List.forall_mem_cons.2 ⟨takesOnly, around⟩)) count

/-- If the reader of a body does not notice a change of surroundings, neither does any of its
unfoldings. -/
private theorem unfolded_congr {body : WireType}
    (unnoticed : ∀ {readers others : List (Reader Value)} {input : Bytes},
      (∀ reader ∈ readers, TakesOnlySpellings reader) →
      AgreeUpTo input.length body.Reaches readers others →
      body.read readers input = body.read others input)
    {readers others : List (Reader Value)}
    (around : ∀ reader ∈ readers, TakesOnlySpellings reader) (count : Nat) {input : Bytes}
    (agree : AgreeUpTo input.length (fun depth => body.Reaches (depth + 1)) readers others) :
    Reader.unfolded (fun self => body.read (self :: readers)) count input =
      Reader.unfolded (fun self => body.read (self :: others)) count input := by
  induction count generalizing input with
  | zero => rfl
  | succ count inductionHypothesis =>
      have takesOnly := body.unfolded_takesOnly around count
      refine unnoticed (List.forall_mem_cons.2 ⟨takesOnly, around⟩)
        (agree.cons fun nested fits => ?_)
      have notLonger : nested.length ≤ input.length := by
        rcases fits with below | ⟨_, atMost⟩
        · exact Nat.le_of_lt below
        · exact atMost
      exact inductionHypothesis (agree.mono notLonger fun _ => id)

mutual

/-- The reader of a type gives the same in all surroundings that give the same on inputs up to the
size of its own. -/
theorem read_congr : ∀ (type : WireType) {readers others : List (Reader Value)} {input : Bytes},
    (∀ reader ∈ readers, TakesOnlySpellings reader) →
    AgreeUpTo input.length type.Reaches readers others →
    type.read readers input = type.read others input
  | .bool, _, _, _, _, _ => rfl
  | .char, _, _, _, _, _ => rfl
  | .text, _, _, _, _, _ => rfl
  | .float32, _, _, _, _, _ => rfl
  | .float64, _, _, _, _, _ => rfl
  | .integer _, _, _, _, _, _ => rfl
  | .list element, _, _, _, around, agree => by
      refine Reader.bind_congr rfl fun count rest lengthRead =>
        Reader.bind_congr ?_ fun _ _ _ => rfl
      refine Reader.many_congr (read_takesOnly element around) (fun input fits => ?_) count
        (Nat.le_refl rest.length)
      have less := Reader.length_lt_of_length lengthRead
      exact read_congr element around (agree.ofLess (by omega))
  | .option content, _, _, _, around, agree => by
      refine Reader.bind_congr rfl fun isThere rest presenceRead => ?_
      cases isThere with
      | false => rfl
      | true =>
          have less := Reader.length_lt_of_presence presenceRead
          exact Reader.bind_congr (read_congr content around (agree.ofLess less)) fun _ _ _ => rfl
  | .box content, _, _, _, around, agree => read_congr content around agree
  | .tuple elements, _, _, _, around, agree =>
      Reader.bind_congr (readEach_congr elements around agree) fun _ _ _ => rfl
  | .record fields, _, _, _, around, agree =>
      Reader.bind_congr (readEach_congr fields around agree) fun _ _ _ => rfl
  | .choice variants, _, _, _, around, agree => by
      refine Reader.bind_congr rfl fun index rest indexRead => ?_
      have less := Reader.length_lt_of_integer indexRead
      exact Reader.bind_congr (readAt_congr variants around (agree.ofLess less)) fun _ _ _ => rfl
  | .flattened _ _, _, _, _, _, _ => rfl
  | .sparse _, _, _, _, _, _ => rfl
  | .recursive body, _, _, input, around, agree =>
      unfolded_congr (read_congr body) around (input.length + 1)
        (agree.mono (Nat.le_refl _) fun depth reaches => by rwa [Reaches])
  | .recur depth, readers, others, input, _, agree => by
      rw [read, read]
      cases found : readers[depth]? with
      | none =>
          have noOther : others[depth]? = none := by
            rw [List.getElem?_eq_none_iff] at found ⊢
            exact agree.length ▸ found
          rw [noOther]
      | some reader =>
          have isThere : depth < others.length := by
            obtain ⟨below, _⟩ := List.getElem?_eq_some_iff.1 found
            exact agree.length ▸ below
          have foundOther := List.getElem?_eq_getElem isThere
          rw [foundOther]
          exact agree.each depth _ _ found foundOther input (.inr ⟨rfl, Nat.le_refl _⟩)

private theorem readEach_congr : ∀ (types : List WireType) {readers others : List (Reader Value)}
    {input : Bytes}, (∀ reader ∈ readers, TakesOnlySpellings reader) →
    AgreeUpTo input.length (ReachesAny types) readers others →
    readEach types readers input = readEach types others input
  | [], _, _, _, _, _ => rfl
  | type :: types, _, _, _, around, agree => by
      have first := read_congr type around
        (agree.mono (Nat.le_refl _) fun depth reaches => .inl reaches)
      refine Reader.bind_congr first fun value rest firstRead => ?_
      have notLonger := (read_takesOnly type around).length_le firstRead
      exact Reader.bind_congr (readEach_congr types around
        (agree.mono notLonger fun depth reaches => .inr reaches)) fun _ _ _ => rfl

private theorem readAt_congr : ∀ (types : List WireType) {index : Nat} {error : DecodeError}
    {readers others : List (Reader Value)} {input : Bytes},
    (∀ reader ∈ readers, TakesOnlySpellings reader) →
    AgreeUpTo input.length (fun _ => True) readers others →
    readAt types index error readers input = readAt types index error others input
  | [], _, _, _, _, _, _, _ => rfl
  | type :: _, 0, _, _, _, _, around, agree =>
      read_congr type around (agree.mono (Nat.le_refl _) fun _ _ => trivial)
  | _ :: types, _ + 1, _, _, _, _, around, agree => readAt_congr types around agree

end

/-! ## The bound -/

section Bound

variable {body : WireType} {readers : List (Reader Value)}

/-- All unfoldings that are deeper than their input is long give the same. -/
theorem unfolded_eq_unfolded (guarded : ¬ body.Reaches 0)
    (around : ∀ reader ∈ readers, TakesOnlySpellings reader) {count other : Nat} {input : Bytes}
    (below : input.length < count) (otherBelow : input.length < other) :
    Reader.unfolded (fun self => body.read (self :: readers)) count input =
      Reader.unfolded (fun self => body.read (self :: readers)) other input := by
  induction count generalizing other input with
  | zero => omega
  | succ count inductionHypothesis =>
      obtain ⟨other, rfl⟩ : ∃ less, other = less + 1 := ⟨other - 1, by omega⟩
      have takesOnly := body.unfolded_takesOnly around count
      refine read_congr body (List.forall_mem_cons.2 ⟨takesOnly, around⟩)
        (AgreeUpTo.cons (fun nested fits => ?_) (.refl _ _ readers))
      rcases fits with shorter | ⟨reaches, _⟩
      · exact inductionHypothesis (by omega) (by omega)
      · exact absurd reaches guarded

/-- What reading as a recursive type gives is what every deep enough unfolding gives. -/
theorem read_recursive_eq_unfolded (guarded : ¬ body.Reaches 0)
    (around : ∀ reader ∈ readers, TakesOnlySpellings reader) {count : Nat} {input : Bytes}
    (below : input.length < count) :
    (WireType.recursive body).read readers input =
      Reader.unfolded (fun self => body.read (self :: readers)) count input :=
  unfolded_eq_unfolded guarded around (Nat.lt_succ_self _) below

/-- The reader of a recursive type is what its body makes of it. -/
theorem read_recursive (guarded : ¬ body.Reaches 0)
    (around : ∀ reader ∈ readers, TakesOnlySpellings reader) (input : Bytes) :
    (WireType.recursive body).read readers input =
      body.read ((WireType.recursive body).read readers :: readers) input := by
  rw [read_recursive_eq_unfolded guarded around (Nat.lt_succ_self input.length)]
  have takesOnly := body.unfolded_takesOnly around input.length
  refine read_congr body (List.forall_mem_cons.2 ⟨takesOnly, around⟩)
    (AgreeUpTo.cons (fun nested fits => ?_) (.refl _ _ readers))
  rcases fits with shorter | ⟨reaches, _⟩
  · exact (read_recursive_eq_unfolded guarded around shorter).symm
  · exact absurd reaches guarded

end Bound

end WireType

end RemoteCall.Wire
