import RemoteCall.Proofs.Wire.RoundTrip
import RemoteCall.Proofs.Wire.Taken

/-!
Contract: the lengths that a reader meets are those of the texts and lists that it reads.

Owns:
- the lengths in a value, outer ones first;
- the lengths that the reader of a type meets on an input, also if it is refused in the end;
- the fact that the two are the same for a value that is read.

A length is met where it is read, before anything that it counts. So the lengths that are met on an
input that is refused are those of the texts and lists that were started.

Does not own: how large they may be.
-/

namespace RemoteCall.Wire

set_option autoImplicit false

/-! ## The lengths in a value -/

namespace Value

/-- The length that is written in front of a value, if one is. -/
def length? : Value → Option Nat
  | .text content => some (Utf8.encode content).length
  | .list elements => some elements.length
  | _ => none

/-- The bytes of each text and the elements of each list in a value, at all levels. -/
def lengths (value : Value) : List Nat :=
  value.parts.filterMap length?

theorem filterMap_partsOfEach (elements : List Value) :
    (partsOfEach elements).filterMap length? = elements.flatMap lengths := by
  induction elements with
  | nil => rfl
  | cons first others inductionHypothesis =>
      rw [partsOfEach, List.filterMap_append, inductionHypothesis, List.flatMap_cons, lengths]

theorem lengths_list (elements : List Value) :
    (list elements).lengths = elements.length :: elements.flatMap lengths := by
  rw [lengths, parts, List.filterMap_cons, filterMap_partsOfEach]
  rfl

theorem lengths_tuple (elements : List Value) :
    (tuple elements).lengths = elements.flatMap lengths := by
  rw [lengths, parts, List.filterMap_cons, filterMap_partsOfEach]
  rfl

theorem lengths_bare (count : Nat) : (bare count).lengths = [] := by
  rw [lengths, parts, List.filterMap_cons, filterMap_partsOfEach, List.flatMap_replicate]
  exact List.flatten_replicate_nil

theorem lengths_present (content : Value) : (present content).lengths = content.lengths := by
  rw [lengths, parts, List.filterMap_cons]
  rfl

theorem lengths_variant (index : Nat) (content : Value) :
    (variant index content).lengths = content.lengths := by
  rw [lengths, parts, List.filterMap_cons]
  rfl

end Value

/-! ## The lengths that are met -/

/-- What is met behind something that is read, if it can be. -/
def metBehind {α : Type} (reader : Reader α) (next : α → Bytes → List Nat) (input : Bytes) :
    List Nat :=
  match reader input with
  | .error _ => []
  | .ok (value, rest) => next value rest

theorem metBehind_of_ok {α : Type} {reader : Reader α} {next : α → Bytes → List Nat}
    {input rest : Bytes} {value : α} (ran : reader input = .ok (value, rest)) :
    metBehind reader next input = next value rest := by
  rw [metBehind, ran]

/-- What is met by repetition of a reader that meets `met`. -/
def manyMet (element : Reader Value) (met : Bytes → List Nat) : (count : Nat) → Bytes → List Nat
  | 0, _ => []
  | count + 1, input => met input ++ metBehind element (fun _ => manyMet element met count) input

/-- What is met by a reader that may come back to itself at most `count` times. `met` says what is
met by a step, in terms of the inner reader and of what that one meets. -/
def unfoldedMet (step : Reader Value → Reader Value)
    (met : Reader Value → (Bytes → List Nat) → Bytes → List Nat) : (count : Nat) → Bytes → List Nat
  | 0, _ => []
  | count + 1, input => met (Reader.unfolded step count) (unfoldedMet step met count) input

namespace WireType

mutual

/-- The lengths that are met when an input is read as a type; `outer` holds the readers of the
recursive types around it, and `met` what these meet. -/
def lengthsMet : WireType → (outer : List (Reader Value)) → (met : List (Bytes → List Nat)) →
    Bytes → List Nat
  | .text, _, _, input => metBehind Reader.length (fun count _ => [count]) input
  | .list element, outer, met, input => metBehind Reader.length (fun count rest =>
      count :: manyMet (element.read outer) (element.lengthsMet outer met) count rest) input
  | .option content, outer, met, input => metBehind Reader.presence (fun isThere rest =>
      if isThere then content.lengthsMet outer met rest else []) input
  | .box content, outer, met, input => content.lengthsMet outer met input
  | .tuple elements, outer, met, input => lengthsMetByEach elements outer met input
  | .record fields, outer, met, input => lengthsMetByEach fields outer met input
  | .choice variants, outer, met, input => metBehind (Reader.integer .u32) (fun index rest =>
      lengthsMetAt variants index.toNat outer met rest) input
  | .recursive body, outer, met, input =>
      unfoldedMet (fun self => body.read (self :: outer))
        (fun self selfMet => body.lengthsMet (self :: outer) (selfMet :: met))
        (input.length + 1) input
  | .recur depth, _, met, input =>
      match met[depth]? with
      | some selfMet => selfMet input
      | none => []
  | .bool, _, _, _ | .char, _, _, _ | .float32, _, _, _ | .float64, _, _, _ | .integer _, _, _, _
  | .flattened _ _, _, _, _ | .sparse _, _, _, _ => []

def lengthsMetByEach : List WireType → (outer : List (Reader Value)) →
    (met : List (Bytes → List Nat)) → Bytes → List Nat
  | [], _, _, _ => []
  | type :: types, outer, met, input =>
      type.lengthsMet outer met input ++
        metBehind (type.read outer) (fun _ rest => lengthsMetByEach types outer met rest) input

def lengthsMetAt : List WireType → (index : Nat) → (outer : List (Reader Value)) →
    (met : List (Bytes → List Nat)) → Bytes → List Nat
  | [], _, _, _, _ => []
  | type :: _, 0, outer, met, input => type.lengthsMet outer met input
  | _ :: types, index + 1, outer, met, input => lengthsMetAt types index outer met input

end

end WireType

/-! ## What is met is what is read -/

/-- A reader meets the lengths of what it reads. -/
def Meets (reader : Reader Value) (met : Bytes → List Nat) : Prop :=
  ∀ input value rest, reader input = .ok (value, rest) → met input = value.lengths

theorem length_of_many {element : Reader Value} {count : Nat} {input rest : Bytes}
    {values : List Value} (ran : Reader.many element count input = .ok (values, rest)) :
    values.length = count := by
  induction count generalizing input values with
  | zero =>
      obtain ⟨rfl, _⟩ := Reader.pure_eq_ok.1 ran
      rfl
  | succ count inductionHypothesis =>
      rw [Reader.many_succ] at ran
      obtain ⟨first, _, _, goesOn⟩ := Reader.bind_eq_ok.1 ran
      obtain ⟨others, othersRead, rfl⟩ := Reader.bind_pure_eq_ok.1 goesOn
      rw [List.length_cons, inductionHypothesis othersRead]

theorem manyMet_eq {element : Reader Value} {met : Bytes → List Nat} (meets : Meets element met)
    {count : Nat} {input rest : Bytes} {values : List Value}
    (ran : Reader.many element count input = .ok (values, rest)) :
    manyMet element met count input = values.flatMap Value.lengths := by
  induction count generalizing input values with
  | zero =>
      obtain ⟨rfl, _⟩ := Reader.pure_eq_ok.1 ran
      rfl
  | succ count inductionHypothesis =>
      rw [Reader.many_succ] at ran
      obtain ⟨first, _, firstRead, goesOn⟩ := Reader.bind_eq_ok.1 ran
      obtain ⟨others, othersRead, rfl⟩ := Reader.bind_pure_eq_ok.1 goesOn
      rw [manyMet, meets _ _ _ firstRead, metBehind_of_ok firstRead,
        inductionHypothesis othersRead, List.flatMap_cons]

theorem meets_unfolded {step : Reader Value → Reader Value}
    {met : Reader Value → (Bytes → List Nat) → Bytes → List Nat}
    (keeps : ∀ reader inner, Meets reader inner → Meets (step reader) (met reader inner))
    (count : Nat) : Meets (Reader.unfolded step count) (unfoldedMet step met count) := by
  induction count with
  | zero => exact fun _ _ _ ran => absurd ran Reader.refuse_ne_ok
  | succ count inductionHypothesis => exact keeps _ _ inductionHypothesis

/-- Readers of the recursive types around a type, and what they meet. -/
def MeetEach (readers : List (Reader Value)) (met : List (Bytes → List Nat)) : Prop :=
  ∀ (depth : Nat) reader, readers[depth]? = some reader →
    ∃ readerMet, met[depth]? = some readerMet ∧ Meets reader readerMet

theorem MeetEach.cons {readers : List (Reader Value)} {met : List (Bytes → List Nat)}
    {reader : Reader Value} {readerMet : Bytes → List Nat} (meets : Meets reader readerMet)
    (meetEach : MeetEach readers met) : MeetEach (reader :: readers) (readerMet :: met) :=
  exists_getElem?_cons meets meetEach

namespace WireType

mutual

/-- The reader of a type meets the lengths of what it reads, if those of the recursive types around
it do. -/
theorem read_meets : ∀ (type : WireType) {readers : List (Reader Value)}
    {met : List (Bytes → List Nat)}, MeetEach readers met →
    Meets (type.read readers) (type.lengthsMet readers met)
  | .bool, _, _, _, _, _, _, ran => by
      obtain ⟨_, _, rfl⟩ := Reader.bind_pure_eq_ok.1 ran
      rfl
  | .char, _, _, _, _, _, _, ran => by
      obtain ⟨_, _, rfl⟩ := Reader.bind_pure_eq_ok.1 ran
      rfl
  | .text, _, _, _, _, _, _, ran => by
      obtain ⟨content, contentRead, rfl⟩ := Reader.bind_pure_eq_ok.1 ran
      obtain ⟨form, isForm, rfl⟩ := Reader.text_eq_ok contentRead
      rw [lengthsMet, List.append_assoc]
      exact metBehind_of_ok (Reader.compact_append isForm _)
  | .float32, _, _, _, _, _, _, ran => by
      obtain ⟨_, _, rfl⟩ := Reader.bind_pure_eq_ok.1 ran
      rfl
  | .float64, _, _, _, _, _, _, ran => by
      obtain ⟨_, _, rfl⟩ := Reader.bind_pure_eq_ok.1 ran
      rfl
  | .integer _, _, _, _, _, _, _, ran => by
      obtain ⟨_, _, rfl⟩ := Reader.bind_pure_eq_ok.1 ran
      rfl
  | .list element, readers, _, meetEach, _, _, _, ran => by
      obtain ⟨count, _, countRead, goesOn⟩ := Reader.bind_eq_ok.1 ran
      obtain ⟨members, membersRead, rfl⟩ := Reader.bind_pure_eq_ok.1 goesOn
      rw [lengthsMet, metBehind_of_ok countRead,
        manyMet_eq (read_meets element meetEach) membersRead, Value.lengths_list,
        length_of_many membersRead]
  | .option content, _, _, meetEach, _, _, _, ran => by
      obtain ⟨isThere, _, presenceRead, goesOn⟩ := Reader.bind_eq_ok.1 ran
      rw [lengthsMet, metBehind_of_ok presenceRead]
      cases isThere with
      | false =>
          obtain ⟨rfl, _⟩ := Reader.pure_eq_ok.1 goesOn
          rfl
      | true =>
          obtain ⟨present, contentRead, rfl⟩ := Reader.bind_pure_eq_ok.1 goesOn
          rw [if_pos rfl, read_meets content meetEach _ _ _ contentRead, Value.lengths_present]
  | .box content, _, _, meetEach, _, _, _, ran => read_meets content meetEach _ _ _ ran
  | .tuple elements, _, _, meetEach, _, _, _, ran => by
      obtain ⟨members, membersRead, rfl⟩ := Reader.bind_pure_eq_ok.1 ran
      rw [lengthsMet, readEach_meets elements meetEach membersRead, Value.lengths_tuple]
  | .record fields, _, _, meetEach, _, _, _, ran => by
      obtain ⟨members, membersRead, rfl⟩ := Reader.bind_pure_eq_ok.1 ran
      rw [lengthsMet, readEach_meets fields meetEach membersRead, Value.lengths_tuple]
  | .choice variants, _, _, meetEach, _, _, _, ran => by
      obtain ⟨index, _, indexRead, goesOn⟩ := Reader.bind_eq_ok.1 ran
      obtain ⟨content, contentRead, rfl⟩ := Reader.bind_pure_eq_ok.1 goesOn
      rw [lengthsMet, metBehind_of_ok indexRead, readAt_meets variants meetEach contentRead,
        Value.lengths_variant]
  | .flattened _ _, _, _, _, _, _, _, ran => by
      obtain ⟨_, _, _, refused⟩ := Reader.bind_eq_ok.1 ran
      exact absurd refused Reader.refuse_ne_ok
  | .sparse fields, _, _, _, _, _, _, ran => by
      obtain ⟨_, _, _, goesOn⟩ := Reader.bind_eq_ok.1 ran
      split at goesOn
      · obtain ⟨rfl, _⟩ := Reader.pure_eq_ok.1 goesOn
        exact (Value.lengths_bare fields.length).symm
      · exact absurd goesOn Reader.refuse_ne_ok
  | .recursive body, _, _, meetEach, _, _, _, ran => by
      rw [lengthsMet]
      exact meets_unfolded (fun _ _ inner => read_meets body (meetEach.cons inner)) _ _ _ _ ran
  | .recur depth, readers, _, meetEach, _, _, _, ran => by
      rw [read] at ran
      cases found : readers[depth]? with
      | some reader =>
          rw [found] at ran
          obtain ⟨readerMet, foundMet, meets⟩ := meetEach depth reader found
          rw [lengthsMet, foundMet]
          exact meets _ _ _ ran
      | none =>
          rw [found] at ran
          exact absurd ran Reader.refuse_ne_ok

private theorem readEach_meets : ∀ (types : List WireType) {readers : List (Reader Value)}
    {met : List (Bytes → List Nat)}, MeetEach readers met →
    ∀ {input : Bytes} {values : List Value} {rest : Bytes},
      readEach types readers input = .ok (values, rest) →
        lengthsMetByEach types readers met input = values.flatMap Value.lengths
  | [], _, _, _, _, _, _, ran => by
      obtain ⟨rfl, _⟩ := Reader.pure_eq_ok.1 ran
      rfl
  | type :: types, _, _, meetEach, _, _, _, ran => by
      obtain ⟨first, _, firstRead, goesOn⟩ := Reader.bind_eq_ok.1 ran
      obtain ⟨others, othersRead, rfl⟩ := Reader.bind_pure_eq_ok.1 goesOn
      rw [lengthsMetByEach, read_meets type meetEach _ _ _ firstRead, metBehind_of_ok firstRead,
        readEach_meets types meetEach othersRead, List.flatMap_cons]

private theorem readAt_meets : ∀ (types : List WireType) {readers : List (Reader Value)}
    {met : List (Bytes → List Nat)}, MeetEach readers met →
    ∀ {index : Nat} {error : DecodeError} {input : Bytes} {value : Value} {rest : Bytes},
      readAt types index error readers input = .ok (value, rest) →
        lengthsMetAt types index readers met input = value.lengths
  | [], _, _, _, _, _, _, _, _, ran => absurd ran Reader.refuse_ne_ok
  | type :: _, _, _, meetEach, 0, _, _, _, _, ran => read_meets type meetEach _ _ _ ran
  | _ :: types, _, _, meetEach, _ + 1, _, _, _, _, ran => readAt_meets types meetEach ran

end

/-- The lengths that are met when an input is decoded are those of what it is decoded as. -/
theorem lengthsMet_of_decode {type : WireType} {input : Bytes} {member : type.Member}
    (decoded : type.decode input = .ok member) :
    type.lengthsMet [] [] input = member.val.lengths := by
  have meetNone : MeetEach [] [] := fun _ _ found => by simp at found
  exact read_meets type meetNone _ _ _ (readMember_eq_ok.1 (decode_eq_ok.1 decoded))

end WireType

end RemoteCall.Wire
