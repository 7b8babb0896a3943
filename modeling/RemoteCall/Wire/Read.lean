import RemoteCall.Wire.Reader
import RemoteCall.Wire.Type

/-!
Contract: reading a value of a type, and the fact that what is read belongs to the type.

Owns:
- the reader of every type, by recursion on the type;
- `read_conforms`: a value that is read belongs to the type it is read as;
- decoding, which reads one member of a type and wants nothing left over.

Does not own: agreement with writing.
-/

namespace RemoteCall.Wire

set_option autoImplicit false

/-- The length that callers are told to keep to, 64 MiB. Reading does not look at it: a length above
it runs out of input like any other that is too large. -/
def advisedLength : Nat := 64 * 1024 * 1024

namespace WireType

mutual

/-- Reads a value of a type; `outer` holds the readers of the recursive types around it. -/
def read : WireType → (outer : List (Reader Value)) → Reader Value
  | .bool, _ => return .bool (← Reader.bool)
  | .char, _ => return .char (← Reader.char)
  | .text, _ => return .text (← Reader.text)
  | .float32, _ => return .float32 (UInt32.ofNat (← Reader.littleEndian 4))
  | .float64, _ => return .float64 (UInt64.ofNat (← Reader.littleEndian 8))
  | .integer format, _ => return .integer format (← Reader.integer format)
  | .list element, outer => do
      let count ← Reader.length
      return .list (← Reader.many (element.read outer) count)
  | .option content, outer => do
      if ← Reader.presence then return .present (← content.read outer) else return .absent
  | .box content, outer => content.read outer
  | .tuple elements, outer => return .tuple (← readEach elements outer)
  | .record fields, outer => return .tuple (← readEach fields outer)
  | .choice variants, outer => do
      let index := (← Reader.integer .u32).toNat
      return .variant index (← readAt variants index (.unknownVariant index variants.length) outer)
  | .flattened required _, _ => do
      let count ← Reader.length
      Reader.refuse (if count = 0 then .missingField required else .fieldByName)
  | .sparse fields, _ => do
      let count ← Reader.length
      if count = 0 then return .bare fields.length else Reader.refuse .fieldByName
  | .recursive body, outer => Reader.fix fun self => body.read (self :: outer)
  | .recur depth, outer =>
      match outer[depth]? with
      | some reader => reader
      | none => Reader.refuse .endOfInput

def readEach : List WireType → (outer : List (Reader Value)) → Reader (List Value)
  | [], _ => return []
  | type :: types, outer => do
      let first ← type.read outer
      let others ← readEach types outer
      return first :: others

/-- Reads a value of the type at a place of a list, or refuses with `error` if there is none. -/
def readAt : List WireType → (index : Nat) → (error : DecodeError) →
    (outer : List (Reader Value)) → Reader Value
  | [], _, error, _ => Reader.refuse error
  | type :: _, 0, _, outer => type.read outer
  | _ :: types, index + 1, error, outer => readAt types index error outer

end

/-! ## What is read belongs to the type -/

def ReadsInto (reader : Reader Value) (set : Value → Prop) : Prop :=
  ∀ input value rest, reader input = .ok (value, rest) → set value

/-- Readers and sets that go together, binder by binder. -/
inductive ReadsEachInto : List (Reader Value) → List (Value → Prop) → Prop where
  | nil : ReadsEachInto [] []
  | cons {reader : Reader Value} {set : Value → Prop} {readers : List (Reader Value)}
      {sets : List (Value → Prop)} :
      ReadsInto reader set → ReadsEachInto readers sets →
      ReadsEachInto (reader :: readers) (set :: sets)

/-- A recursive reader reads into the unfoldings of a set if its step does. -/
private theorem readsInto_unfolded {step : Reader Value → Reader Value}
    {grow : (Value → Prop) → Value → Prop}
    (sound : ∀ reader set, ReadsInto reader set → ReadsInto (step reader) (grow set)) :
    ∀ count, ReadsInto (Reader.unfolded step count) (unfoldedSet grow count)
  | 0 => fun _ _ _ ran => absurd ran Reader.refuse_ne_ok
  | count + 1 => sound _ _ (readsInto_unfolded sound count)

private theorem readsInto_at {readers : List (Reader Value)} {sets : List (Value → Prop)}
    (matching : ReadsEachInto readers sets) :
    ∀ {depth : Nat} {reader : Reader Value}, readers[depth]? = some reader →
      ∃ set, sets[depth]? = some set ∧ ReadsInto reader set := by
  induction matching with
  | nil => intro depth reader found; simp at found
  | @cons head set readers sets sound _ inductionHypothesis =>
      intro depth reader found
      cases depth with
      | zero =>
          simp only [List.getElem?_cons_zero, Option.some.injEq] at found
          subst found
          exact ⟨set, by simp, sound⟩
      | succ depth => simpa using inductionHypothesis (by simpa using found)

mutual

/-- What is read as a type, in matching surroundings, belongs to it. -/
theorem read_conforms : ∀ (type : WireType) {readers : List (Reader Value)}
    {sets : List (Value → Prop)}, ReadsEachInto readers sets →
    ReadsInto (type.read readers) (type.Conforms sets)
  | .bool, _, _, _, _, _, _, ran => by
      obtain ⟨truth, _, _, ran⟩ := Reader.bind_eq_ok.1 ran
      exact ⟨truth, (Reader.pure_eq_ok.1 ran).1.symm⟩
  | .char, _, _, _, _, _, _, ran => by
      obtain ⟨character, _, _, ran⟩ := Reader.bind_eq_ok.1 ran
      exact ⟨character, (Reader.pure_eq_ok.1 ran).1.symm⟩
  | .text, _, _, _, _, _, _, ran => by
      obtain ⟨content, _, _, ran⟩ := Reader.bind_eq_ok.1 ran
      exact ⟨content, (Reader.pure_eq_ok.1 ran).1.symm⟩
  | .float32, _, _, _, _, _, _, ran => by
      obtain ⟨bits, _, _, ran⟩ := Reader.bind_eq_ok.1 ran
      exact ⟨_, (Reader.pure_eq_ok.1 ran).1.symm⟩
  | .float64, _, _, _, _, _, _, ran => by
      obtain ⟨bits, _, _, ran⟩ := Reader.bind_eq_ok.1 ran
      exact ⟨_, (Reader.pure_eq_ok.1 ran).1.symm⟩
  | .integer format, _, _, _, _, _, _, ran => by
      obtain ⟨number, _, numberRan, ran⟩ := Reader.bind_eq_ok.1 ran
      exact ⟨number, (Reader.pure_eq_ok.1 ran).1.symm, Reader.holds_of_integer numberRan⟩
  | .list element, _, _, matching, _, _, _, ran => by
      obtain ⟨count, _, _, ran⟩ := Reader.bind_eq_ok.1 ran
      obtain ⟨members, _, membersRan, ran⟩ := Reader.bind_eq_ok.1 ran
      exact ⟨members, (Reader.pure_eq_ok.1 ran).1.symm,
        Reader.forall_of_many (read_conforms element matching) membersRan⟩
  | .option content, _, _, matching, _, _, _, ran => by
      obtain ⟨isThere, _, _, ran⟩ := Reader.bind_eq_ok.1 ran
      cases isThere with
      | false => exact .inl (Reader.pure_eq_ok.1 ran).1.symm
      | true =>
          obtain ⟨inner, _, innerRan, ran⟩ := Reader.bind_eq_ok.1 ran
          exact .inr ⟨inner, (Reader.pure_eq_ok.1 ran).1.symm,
            read_conforms content matching _ _ _ innerRan⟩
  | .box content, _, _, matching, _, _, _, ran => read_conforms content matching _ _ _ ran
  | .tuple elements, _, _, matching, _, _, _, ran => by
      obtain ⟨members, _, membersRan, ran⟩ := Reader.bind_eq_ok.1 ran
      exact ⟨members, (Reader.pure_eq_ok.1 ran).1.symm,
        readEach_conform elements matching membersRan⟩
  | .record fields, _, _, matching, _, _, _, ran => by
      obtain ⟨members, _, membersRan, ran⟩ := Reader.bind_eq_ok.1 ran
      exact ⟨members, (Reader.pure_eq_ok.1 ran).1.symm,
        readEach_conform fields matching membersRan⟩
  | .choice variants, _, _, matching, _, _, _, ran => by
      obtain ⟨index, _, indexRan, ran⟩ := Reader.bind_eq_ok.1 ran
      obtain ⟨inner, _, innerRan, ran⟩ := Reader.bind_eq_ok.1 ran
      have bounded : index.toNat < variantBound := by
        obtain ⟨lower, upper⟩ := Reader.holds_of_integer indexRan
        exact (Int.toNat_lt lower).2 upper
      exact ⟨index.toNat, inner, (Reader.pure_eq_ok.1 ran).1.symm, bounded,
        readAt_conforms variants matching innerRan⟩
  | .flattened required content, _, _, _, _, _, _, ran => by
      obtain ⟨count, _, _, ran⟩ := Reader.bind_eq_ok.1 ran
      exact absurd ran Reader.refuse_ne_ok
  | .sparse fields, _, _, _, _, _, _, ran => by
      obtain ⟨count, _, _, ran⟩ := Reader.bind_eq_ok.1 ran
      split at ran
      · exact ⟨_, (Reader.pure_eq_ok.1 ran).1.symm, conformGiven_bare fields _⟩
      · exact absurd ran Reader.refuse_ne_ok
  | .recursive body, _, _, matching, input, _, _, ran =>
      ⟨input.length + 1,
        readsInto_unfolded (fun _ _ sound => read_conforms body (.cons sound matching)) _ _ _ _ ran⟩
  | .recur depth, readers, _, matching, _, _, _, ran => by
      rw [read] at ran
      cases found : readers[depth]? with
      | some reader =>
          rw [found] at ran
          obtain ⟨set, foundSet, sound⟩ := readsInto_at matching found
          exact ⟨set, foundSet, sound _ _ _ ran⟩
      | none =>
          rw [found] at ran
          exact absurd ran Reader.refuse_ne_ok

private theorem readEach_conform : ∀ (types : List WireType) {readers : List (Reader Value)}
    {sets : List (Value → Prop)}, ReadsEachInto readers sets →
    ∀ {input : Bytes} {values : List Value} {rest : Bytes},
      readEach types readers input = .ok (values, rest) → ConformEach types sets values
  | [], _, _, _, _, _, _, ran => (Reader.pure_eq_ok.1 ran).1.symm
  | type :: types, _, _, matching, _, _, _, ran => by
      obtain ⟨first, _, firstRan, ran⟩ := Reader.bind_eq_ok.1 ran
      obtain ⟨others, _, othersRan, ran⟩ := Reader.bind_eq_ok.1 ran
      exact ⟨first, others, (Reader.pure_eq_ok.1 ran).1.symm,
        read_conforms type matching _ _ _ firstRan, readEach_conform types matching othersRan⟩

private theorem readAt_conforms : ∀ (types : List WireType) {readers : List (Reader Value)}
    {sets : List (Value → Prop)}, ReadsEachInto readers sets →
    ∀ {index : Nat} {error : DecodeError} {input : Bytes} {value : Value} {rest : Bytes},
      readAt types index error readers input = .ok (value, rest) →
        ConformsAt types index sets value
  | [], _, _, _, _, _, _, _, _, ran => absurd ran Reader.refuse_ne_ok
  | type :: _, _, _, matching, 0, _, _, _, _, ran => read_conforms type matching _ _ _ ran
  | _ :: types, _, _, matching, _ + 1, _, _, _, _, ran => readAt_conforms types matching ran

end

/-! ## Members -/

/-- The member of the type at the front of the input, and the rest. -/
def readMember (type : WireType) (input : Bytes) : Except DecodeError (type.Member × Bytes) :=
  match ran : type.read [] input with
  | .error error => .error error
  | .ok (value, rest) => .ok (⟨value, read_conforms type .nil _ _ _ ran⟩, rest)

/-- The member of the type that the whole input spells. -/
def decode (type : WireType) (input : Bytes) : Except DecodeError type.Member :=
  match type.readMember input with
  | .error error => .error error
  | .ok (member, []) => .ok member
  | .ok (_, _ :: _) => .error .leftover

end WireType

end RemoteCall.Wire
