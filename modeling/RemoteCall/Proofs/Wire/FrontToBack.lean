import RemoteCall.Proofs.Wire.RoundTrip
import RemoteCall.Proofs.Wire.Taken

/-!
Contract: reading looks at its input front to back, and at nothing behind what it takes.

Owns:
- the errors that say that input is missing;
- readers that go on in the same way when their input goes on, and the fact that the reader of every
  type is one, recursive types included;
- decoding the beginnings and the continuations of an input.

An error that does not say that input is missing stands by what was read so far, so no continuation
of the input changes it.

Does not own: which of these errors an input that is cut off ends with.
-/

namespace RemoteCall.Wire

set_option autoImplicit false

/-- The input ends too early: before a byte that is needed, within a text, or within a character. -/
inductive DecodeError.MissesInput : DecodeError → Prop
  | endOfInput : MissesInput .endOfInput
  | textTooShort : MissesInput .textTooShort
  | invalidChar : MissesInput .invalidChar

/-- These are the three things that are said of an input that ends too early. -/
theorem DecodeError.MissesInput.message_mem {error : DecodeError} (misses : error.MissesInput) :
    error.message ∈ ["decode error: io error: unexpected end of file",
      "decode error: io error: ", "decode error: char is not valid"] := by
  cases misses <;> decide

namespace Reader

variable {α β : Type}

/-! ## Readers that go on in the same way -/

/-- What a reader makes of an input, another one makes of the inputs that it starts: it takes the
same and leaves what follows as well, or it is refused for the same reason, unless this is that
input is missing. -/
structure Extends (reader longer : Reader α) : Prop where
  taken : ∀ {input rest : Bytes} {value : α}, reader input = .ok (value, rest) →
    ∀ more, longer (input ++ more) = .ok (value, rest ++ more)
  refused : ∀ {input : Bytes} {error : DecodeError}, reader input = .error error →
    ¬ error.MissesInput → ∀ more, longer (input ++ more) = .error error

theorem bind_eq_error {first : Reader α} {next : α → Reader β} {input : Bytes}
    {error : DecodeError} :
    (first >>= next) input = .error error ↔ first input = .error error ∨
      ∃ value middle, first input = .ok (value, middle) ∧ next value middle = .error error := by
  simp only [bind, StateT.bind, Except.bind]
  cases first input with
  | error found => simp
  | ok outcome =>
      obtain ⟨value, middle⟩ := outcome
      simp only [reduceCtorEq, false_or, Except.ok.injEq, Prod.mk.injEq]
      constructor
      · exact fun ran => ⟨value, middle, ⟨rfl, rfl⟩, ran⟩
      · rintro ⟨_, _, ⟨rfl, rfl⟩, ran⟩
        exact ran

theorem bind_of_error {first : Reader α} {next : α → Reader β} {input : Bytes}
    {error : DecodeError} (refused : first input = .error error) :
    (first >>= next) input = .error error :=
  bind_eq_error.2 (.inl refused)

theorem bind_of_ok {first : Reader α} {next : α → Reader β} {input middle : Bytes} {value : α}
    (taken : first input = .ok (value, middle)) :
    (first >>= next) input = next value middle := by
  simp only [bind, StateT.bind, Except.bind, taken]

theorem Extends.pure (value : α) : Extends (pure value : Reader α) (pure value) where
  taken ran more := by
    obtain ⟨rfl, rfl⟩ := pure_eq_ok.1 ran
    rfl
  refused ran := nomatch ran

theorem Extends.refuse (error : DecodeError) :
    Extends (refuse error : Reader α) (refuse error) where
  taken ran := absurd ran refuse_ne_ok
  refused ran _ _ := by
    cases ran
    rfl

theorem Extends.ofMissing {error : DecodeError} (misses : error.MissesInput) (longer : Reader α) :
    Extends (Reader.refuse error) longer where
  taken ran := absurd ran refuse_ne_ok
  refused ran keeps := by
    cases ran
    exact absurd misses keeps

theorem Extends.bind {first longerFirst : Reader α} {next longerNext : α → Reader β}
    (firstExtends : Extends first longerFirst)
    (nextExtends : ∀ value, Extends (next value) (longerNext value)) :
    Extends (first >>= next) (longerFirst >>= longerNext) where
  taken ran more := by
    obtain ⟨value, middle, firstRan, ran⟩ := bind_eq_ok.1 ran
    exact bind_eq_ok.2 ⟨value, middle ++ more, firstExtends.taken firstRan more,
      (nextExtends value).taken ran more⟩
  refused ran keeps more := by
    rcases bind_eq_error.1 ran with firstRan | ⟨value, middle, firstRan, ran⟩
    · exact bind_eq_error.2 (.inl (firstExtends.refused firstRan keeps more))
    · exact bind_eq_error.2 (.inr ⟨value, middle ++ more, firstExtends.taken firstRan more,
        (nextExtends value).refused ran keeps more⟩)

/-! ## Values that hold no others -/

theorem extends_byte : Extends byte byte where
  taken ran more := by
    rw [byte_eq_ok ran]
    rfl
  refused {input _} ran keeps more := by
    cases input with
    | nil =>
        cases ran
        exact absurd .endOfInput keeps
    | cons first others => cases ran

theorem extends_take (count : Nat) {error : DecodeError} (misses : error.MissesInput) :
    Extends (take count error) (take count error) where
  taken ran more := by
    obtain ⟨rfl, rfl⟩ := take_eq_ok ran
    rw [List.append_assoc]
    exact take_append _ _ _
  refused ran keeps more := by
    unfold take at ran
    split at ran
    · cases ran
    · cases ran
      exact absurd misses keeps

theorem extends_littleEndian (width : Nat) : Extends (littleEndian width) (littleEndian width) :=
  (extends_take width .endOfInput).bind fun word => .pure (Bytes.ofLittleEndian word)

/-- A byte that stands for a flag is looked at alone. -/
private theorem extends_flag (refusal : Nat → DecodeError) (first : UInt8) :
    let decided : Reader Bool := match first.toNat with
      | 0 => return false
      | 1 => return true
      | found => refuse (refusal found)
    Extends decided decided := by
  intro decided
  subst decided
  split
  · exact .pure false
  · exact .pure true
  · exact .refuse _

theorem extends_bool : Extends bool bool :=
  extends_byte.bind (extends_flag .invalidBool)

theorem extends_presence : Extends presence presence :=
  extends_byte.bind (extends_flag .invalidOption)

theorem extends_compact (wide : Bool) : Extends (compact wide) (compact wide) := by
  refine extends_byte.bind fun marker => ?_
  split
  · exact .pure _
  split
  · exact extends_littleEndian 2
  split
  · exact extends_littleEndian 4
  split
  · exact extends_littleEndian 8
  split
  · split
    · exact extends_littleEndian 16
    · exact .refuse _
  · exact .refuse _

theorem extends_integer (format : IntegerFormat) : Extends (integer format) (integer format) := by
  unfold integer
  split
  · exact extends_byte.bind fun first => .pure (byteNumber format.signed first.toNat)
  · refine (extends_compact _).bind fun place => ?_
    simp only
    split
    · exact .pure _
    · exact .refuse _

theorem extends_char : Extends char char where
  taken ran more := by
    rw [char_eq_ok ran, List.append_assoc]
    exact char_append _ _
  refused {input error} ran keeps more := by
    -- every refusal of a character is one that says that input is missing
    have misses : error.MissesInput := by
      cases input with
      | nil =>
          cases ran
          exact .endOfInput
      | cons first others =>
          rw [char] at ran
          split at ran
          · cases ran
            exact .invalidChar
          · unfold take at ran
            split at ran
            · rename_i refused
              split at refused
              · cases refused
              · cases refused
                cases ran
                exact .invalidChar
            · split at ran
              · cases ran
              · cases ran
                exact .invalidChar
    exact absurd misses keeps

theorem extends_text : Extends text text := by
  refine (extends_compact false).bind fun count => (extends_take count .textTooShort).bind
    fun bytes => ?_
  split
  · exact .pure _
  · exact .refuse _

/-! ## Repetition and recursion -/

theorem Extends.many {element longer : Reader α} (elementExtends : Extends element longer)
    (count : Nat) : Extends (many element count) (many longer count) := by
  induction count with
  | zero => exact .pure []
  | succ count inductionHypothesis =>
      rw [many_succ, many_succ]
      exact elementExtends.bind fun first => inductionHypothesis.bind fun others =>
        .pure (first :: others)

/-- Where the input is longer, a reader may come back to itself more often. -/
theorem Extends.unfolded {step longerStep : Reader α → Reader α}
    (stepExtends : ∀ reader longer, Extends reader longer →
      Extends (step reader) (longerStep longer))
    {count longerCount : Nat} (notMore : count ≤ longerCount) :
    Extends (unfolded step count) (unfolded longerStep longerCount) := by
  induction count generalizing longerCount with
  | zero => exact .ofMissing .endOfInput _
  | succ count inductionHypothesis =>
      obtain ⟨longerCount, rfl⟩ : ∃ less, longerCount = less + 1 := ⟨longerCount - 1, by omega⟩
      exact stepExtends _ _ (inductionHypothesis (by omega))

theorem Extends.fix {step longerStep : Reader α → Reader α}
    (stepExtends : ∀ reader longer, Extends reader longer →
      Extends (step reader) (longerStep longer)) :
    Extends (fix step) (fix longerStep) := by
  have deeper (input more : Bytes) : input.length + 1 ≤ (input ++ more).length + 1 := by
    rw [List.length_append]
    omega
  have unfoldedExtends (input more : Bytes) := Extends.unfolded stepExtends (deeper input more)
  exact ⟨fun {input _ _} ran more => (unfoldedExtends input more).taken ran more,
    fun {input _} ran keeps more => (unfoldedExtends input more).refused ran keeps more⟩

end Reader

/-! ## Every type -/

namespace WireType

open Reader (Extends)

/-- Readers of the recursive types around a type that go on in the same way. -/
def ExtendEach (readers longer : List (Reader Value)) : Prop :=
  ∀ (depth : Nat) reader, readers[depth]? = some reader →
    ∃ other, longer[depth]? = some other ∧ Extends reader other

theorem ExtendEach.cons {readers longer : List (Reader Value)} {reader other : Reader Value}
    (first : Extends reader other) (each : ExtendEach readers longer) :
    ExtendEach (reader :: readers) (other :: longer) :=
  exists_getElem?_cons first each

mutual

/-- The reader of a type goes on in the same way, if those of the recursive types around it do. -/
theorem read_extends : ∀ (type : WireType) {readers longer : List (Reader Value)},
    ExtendEach readers longer → Extends (type.read readers) (type.read longer)
  | .bool, _, _, _ => Reader.extends_bool.bind fun _ => .pure _
  | .char, _, _, _ => Reader.extends_char.bind fun _ => .pure _
  | .text, _, _, _ => Reader.extends_text.bind fun _ => .pure _
  | .float32, _, _, _ => (Reader.extends_littleEndian 4).bind fun _ => .pure _
  | .float64, _, _, _ => (Reader.extends_littleEndian 8).bind fun _ => .pure _
  | .integer format, _, _, _ => (Reader.extends_integer format).bind fun _ => .pure _
  | .list element, _, _, each =>
      (Reader.extends_compact false).bind fun count =>
        ((read_extends element each).many count).bind fun _ => .pure _
  | .option content, _, _, each => by
      refine Reader.extends_presence.bind fun isThere => ?_
      cases isThere with
      | false => exact .pure _
      | true => exact (read_extends content each).bind fun _ => .pure _
  | .box content, _, _, each => read_extends content each
  | .tuple elements, _, _, each => (readEach_extends elements each).bind fun _ => .pure _
  | .record fields, _, _, each => (readEach_extends fields each).bind fun _ => .pure _
  | .choice variants, _, _, each =>
      (Reader.extends_integer .u32).bind fun _ =>
        (readAt_extends variants each).bind fun _ => .pure _
  | .flattened _ _, _, _, _ => (Reader.extends_compact false).bind fun _ => .refuse _
  | .sparse _, _, _, _ => by
      refine (Reader.extends_compact false).bind fun count => ?_
      split
      · exact .pure _
      · exact .refuse _
  | .recursive body, _, _, each =>
      Extends.fix fun _ _ inner => read_extends body (each.cons inner)
  | .recur depth, readers, longer, each => by
      rw [read, read]
      cases found : readers[depth]? with
      | none => exact .ofMissing .endOfInput _
      | some reader =>
          obtain ⟨other, foundOther, readerExtends⟩ := each depth reader found
          rw [foundOther]
          exact readerExtends

private theorem readEach_extends : ∀ (types : List WireType) {readers longer : List (Reader Value)},
    ExtendEach readers longer → Extends (readEach types readers) (readEach types longer)
  | [], _, _, _ => .pure []
  | type :: types, _, _, each =>
      (read_extends type each).bind fun _ => (readEach_extends types each).bind fun _ => .pure _

private theorem readAt_extends : ∀ (types : List WireType) {index : Nat} {error : DecodeError}
    {readers longer : List (Reader Value)}, ExtendEach readers longer →
    Extends (readAt types index error readers) (readAt types index error longer)
  | [], _, _, _, _, _ => .refuse _
  | type :: _, 0, _, _, _, each => read_extends type each
  | _ :: types, _ + 1, _, _, _, each => readAt_extends types each

end

/-! ## Decoding -/

variable {type : WireType} {input : Bytes} {error : DecodeError}

theorem readMember_eq_error :
    type.readMember input = .error error ↔ type.read [] input = .error error := by
  unfold readMember
  split
  · rename_i found refused
    rw [refused, Except.error.injEq, Except.error.injEq]
  · rename_i value rest ran
    simp [ran]

theorem decode_eq_error :
    type.decode input = .error error ↔ type.readMember input = .error error ∨
      error = .leftover ∧
        ∃ member rest, type.readMember input = .ok (member, rest) ∧ rest ≠ [] := by
  unfold decode
  split
  · rename_i found refused
    simp [refused]
  · rename_i member read
    simp [read]
  · rename_i member byte rest read
    rw [read]
    constructor
    · intro same
      cases same
      exact .inr ⟨rfl, member, byte :: rest, rfl, List.cons_ne_nil _ _⟩
    · rintro (stopped | ⟨rfl, _⟩)
      · cases stopped
      · rfl

theorem read_extends_itself (type : WireType) : Extends (type.read []) (type.read []) :=
  read_extends type fun _ _ found => by simp at found

/-- What is read at the front of an input is read at the front of every continuation. -/
theorem readMember_append_of_ok {member : type.Member} {rest : Bytes}
    (read : type.readMember input = .ok (member, rest)) (more : Bytes) :
    type.readMember (input ++ more) = .ok (member, rest ++ more) :=
  readMember_eq_ok.2 (type.read_extends_itself.taken (readMember_eq_ok.1 read) more)

theorem readMember_append_of_error (refused : type.readMember input = .error error)
    (keeps : ¬ error.MissesInput) (more : Bytes) :
    type.readMember (input ++ more) = .error error :=
  readMember_eq_error.2
    (type.read_extends_itself.refused (readMember_eq_error.1 refused) keeps more)

/-- Nothing may follow an input that is decoded. -/
theorem decode_append_of_ok {member : type.Member} (decoded : type.decode input = .ok member)
    {more : Bytes} (goesOn : more ≠ []) : type.decode (input ++ more) = .error .leftover := by
  have read := readMember_append_of_ok (decode_eq_ok.1 decoded) more
  exact decode_eq_error.2 (.inr ⟨rfl, member, more, read, goesOn⟩)

/-- An error that does not say that input is missing is met in every continuation. -/
theorem decode_append_of_error (refused : type.decode input = .error error)
    (keeps : ¬ error.MissesInput) (more : Bytes) : type.decode (input ++ more) = .error error := by
  rcases decode_eq_error.1 refused with stopped | ⟨isLeftover, member, rest, read, isLeft⟩
  · exact decode_eq_error.2 (.inl (readMember_append_of_error stopped keeps more))
  · refine decode_eq_error.2 (.inr ⟨isLeftover, member, rest ++ more, ?_, by simp [isLeft]⟩)
    exact readMember_append_of_ok read more

/-- What starts an input that is decoded, and is not all of it, ends too early. -/
theorem decode_of_append {member : type.Member} {start more : Bytes}
    (decoded : type.decode (start ++ more) = .ok member) (isCut : more ≠ []) :
    ∃ error, type.decode start = .error error ∧ error.MissesInput := by
  cases started : type.decode start with
  | ok earlier =>
      rw [decode_append_of_ok started isCut] at decoded
      cases decoded
  | error error =>
      refine ⟨error, rfl, Classical.byContradiction fun keeps => ?_⟩
      rw [decode_append_of_error started keeps more] at decoded
      cases decoded

end WireType

end RemoteCall.Wire
