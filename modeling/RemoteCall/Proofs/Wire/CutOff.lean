import RemoteCall.Proofs.Wire.FrontToBack
import RemoteCall.Proofs.Wire.Recursion
import RemoteCall.Proofs.Wire.Shortest

/-!
Contract: a spelling that is cut off is refused, and the error says where it was cut.

Owns:
- the spellings of a value that are cut off, with the error that each of them ends with;
- the fact that the reader of every type, recursive types included, ends with it;
- decoding an input, its beginnings and its continuations.

A spelling that is cut within the bytes of a text or of a character is told apart from one that is
cut anywhere else. Behind a value that is there in full, the reader goes on like on any other input,
so only the part in which the cut lies is looked into.

Does not own: inputs that start no spelling.
-/

namespace RemoteCall.Wire

set_option autoImplicit false

/-! ## Bytes that are cut off -/

/-- The front of some bytes, of which at least one is missing. -/
def CutFrom (start whole : Bytes) : Prop :=
  ∃ missing, missing ≠ [] ∧ whole = start ++ missing

theorem CutFrom.length_lt {start whole : Bytes} (cut : CutFrom start whole) :
    start.length < whole.length := by
  obtain ⟨missing, someMissing, rfl⟩ := cut
  have missingPos := List.length_pos_iff.2 someMissing
  rw [List.length_append]
  omega

theorem cutFrom_cons {start others : Bytes} {first : UInt8} :
    CutFrom start (first :: others) ↔ start = [] ∨ ∃ part, start = first :: part ∧
      CutFrom part others := by
  constructor
  · rintro ⟨missing, someMissing, same⟩
    cases start with
    | nil => exact .inl rfl
    | cons head part =>
        cases same
        exact .inr ⟨part, rfl, missing, someMissing, rfl⟩
  · rintro (rfl | ⟨part, rfl, missing, someMissing, rfl⟩)
    · exact ⟨first :: others, List.cons_ne_nil _ _, rfl⟩
    · exact ⟨missing, someMissing, rfl⟩

/-- The cut is in the first part, or in the second behind all of the first. -/
theorem cutFrom_append {start front back : Bytes} (cut : CutFrom start (front ++ back)) :
    CutFrom start front ∨ ∃ part, start = front ++ part ∧ CutFrom part back := by
  obtain ⟨missing, someMissing, same⟩ := cut
  rcases List.append_eq_append_iff.1 same with ⟨part, rfl, rfl⟩ | ⟨missed, rfl, rfl⟩
  · exact .inr ⟨part, rfl, missing, someMissing, rfl⟩
  · by_cases noneMissed : missed = []
    · subst noneMissed
      exact .inr ⟨[], by simp, back, someMissing, rfl⟩
    · exact .inl ⟨missed, noneMissed, rfl⟩

/-! ## Spellings that are cut off -/

namespace Value

/-- A spelling of a value is cut off, and what follows is asked for byte by byte. -/
def CutAnywhere (value : Value) (start : Bytes) (error : DecodeError) : Prop :=
  error = .endOfInput ∧ ∃ whole, value.SpelledBy whole ∧ CutFrom start whole

mutual

/-- The bytes are a spelling of a value that is cut off, and the error says where: within the bytes
of a text, within those of a character, or anywhere else. -/
def CutOff : Value → (start : Bytes) → DecodeError → Prop
  | .char character, start, error =>
      CutFrom start (Utf8.ofChar character) ∧
        error = if start = [] then .endOfInput else .invalidChar
  | .text content, start, error =>
      ∃ form, CompactForm false (Utf8.encode content).length form ∧
        (CutFrom start form ∧ error = .endOfInput ∨
          ∃ part, start = form ++ part ∧ CutFrom part (Utf8.encode content) ∧
            error = .textTooShort)
  | .list elements, start, error =>
      ∃ form, CompactForm false elements.length form ∧
        (CutFrom start form ∧ error = .endOfInput ∨
          ∃ part, start = form ++ part ∧ CutOffEach elements part error)
  | .present content, start, error =>
      start = [] ∧ error = .endOfInput ∨ ∃ part, start = 1 :: part ∧ content.CutOff part error
  | .tuple elements, start, error => CutOffEach elements start error
  | .variant index content, start, error =>
      ∃ form, CompactForm false index form ∧
        (CutFrom start form ∧ error = .endOfInput ∨
          ∃ part, start = form ++ part ∧ content.CutOff part error)
  | .flattened _, _, _ => False
  | .sparse fields, start, error => (Value.sparse fields).CutAnywhere start error
  | .bool truth, start, error => (Value.bool truth).CutAnywhere start error
  | .float32 bits, start, error => (Value.float32 bits).CutAnywhere start error
  | .float64 bits, start, error => (Value.float64 bits).CutAnywhere start error
  | .integer format number, start, error => (Value.integer format number).CutAnywhere start error
  | .absent, start, error => Value.absent.CutAnywhere start error

/-- The spellings of some values, one after the other, are cut off: one of them is, and those before
it are there in full. -/
def CutOffEach : List Value → (start : Bytes) → DecodeError → Prop
  | [], _, _ => False
  | first :: others, start, error =>
      first.CutOff start error ∨
        ∃ head part, first.SpelledBy head ∧ start = head ++ part ∧ CutOffEach others part error

end

mutual

/-- Whatever is cut off a spelling, there is an error for it. -/
theorem exists_cutOff : ∀ (value : Value) {whole start : Bytes}, value.SpelledBy whole →
    CutFrom start whole → ∃ error, value.CutOff start error
  | .char character, _, _, spelled, cut => by
      cases spelled
      exact ⟨_, cut, rfl⟩
  | .text content, _, _, spelled, cut => by
      obtain ⟨form, isForm, rfl⟩ := spelled
      rcases cutFrom_append cut with inForm | ⟨part, rfl, inContent⟩
      · exact ⟨_, form, isForm, .inl ⟨inForm, rfl⟩⟩
      · exact ⟨_, form, isForm, .inr ⟨part, rfl, inContent, rfl⟩⟩
  | .list elements, _, _, spelled, cut => by
      obtain ⟨form, body, isForm, eachSpelled, rfl⟩ := spelled
      rcases cutFrom_append cut with inForm | ⟨part, rfl, inBody⟩
      · exact ⟨_, form, isForm, .inl ⟨inForm, rfl⟩⟩
      · obtain ⟨error, isCut⟩ := exists_cutOffEach elements eachSpelled inBody
        exact ⟨error, form, isForm, .inr ⟨part, rfl, isCut⟩⟩
  | .present content, _, _, spelled, cut => by
      obtain ⟨body, contentSpelled, rfl⟩ := spelled
      rcases cutFrom_cons.1 cut with rfl | ⟨part, rfl, inBody⟩
      · exact ⟨_, .inl ⟨rfl, rfl⟩⟩
      · obtain ⟨error, isCut⟩ := exists_cutOff content contentSpelled inBody
        exact ⟨error, .inr ⟨part, rfl, isCut⟩⟩
  | .tuple elements, _, _, spelled, cut => exists_cutOffEach elements spelled cut
  | .variant index content, _, _, spelled, cut => by
      obtain ⟨form, body, isForm, contentSpelled, rfl⟩ := spelled
      rcases cutFrom_append cut with inForm | ⟨part, rfl, inBody⟩
      · exact ⟨_, form, isForm, .inl ⟨inForm, rfl⟩⟩
      · obtain ⟨error, isCut⟩ := exists_cutOff content contentSpelled inBody
        exact ⟨error, form, isForm, .inr ⟨part, rfl, isCut⟩⟩
  | .flattened _, _, _, spelled, _ => spelled.elim
  | .sparse _, whole, _, spelled, cut => ⟨_, rfl, whole, spelled, cut⟩
  | .bool _, whole, _, spelled, cut => ⟨_, rfl, whole, spelled, cut⟩
  | .float32 _, whole, _, spelled, cut => ⟨_, rfl, whole, spelled, cut⟩
  | .float64 _, whole, _, spelled, cut => ⟨_, rfl, whole, spelled, cut⟩
  | .integer _ _, whole, _, spelled, cut => ⟨_, rfl, whole, spelled, cut⟩
  | .absent, whole, _, spelled, cut => ⟨_, rfl, whole, spelled, cut⟩

private theorem exists_cutOffEach : ∀ (values : List Value) {whole start : Bytes},
    SpelledByEach values whole → CutFrom start whole → ∃ error, CutOffEach values start error
  | [], _, _, spelled, cut => by
      cases spelled
      exact absurd cut.length_lt (Nat.not_lt_zero _)
  | first :: others, _, _, spelled, cut => by
      obtain ⟨head, tail, firstSpelled, othersSpelled, rfl⟩ := spelled
      rcases cutFrom_append cut with inHead | ⟨part, rfl, inTail⟩
      · obtain ⟨error, isCut⟩ := exists_cutOff first firstSpelled inHead
        exact ⟨error, .inl isCut⟩
      · obtain ⟨error, isCut⟩ := exists_cutOffEach others othersSpelled inTail
        exact ⟨error, .inr ⟨head, part, firstSpelled, rfl, isCut⟩⟩

end

end Value

/-! ## Readers of values that hold no others -/

namespace Reader

theorem take_of_cut {start whole : Bytes} (cut : CutFrom start whole) (error : DecodeError) :
    take whole.length error start = .error error := by
  unfold take
  rw [if_neg (Nat.not_le.2 cut.length_lt)]

theorem littleEndian_of_cut {width number : Nat} {start : Bytes}
    (cut : CutFrom start (Bytes.littleEndian width number)) :
    littleEndian width start = .error .endOfInput := by
  have short := take_of_cut cut .endOfInput
  rw [Bytes.length_littleEndian] at short
  exact bind_of_error short

theorem compact_of_cut {wide : Bool} {number : Nat} {form start : Bytes}
    (isForm : CompactForm wide number form) (cut : CutFrom start form) :
    compact wide start = .error .endOfInput := by
  have inWord {marker : UInt8} {width : Nat}
      (goesOn : ∀ part, compact wide (marker :: part) = littleEndian width part)
      (cut : CutFrom start (marker :: Bytes.littleEndian width number)) :
      compact wide start = .error .endOfInput := by
    rcases cutFrom_cons.1 cut with rfl | ⟨part, rfl, inPart⟩
    · rfl
    · rw [goesOn, littleEndian_of_cut inPart]
  cases isForm with
  | single fits =>
      rcases cutFrom_cons.1 cut with rfl | ⟨part, rfl, none⟩
      · rfl
      · exact absurd none.length_lt (Nat.not_lt_zero _)
  | two fits => exact inWord (fun _ => rfl) cut
  | four fits => exact inWord (fun _ => rfl) cut
  | eight fits => exact inWord (fun _ => rfl) cut
  | sixteen isWide fits =>
      subst isWide
      exact inWord (fun _ => rfl) cut

theorem integer_of_cut {format : IntegerFormat} {number : Int} {form start : Bytes}
    (isForm : IntegerForm format number form) (cut : CutFrom start form) :
    integer format start = .error .endOfInput := by
  unfold IntegerForm at isForm
  unfold integer
  by_cases isByte : format.width = .bits8
  · rw [if_pos isByte] at isForm ⊢
    subst isForm
    rcases cutFrom_cons.1 cut with rfl | ⟨part, rfl, none⟩
    · rfl
    · exact absurd none.length_lt (Nat.not_lt_zero _)
  · rw [if_neg isByte] at isForm ⊢
    exact bind_of_error (compact_of_cut isForm cut)

theorem char_of_cut {character : Char} {start : Bytes}
    (cut : CutFrom start (Utf8.ofChar character)) :
    char start = .error (if start = [] then .endOfInput else .invalidChar) := by
  obtain ⟨first, others, written, announced⟩ := Utf8.ofChar_announced character
  have short := take_of_cut cut .invalidChar
  rw [written] at cut
  rcases cutFrom_cons.1 cut with rfl | ⟨part, rfl, _⟩
  · rfl
  · rw [char, announced]
    simp only [short]
    rfl

/-- Repetition ends like the reader that is repeated, where the spelling of one value is cut off. -/
theorem many_of_cut {element : Reader Value} {values : List Value}
    (takes : ∀ value ∈ values, ∀ bytes rest, value.SpelledBy bytes →
      element (bytes ++ rest) = .ok (value, rest))
    {error : DecodeError} (ends : ∀ value ∈ values, ∀ start, value.CutOff start error →
      element start = .error error)
    {start : Bytes} (cut : Value.CutOffEach values start error) :
    many element values.length start = .error error := by
  induction values generalizing start with
  | nil => exact cut.elim
  | cons first others inductionHypothesis =>
      obtain ⟨takesFirst, takesOthers⟩ := List.forall_mem_cons.1 takes
      obtain ⟨endsFirst, endOthers⟩ := List.forall_mem_cons.1 ends
      rw [List.length_cons, many_succ]
      rcases cut with inFirst | ⟨head, part, firstSpelled, rfl, inOthers⟩
      · exact bind_of_error (endsFirst start inFirst)
      · rw [bind_of_ok (takesFirst head part firstSpelled)]
        exact bind_of_error (inductionHypothesis takesOthers endOthers inOthers)

end Reader

/-! ## Every type -/

/-- A reader that ends with the error that goes with the cut, wherever a spelling of a value of a
set is cut off. -/
def EndsAtCuts (reader : Reader Value) (set : Value → Prop) : Prop :=
  ∀ value start error, set value → value.CutOff start error → reader start = .error error

/-- A reader for the values of a set: it takes their spellings, and ends where one is cut off. -/
structure Follows (reader : Reader Value) (set : Value → Prop) : Prop where
  takesAll : TakesAll reader set
  endsAtCuts : EndsAtCuts reader set

/-- Readers for the sets of the recursive types around a type. -/
structure FollowEach (readers : List (Reader Value)) (sets : List (Value → Prop)) : Prop where
  takeOnly : ∀ reader ∈ readers, TakesOnlySpellings reader
  each : ∀ (depth : Nat) set, sets[depth]? = some set →
    ∃ reader, readers[depth]? = some reader ∧ Follows reader set

namespace FollowEach

variable {readers : List (Reader Value)} {sets : List (Value → Prop)}

theorem nil : FollowEach [] [] where
  takeOnly := by simp
  each := fun _ _ found => by simp at found

theorem takeAll (follow : FollowEach readers sets) : TakeAllOfEach readers sets := by
  intro depth set found
  obtain ⟨reader, foundReader, follows⟩ := follow.each depth set found
  exact ⟨reader, foundReader, follows.takesAll⟩

theorem cons {reader : Reader Value} {set : Value → Prop} (takesOnly : TakesOnlySpellings reader)
    (follows : Follows reader set) (follow : FollowEach readers sets) :
    FollowEach (reader :: readers) (set :: sets) where
  takeOnly := List.forall_mem_cons.2 ⟨takesOnly, follow.takeOnly⟩
  each := exists_getElem?_cons follows follow.each

end FollowEach

namespace WireType

/-- An unfolded reader follows the values of the set that is unfolded at most as often. -/
private theorem follows_unfolded {body : WireType} {readers : List (Reader Value)}
    {sets : List (Value → Prop)} (follow : FollowEach readers sets)
    (ends : ∀ {readers : List (Reader Value)} {sets : List (Value → Prop)},
      FollowEach readers sets → EndsAtCuts (body.read readers) (body.Conforms sets))
    {count bound : Nat} (notMore : count ≤ bound) :
    Follows (Reader.unfolded (fun self => body.read (self :: readers)) bound)
      (unfoldedSet (fun self => body.Conforms (self :: sets)) count) := by
  induction count generalizing bound with
  | zero => exact ⟨fun _ _ _ member _ => member.elim, fun _ _ _ member _ => member.elim⟩
  | succ count inductionHypothesis =>
      obtain ⟨bound, rfl⟩ : ∃ less, bound = less + 1 := ⟨bound - 1, by omega⟩
      have inner := follow.cons (body.unfolded_takesOnly follow.takeOnly bound)
        (inductionHypothesis (by omega))
      exact ⟨read_takesAll body inner.takeAll, ends inner⟩

mutual

/-- Where a spelling of a value of a type is cut off, the reader of the type ends with the error
that goes with the cut. -/
theorem read_endsAtCuts : ∀ (type : WireType) {readers : List (Reader Value)}
    {sets : List (Value → Prop)}, FollowEach readers sets →
    EndsAtCuts (type.read readers) (type.Conforms sets)
  | .bool, _, _, _, _, _, _, ⟨truth, same⟩, cut => by
      subst same
      obtain ⟨rfl, _, rfl, cut⟩ := cut
      rcases cutFrom_cons.1 cut with rfl | ⟨part, rfl, none⟩
      · rfl
      · exact absurd none.length_lt (Nat.not_lt_zero _)
  | .char, _, _, _, _, _, _, ⟨character, same⟩, cut => by
      subst same
      obtain ⟨cut, rfl⟩ := cut
      exact Reader.bind_of_error (Reader.char_of_cut cut)
  | .text, _, _, _, _, _, _, ⟨content, same⟩, cut => by
      subst same
      obtain ⟨form, isForm, ⟨inForm, rfl⟩ | ⟨part, rfl, inContent, rfl⟩⟩ := cut
      · exact Reader.bind_of_error (Reader.bind_of_error (Reader.compact_of_cut isForm inForm))
      · refine Reader.bind_of_error ?_
        refine (Reader.bind_of_ok (Reader.compact_append isForm part)).trans ?_
        exact Reader.bind_of_error (Reader.take_of_cut inContent .textTooShort)
  | .float32, _, _, _, _, _, _, ⟨bits, same⟩, cut => by
      subst same
      obtain ⟨rfl, _, rfl, cut⟩ := cut
      exact Reader.bind_of_error (Reader.littleEndian_of_cut cut)
  | .float64, _, _, _, _, _, _, ⟨bits, same⟩, cut => by
      subst same
      obtain ⟨rfl, _, rfl, cut⟩ := cut
      exact Reader.bind_of_error (Reader.littleEndian_of_cut cut)
  | .integer format, _, _, _, _, _, _, ⟨number, same, _⟩, cut => by
      subst same
      obtain ⟨rfl, form, isForm, cut⟩ := cut
      exact Reader.bind_of_error (Reader.integer_of_cut isForm cut)
  | .list element, _, _, follow, _, _, error, ⟨elements, same, conform⟩, cut => by
      subst same
      obtain ⟨form, isForm, ⟨inForm, rfl⟩ | ⟨part, rfl, inBody⟩⟩ := cut
      · exact Reader.bind_of_error (Reader.compact_of_cut isForm inForm)
      · refine (Reader.bind_of_ok (Reader.compact_append isForm part)).trans ?_
        refine Reader.bind_of_error (Reader.many_of_cut ?_ ?_ inBody)
        · exact fun member found bytes rest =>
            read_takesAll element follow.takeAll member bytes rest (conform member found)
        · exact fun member found start =>
            read_endsAtCuts element follow member start error (conform member found)
  | .option content, _, _, follow, _, _, _, conforms, cut => by
      rcases conforms with rfl | ⟨present, rfl, conforms⟩
      · obtain ⟨rfl, _, rfl, cut⟩ := cut
        rcases cutFrom_cons.1 cut with rfl | ⟨part, rfl, none⟩
        · rfl
        · exact absurd none.length_lt (Nat.not_lt_zero _)
      · rcases cut with ⟨rfl, rfl⟩ | ⟨part, rfl, inContent⟩
        · rfl
        · have isThere : Reader.presence (1 :: part) = .ok (true, part) := rfl
          refine (Reader.bind_of_ok isThere).trans (Reader.bind_of_error ?_)
          exact read_endsAtCuts content follow present part _ conforms inContent
  | .box content, _, _, follow, _, _, _, conforms, cut =>
      read_endsAtCuts content follow _ _ _ conforms cut
  | .tuple elements, _, _, follow, _, _, _, ⟨members, same, conform⟩, cut => by
      subst same
      exact Reader.bind_of_error (readEach_endsAtCuts elements follow conform cut)
  | .record fields, _, _, follow, _, _, _, ⟨members, same, conform⟩, cut => by
      subst same
      exact Reader.bind_of_error (readEach_endsAtCuts fields follow conform cut)
  | .choice variants, _, _, follow, _, _, _, ⟨index, content, same, bounded, conforms⟩, cut => by
      subst same
      have holds : IntegerFormat.u32.Holds index :=
        ⟨Int.natCast_nonneg index, Int.ofNat_lt.2 bounded⟩
      obtain ⟨form, isForm, place⟩ := cut
      have isIndex : IntegerForm .u32 index form := isForm
      rcases place with ⟨inForm, rfl⟩ | ⟨part, rfl, inContent⟩
      · exact Reader.bind_of_error (Reader.integer_of_cut isIndex inForm)
      · refine (Reader.bind_of_ok (Reader.integer_append holds isIndex part)).trans ?_
        exact Reader.bind_of_error (readAt_endsAtCuts variants _ follow conforms inContent)
  | .flattened _ _, _, _, _, _, _, _, ⟨_, same, _⟩, cut => by
      subst same
      exact cut.elim
  | .sparse _, _, _, _, _, _, _, ⟨_, same, _⟩, cut => by
      subst same
      obtain ⟨rfl, form, ⟨_, isForm⟩, cut⟩ := cut
      exact Reader.bind_of_error (Reader.compact_of_cut isForm cut)
  | .recursive body, readers, sets, follow, value, start, error, ⟨count, unfolded⟩, cut => by
      by_cases reaches : body.Reaches 0
      · exact absurd unfolded (not_unfoldedSet_of_reaches reaches count value)
      · -- as the bound is not felt, it may be taken as large as the value is nested
        have deepEnough : start.length < max count (start.length + 1) := by omega
        rw [read_recursive_eq_unfolded reaches follow.takeOnly deepEnough]
        have follows := follows_unfolded follow (read_endsAtCuts body)
          (Nat.le_max_left count (start.length + 1))
        exact follows.endsAtCuts value start error unfolded cut
  | .recur depth, readers, _, follow, value, start, error, ⟨set, found, member⟩, cut => by
      obtain ⟨reader, foundReader, follows⟩ := follow.each depth set found
      rw [read, foundReader]
      exact follows.endsAtCuts value start error member cut

private theorem readEach_endsAtCuts : ∀ (types : List WireType) {readers : List (Reader Value)}
    {sets : List (Value → Prop)}, FollowEach readers sets →
    ∀ {values : List Value} {start : Bytes} {error : DecodeError}, ConformEach types sets values →
      Value.CutOffEach values start error → readEach types readers start = .error error
  | [], _, _, _, _, _, _, conform, cut => by
      cases conform
      exact cut.elim
  | type :: types, _, _, follow, _, _, _, ⟨first, others, same, conforms, conform⟩, cut => by
      subst same
      rcases cut with inFirst | ⟨head, part, firstSpelled, rfl, inOthers⟩
      · exact Reader.bind_of_error (read_endsAtCuts type follow first _ _ conforms inFirst)
      · have firstTaken := read_takesAll type follow.takeAll first head part conforms firstSpelled
        refine (Reader.bind_of_ok firstTaken).trans ?_
        exact Reader.bind_of_error (readEach_endsAtCuts types follow conform inOthers)

private theorem readAt_endsAtCuts : ∀ (types : List WireType) (unknown : DecodeError)
    {readers : List (Reader Value)} {sets : List (Value → Prop)}, FollowEach readers sets →
    ∀ {index : Nat} {value : Value} {start : Bytes} {error : DecodeError},
      ConformsAt types index sets value → value.CutOff start error →
        readAt types index unknown readers start = .error error
  | [], _, _, _, _, _, _, _, _, conforms, _ => conforms.elim
  | type :: _, _, _, _, follow, 0, _, _, _, conforms, cut =>
      read_endsAtCuts type follow _ _ _ conforms cut
  | _ :: types, unknown, _, _, follow, _ + 1, _, _, _, conforms, cut =>
      readAt_endsAtCuts types unknown follow conforms cut

end

/-! ## Decoding -/

/-- Decoding goes front to back. What is cut off an input that is decoded is missed: the error says
that the input ends too early, within a text or within a character exactly if it is cut there. What
follows an input that is decoded is left over. An input with something left over has it left over
whatever follows, and one that is refused for any other reason than that it ends too early is
refused for the same reason whatever follows. -/
theorem decode_frontToBack (type : WireType) (input : Bytes) :
    (∀ member, type.decode input = .ok member →
      (∀ start, CutFrom start input → ∃ error, type.decode start = .error error ∧
        error.MissesInput ∧ member.val.CutOff start error) ∧
      ∀ more, more ≠ [] → type.decode (input ++ more) = .error .leftover) ∧
    (type.decode input = .error .leftover → ∀ more,
      type.decode (input ++ more) = .error .leftover) ∧
    ∀ error, type.decode input = .error error → error ≠ .leftover → ¬ error.MissesInput →
      ∀ more, type.decode (input ++ more) = .error error := by
  refine ⟨fun member decoded => ⟨fun start cut => ?_, fun more => decode_append_of_ok decoded⟩,
    fun refused => decode_append_of_error refused (nomatch ·),
    fun error refused _ keeps => decode_append_of_error refused keeps⟩
  obtain ⟨error, cutOff⟩ := member.val.exists_cutOff (spelledBy_of_decode decoded) cut
  have refused : type.decode start = .error error := decode_eq_error.2
    (.inl (readMember_eq_error.2 (read_endsAtCuts type .nil _ _ _ member.property cutOff)))
  refine ⟨error, refused, ?_, cutOff⟩
  obtain ⟨missing, someMissing, rfl⟩ := cut
  obtain ⟨found, refusedAgain, misses⟩ := decode_of_append decoded someMissing
  rw [refused] at refusedAgain
  cases refusedAgain
  exact misses

/-- A label with a bold text. -/
def boldLabel : Sample.shape.Member :=
  ⟨.variant 3 (.tuple [.text "hé", .bool true]), 3, _, rfl, by decide, _, rfl, _, _, rfl, ⟨_, rfl⟩,
    _, _, rfl, ⟨_, rfl⟩, rfl⟩

/-- The label, cut off within its text; with a byte behind it; and with a byte in the place of its
last one that does not stand for a truth value, whatever is behind that. -/
theorem decode_boldLabel :
    let spelling : Bytes := [3, 3, 104, 0xC3, 0xA9, 1]
    Sample.shape.decode spelling = .ok boldLabel ∧
      (CutFrom [3, 3, 104, 0xC3] spelling ∧ Sample.shape.decode [3, 3, 104, 0xC3] =
        .error .textTooShort ∧ boldLabel.val.CutOff [3, 3, 104, 0xC3] .textTooShort) ∧
      Sample.shape.decode (spelling ++ [0]) = .error .leftover ∧
      ∀ more, Sample.shape.decode ([3, 3, 104, 0xC3, 0xA9, 2] ++ more) =
        .error (.invalidBool 2) := by
  intro spelling
  have spelled : boldLabel.val.SpelledBy spelling :=
    ⟨[3], _, .single (by decide), ⟨_, _, ⟨[3], .single (by decide), rfl⟩, ⟨_, _, rfl, rfl, rfl⟩,
      rfl⟩, by decide⟩
  have decoded := decode_of_spelledBy boldLabel spelled
  have cut : CutFrom [3, 3, 104, 0xC3] spelling := ⟨[0xA9, 1], by decide, rfl⟩
  have textEnds : Sample.shape.decode [3, 3, 104, 0xC3] = .error .textTooShort := rfl
  obtain ⟨accepts, _, _⟩ := decode_frontToBack Sample.shape spelling
  obtain ⟨_, _, refuses⟩ := decode_frontToBack Sample.shape [3, 3, 104, 0xC3, 0xA9, 2]
  obtain ⟨cuts, goesOn⟩ := accepts boldLabel decoded
  obtain ⟨error, refused, _, cutOff⟩ := cuts _ cut
  rw [textEnds] at refused
  cases refused
  exact ⟨decoded, ⟨cut, textEnds, cutOff⟩, goesOn [0] (by decide),
    refuses (.invalidBool 2) rfl (by decide) (nomatch ·)⟩

end WireType

end RemoteCall.Wire
