import RemoteCall.Proofs.Wire.Members
import RemoteCall.Proofs.Wire.Reading
import RemoteCall.Proofs.Wire.Unfolding
import RemoteCall.Sample.Types

/-!
Contract: what is written for a value of a type is read back as that value, whatever follows it.

Owns:
- readers that take every spelling of the values of a set, and the fact that the reader of a type
  is one for the values of the type, recursive types included;
- the round trip, and that no value's bytes start another value's bytes.

Does not own: inputs that start with no spelling.
-/

namespace RemoteCall.Wire

set_option autoImplicit false

/-- What stands at each place of a list is related to what stands there in another one, if this holds
of their first entries and of the others. -/
theorem exists_getElem?_cons {α β : Type} {related : α → β → Prop} {first : α} {other : β}
    {others : List α} {rest : List β} (sameFirst : related first other)
    (each : ∀ (depth : Nat) entry, others[depth]? = some entry →
      ∃ partner, rest[depth]? = some partner ∧ related entry partner) :
    ∀ (depth : Nat) entry, (first :: others)[depth]? = some entry →
      ∃ partner, (other :: rest)[depth]? = some partner ∧ related entry partner := by
  intro depth entry found
  cases depth with
  | zero =>
      cases found
      exact ⟨other, rfl, sameFirst⟩
  | succ depth => exact each depth entry found

/-- A reader that takes every spelling of every value of a set, whatever follows it. -/
def TakesAll (reader : Reader Value) (set : Value → Prop) : Prop :=
  ∀ value bytes rest, set value → value.SpelledBy bytes → reader (bytes ++ rest) = .ok (value, rest)

/-- Readers for the sets of the recursive types around a type. -/
def TakeAllOfEach (readers : List (Reader Value)) (sets : List (Value → Prop)) : Prop :=
  ∀ (depth : Nat) set, sets[depth]? = some set → ∃ reader, readers[depth]? = some reader ∧
    TakesAll reader set

theorem TakeAllOfEach.cons {readers : List (Reader Value)} {sets : List (Value → Prop)}
    {reader : Reader Value} {set : Value → Prop} (takes : TakesAll reader set)
    (takeEach : TakeAllOfEach readers sets) :
    TakeAllOfEach (reader :: readers) (set :: sets) :=
  exists_getElem?_cons takes takeEach

/-- An unfolded reader takes the values of the set that is unfolded as often. -/
private theorem takesAll_unfolded {step : Reader Value → Reader Value}
    {grow : (Value → Prop) → Value → Prop}
    (takes : ∀ reader set, TakesAll reader set → TakesAll (step reader) (grow set)) (count : Nat) :
    TakesAll (Reader.unfolded step count) (unfoldedSet grow count) := by
  induction count with
  | zero => exact fun _ _ _ member _ => member.elim
  | succ count inductionHypothesis => exact takes _ _ inductionHypothesis

namespace WireType

mutual

/-- The reader of a type takes every spelling of every value of the type. -/
theorem read_takesAll : ∀ (type : WireType) {readers : List (Reader Value)}
    {sets : List (Value → Prop)}, TakeAllOfEach readers sets →
    TakesAll (type.read readers) (type.Conforms sets)
  | .bool, _, _, _, _, _, _, ⟨truth, same⟩, spelled => by
      subst same
      cases spelled
      cases truth <;> rfl
  | .char, _, _, _, _, _, _, ⟨character, same⟩, spelled => by
      subst same
      cases spelled
      exact Reader.bind_eq_ok.2 ⟨_, _, Reader.char_append character _, rfl⟩
  | .text, _, _, _, _, _, _, ⟨content, same⟩, spelled => by
      subst same
      obtain ⟨form, isForm, rfl⟩ := spelled
      exact Reader.bind_eq_ok.2 ⟨_, _, Reader.text_append isForm _, rfl⟩
  | .float32, _, _, _, _, _, _, ⟨bits, same⟩, spelled => by
      subst same
      cases spelled
      refine Reader.bind_eq_ok.2 ⟨_, _, Reader.littleEndian_append bits.toNat_lt _, ?_⟩
      rw [UInt32.ofNat_toNat]
      rfl
  | .float64, _, _, _, _, _, _, ⟨bits, same⟩, spelled => by
      subst same
      cases spelled
      refine Reader.bind_eq_ok.2 ⟨_, _, Reader.littleEndian_append bits.toNat_lt _, ?_⟩
      rw [UInt64.ofNat_toNat]
      rfl
  | .integer format, _, _, _, _, _, _, ⟨number, same, holds⟩, spelled => by
      subst same
      exact Reader.bind_eq_ok.2 ⟨_, _, Reader.integer_append holds spelled _, rfl⟩
  | .list element, _, _, takeEach, _, _, rest, ⟨elements, same, conform⟩, spelled => by
      subst same
      obtain ⟨form, body, isForm, eachSpelled, rfl⟩ := spelled
      rw [List.append_assoc]
      refine Reader.bind_eq_ok.2 ⟨_, _, Reader.compact_append isForm _, ?_⟩
      have all := Reader.many_append (fun member found bytes rest =>
        read_takesAll element takeEach member bytes rest (conform member found)) eachSpelled rest
      exact Reader.bind_eq_ok.2 ⟨_, _, all, rfl⟩
  | .option content, _, _, takeEach, _, _, rest, conforms, spelled => by
      rcases conforms with rfl | ⟨present, rfl, conforms⟩
      · cases spelled
        rfl
      · obtain ⟨body, contentSpelled, rfl⟩ := spelled
        have taken := read_takesAll content takeEach present body rest conforms contentSpelled
        exact Reader.bind_eq_ok.2 ⟨true, body ++ rest, rfl, Reader.bind_eq_ok.2 ⟨_, _, taken, rfl⟩⟩
  | .box content, _, _, takeEach, _, _, _, conforms, spelled =>
      read_takesAll content takeEach _ _ _ conforms spelled
  | .tuple elements, _, _, takeEach, _, _, _, ⟨members, same, conform⟩, spelled => by
      subst same
      exact Reader.bind_eq_ok.2 ⟨_, _, readEach_takesAll elements takeEach conform spelled _, rfl⟩
  | .record fields, _, _, takeEach, _, _, _, ⟨members, same, conform⟩, spelled => by
      subst same
      exact Reader.bind_eq_ok.2 ⟨_, _, readEach_takesAll fields takeEach conform spelled _, rfl⟩
  | .choice variants, _, _, takeEach, _, _, rest, ⟨index, content, same, bounded, conforms⟩,
      spelled => by
      subst same
      obtain ⟨form, body, isForm, contentSpelled, rfl⟩ := spelled
      have holds : IntegerFormat.u32.Holds index := by
        exact ⟨Int.natCast_nonneg index, Int.ofNat_lt.2 bounded⟩
      rw [List.append_assoc]
      refine Reader.bind_eq_ok.2 ⟨_, _, Reader.integer_append holds isForm _, ?_⟩
      have taken := readAt_takesAll variants (.unknownVariant index variants.length) takeEach
        conforms contentSpelled rest
      exact Reader.bind_eq_ok.2 ⟨_, _, taken, rfl⟩
  | .flattened _ _, _, _, _, _, _, _, ⟨_, same, _⟩, spelled => by
      subst same
      exact spelled.elim
  | .sparse fields, _, _, _, _, _, _, ⟨members, same, conform⟩, spelled => by
      subst same
      obtain ⟨allAbsent, isForm⟩ := spelled
      refine Reader.bind_eq_ok.2 ⟨_, _, Reader.compact_append isForm _, ?_⟩
      rw [eq_bare_of_conformGiven conform allAbsent]
      rfl
  | .recursive body, _, sets, takeEach, value, bytes, rest, ⟨count, unfolded⟩, spelled => by
      have below : bytes.length < (bytes ++ rest).length + 1 := by
        rw [List.length_append]
        omega
      exact takesAll_unfolded (fun _ _ takes => read_takesAll body (takeEach.cons takes)) _ _ _ _
        (unfoldedSet_of_length_lt unfolded spelled below) spelled
  | .recur depth, readers, _, takeEach, value, bytes, rest, ⟨set, found, member⟩, spelled => by
      obtain ⟨reader, foundReader, takes⟩ := takeEach depth set found
      rw [read, foundReader]
      exact takes value bytes rest member spelled

private theorem readEach_takesAll : ∀ (types : List WireType) {readers : List (Reader Value)}
    {sets : List (Value → Prop)}, TakeAllOfEach readers sets →
    ∀ {values : List Value} {bytes : Bytes}, ConformEach types sets values →
      Value.SpelledByEach values bytes → ∀ rest,
        readEach types readers (bytes ++ rest) = .ok (values, rest)
  | [], _, _, _, _, _, conform, spelled, _ => by
      cases conform
      cases spelled
      rfl
  | type :: types, _, _, takeEach, _, _, ⟨first, others, same, conforms, conform⟩, spelled,
      rest => by
      subst same
      obtain ⟨head, tail, firstSpelled, othersSpelled, rfl⟩ := spelled
      rw [List.append_assoc]
      have firstTaken := read_takesAll type takeEach first head (tail ++ rest) conforms firstSpelled
      have othersTaken := readEach_takesAll types takeEach conform othersSpelled rest
      exact Reader.bind_eq_ok.2 ⟨_, _, firstTaken, Reader.bind_eq_ok.2 ⟨_, _, othersTaken, rfl⟩⟩

private theorem readAt_takesAll : ∀ (types : List WireType) (error : DecodeError)
    {readers : List (Reader Value)} {sets : List (Value → Prop)}, TakeAllOfEach readers sets →
    ∀ {index : Nat} {value : Value} {bytes : Bytes}, ConformsAt types index sets value →
      value.SpelledBy bytes → ∀ rest,
        readAt types index error readers (bytes ++ rest) = .ok (value, rest)
  | [], _, _, _, _, _, _, _, conforms, _, _ => conforms.elim
  | type :: _, _, _, _, takeEach, 0, _, _, conforms, spelled, rest =>
      read_takesAll type takeEach _ _ rest conforms spelled
  | _ :: types, error, _, _, takeEach, _ + 1, _, _, conforms, spelled, rest =>
      readAt_takesAll types error takeEach conforms spelled rest

end

/-! ## The round trip -/

theorem readMember_eq_ok {type : WireType} {input rest : Bytes} {member : type.Member} :
    type.readMember input = .ok (member, rest) ↔
      type.read [] input = .ok (member.val, rest) := by
  unfold readMember
  split
  · rename_i error refused
    simp [refused]
  · rename_i value remaining ran
    constructor
    · intro same
      cases same
      exact ran
    · intro same
      obtain ⟨expected, conforms⟩ := member
      rw [ran] at same
      cases same
      rfl

/-- Every spelling of a member is read as this member, and nothing behind it is looked at. -/
theorem readMember_append {type : WireType} (member : type.Member) {bytes : Bytes}
    (spelled : member.val.SpelledBy bytes) (rest : Bytes) :
    type.readMember (bytes ++ rest) = .ok (member, rest) := by
  have around : TakeAllOfEach [] [] := fun _ _ found => by simp at found
  exact readMember_eq_ok.2 (read_takesAll type around _ _ rest member.property spelled)

theorem decode_eq_ok {type : WireType} {input : Bytes} {member : type.Member} :
    type.decode input = .ok member ↔ type.readMember input = .ok (member, []) := by
  unfold decode
  split
  · rename_i error refused
    simp [refused]
  · rename_i found read
    simp [read]
  · rename_i found byte rest read
    simp [read]

/-- Every spelling of a member is decoded as this member. -/
theorem decode_of_spelledBy {type : WireType} (member : type.Member) {bytes : Bytes}
    (spelled : member.val.SpelledBy bytes) : type.decode bytes = .ok member := by
  have read := readMember_append member spelled []
  rw [List.append_nil] at read
  exact decode_eq_ok.2 read

/-- What is written for a member spells it. -/
theorem Member.spelledBy {type : WireType} (member : type.Member) {bytes : Bytes}
    (written : member.val.encode = .ok bytes) (short : member.val.Short) :
    member.val.SpelledBy bytes :=
  Value.spelledBy_of_encode member.val short member.inRange written

/-- Two spellings of members of one type, one of which starts the other, spell the same member. -/
theorem eq_of_spelling_starts {type : WireType} {left right : type.Member}
    {leftBytes rightBytes : Bytes} (leftSpelled : left.val.SpelledBy leftBytes)
    (rightSpelled : right.val.SpelledBy rightBytes) (starts : leftBytes <+: rightBytes) :
    left = right := by
  obtain ⟨rest, same⟩ := starts
  have readLeft := readMember_append left leftSpelled rest
  have readRight := readMember_append right rightSpelled []
  rw [same] at readLeft
  rw [List.append_nil, readLeft] at readRight
  cases readRight
  rfl

/-- The round trip. What is written for a member of a type is taken off the front of any input that
starts with it, exactly, and no byte more; decoding it gives the member back; and of two different
members of the type, neither is written as the beginning of the other. -/
theorem read_written_member (type : WireType) (member : type.Member) (bytes : Bytes)
    (written : member.val.encode = .ok bytes) (short : member.val.Short) :
    (∀ rest, type.readMember (bytes ++ rest) = .ok (member, rest)) ∧
    type.decode bytes = .ok member ∧
    ∀ (other : type.Member) (otherBytes : Bytes), other ≠ member →
      other.val.encode = .ok otherBytes → other.val.Short →
      ¬ bytes <+: otherBytes ∧ ¬ otherBytes <+: bytes := by
  have spelled := member.spelledBy written short
  refine ⟨readMember_append member spelled, decode_of_spelledBy member spelled, ?_⟩
  intro other otherBytes different otherWritten otherShort
  have otherSpelled := other.spelledBy otherWritten otherShort
  exact ⟨fun starts => different (eq_of_spelling_starts spelled otherSpelled starts).symm,
    fun starts => different (eq_of_spelling_starts otherSpelled spelled starts)⟩

/-- A tree of the least number of its format above the greatest one that takes a single byte. -/
def twoNodes : Sample.tree.Member :=
  ⟨.tuple [.integer .i32 (-2 ^ 31), .list [.tuple [.integer .i32 125, .list []]]], 2,
    _, rfl, _, _, rfl, ⟨_, rfl, by decide⟩, _, _, rfl, ⟨_, rfl, List.forall_mem_singleton.2
      ⟨_, rfl, _, rfl, _, _, rfl, ⟨_, rfl, by decide⟩, _, _, rfl, ⟨_, rfl, by simp⟩, rfl⟩⟩, rfl⟩

theorem read_written_twoNodes :
    twoNodes.val.encode = .ok [0xFC, 0xFF, 0xFF, 0xFF, 0xFF, 1, 250, 0] ∧ twoNodes.val.Short ∧
    (∀ rest, Sample.tree.readMember ([0xFC, 0xFF, 0xFF, 0xFF, 0xFF, 1, 250, 0] ++ rest) =
      .ok (twoNodes, rest)) ∧
    Sample.tree.decode [0xFC, 0xFF, 0xFF, 0xFF, 0xFF, 1, 250, 0] = .ok twoNodes := by
  have written : twoNodes.val.encode = .ok [0xFC, 0xFF, 0xFF, 0xFF, 0xFF, 1, 250, 0] := rfl
  have short : twoNodes.val.Short := by
    unfold Value.Short
    decide
  obtain ⟨taken, decoded, _⟩ := read_written_member Sample.tree twoNodes _ written short
  exact ⟨written, short, taken, decoded⟩

end WireType

end RemoteCall.Wire
