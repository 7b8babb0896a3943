import RemoteCall.Proofs.Wire.Taken
import RemoteCall.Proofs.Wire.Writable

/-!
Contract: a type's values are decoded from exactly their spellings, and what is written for a value
is the shortest of them.

Owns:
- byte strings that are shorter than another one or the same, part by part;
- what is written for a number and for a value, against every other form and spelling;
- the inputs from which a member of a type is decoded.

Does not own: what an input is refused for.
-/

namespace RemoteCall.Wire

set_option autoImplicit false

def ShorterOrSame (left right : Bytes) : Prop :=
  left.length < right.length ∨ left = right

namespace ShorterOrSame

variable {left right leftTail rightTail : Bytes}

theorem length_le (bounded : ShorterOrSame left right) : left.length ≤ right.length := by
  rcases bounded with shorter | rfl
  · exact Nat.le_of_lt shorter
  · exact Nat.le_refl _

theorem eq_of_length (bounded : ShorterOrSame left right) (same : left.length = right.length) :
    left = right := by
  rcases bounded with shorter | equal
  · exact absurd same (Nat.ne_of_lt shorter)
  · exact equal

/-- Two byte strings of this kind in a row: if either is shorter, the whole is. -/
theorem append (front : ShorterOrSame left right) (back : ShorterOrSame leftTail rightTail) :
    ShorterOrSame (left ++ leftTail) (right ++ rightTail) := by
  have frontBound := front.length_le
  have backBound := back.length_le
  unfold ShorterOrSame
  rw [List.length_append, List.length_append]
  rcases front with shorter | rfl
  · exact .inl (by omega)
  · rcases back with shorter | rfl
    · exact .inl (by omega)
    · exact .inr rfl

end ShorterOrSame

/-! ## Numbers -/

/-- No form of a number is shorter than the one that is written, and no other is as short. -/
theorem compact_shorterOrSame {wide : Bool} {number : Nat} {form : Bytes}
    (isForm : CompactForm wide number form) : ShorterOrSame (compact number) form := by
  unfold ShorterOrSame compact
  -- every form that is tried before the given one is shorter
  cases isForm with
  | single fits =>
      rw [if_pos fits]
      exact .inr rfl
  | two fits =>
      rw [if_pos (c := number < UInt16.size) fits]
      split
      · exact .inl (by simp)
      · exact .inr rfl
  | four fits =>
      rw [if_pos (c := number < UInt32.size) fits]
      split
      · exact .inl (by simp)
      split
      · exact .inl (by simp)
      · exact .inr rfl
  | eight fits =>
      rw [if_pos (c := number < UInt64.size) fits]
      split
      · exact .inl (by simp)
      split
      · exact .inl (by simp)
      split
      · exact .inl (by simp)
      · exact .inr rfl
  | sixteen _ _ =>
      split
      · exact .inl (by simp)
      split
      · exact .inl (by simp)
      split
      · exact .inl (by simp)
      split
      · exact .inl (by simp)
      · exact .inr rfl

theorem integerBytes_shorterOrSame {format : IntegerFormat} {number : Int} {form : Bytes}
    (isForm : IntegerForm format number form) : ShorterOrSame (integerBytes format number) form := by
  unfold IntegerForm at isForm
  unfold integerBytes
  by_cases isByte : format.width = .bits8
  · rw [if_pos isByte] at isForm ⊢
    exact .inr isForm.symm
  · rw [if_neg isByte] at isForm ⊢
    exact compact_shorterOrSame isForm

/-! ## Values -/

namespace Value

mutual

/-- No spelling of a value is shorter than what is written for it, and no other is as short. -/
theorem shorterOrSame_of_spelledBy : ∀ (value : Value) {written bytes : Bytes},
    value.encode = .ok written → value.SpelledBy bytes → ShorterOrSame written bytes
  | .bool _, _, _, isWritten, spelled | .char _, _, _, isWritten, spelled
  | .float32 _, _, _, isWritten, spelled | .float64 _, _, _, isWritten, spelled
  | .absent, _, _, isWritten, spelled => by
      cases isWritten
      exact .inr spelled.symm
  | .text _, _, _, isWritten, ⟨_, isForm, same⟩ => by
      subst same
      cases isWritten
      exact (compact_shorterOrSame isForm).append (.inr rfl)
  | .integer _ _, _, _, isWritten, spelled => by
      cases isWritten
      exact integerBytes_shorterOrSame spelled
  | .list elements, _, _, isWritten, ⟨_, _, isForm, eachSpelled, same⟩ => by
      subst same
      rw [encode_list] at isWritten
      obtain ⟨body, eachWritten, rfl⟩ := map_eq_ok.1 isWritten
      exact (compact_shorterOrSame isForm).append
        (shorterOrSame_of_spelledByEach elements eachWritten eachSpelled)
  | .present content, _, _, isWritten, ⟨_, contentSpelled, same⟩ => by
      subst same
      obtain ⟨body, contentWritten, rfl⟩ := map_eq_ok.1 isWritten
      have front : ShorterOrSame [1] [1] := .inr rfl
      exact front.append (shorterOrSame_of_spelledBy content contentWritten contentSpelled)
  | .tuple elements, _, _, isWritten, spelled =>
      shorterOrSame_of_spelledByEach elements isWritten spelled
  | .variant index content, _, _, isWritten, ⟨_, _, isForm, contentSpelled, same⟩ => by
      subst same
      obtain ⟨body, contentWritten, rfl⟩ := map_eq_ok.1 isWritten
      exact (compact_shorterOrSame isForm).append
        (shorterOrSame_of_spelledBy content contentWritten contentSpelled)
  | .flattened _, _, _, isWritten, _ | .sparse _, _, _, isWritten, _ => nomatch isWritten

private theorem shorterOrSame_of_spelledByEach : ∀ (values : List Value) {written bytes : Bytes},
    encodeEach values = .ok written → SpelledByEach values bytes → ShorterOrSame written bytes
  | [], _, _, isWritten, spelled => by
      cases isWritten
      exact .inr spelled.symm
  | first :: others, _, _, isWritten, ⟨_, _, firstSpelled, othersSpelled, same⟩ => by
      subst same
      obtain ⟨head, tail, headWritten, tailWritten, rfl⟩ := encodeEach_cons_eq_ok.1 isWritten
      exact (shorterOrSame_of_spelledBy first headWritten firstSpelled).append
        (shorterOrSame_of_spelledByEach others tailWritten othersSpelled)

end

end Value

/-! ## Members -/

namespace WireType

/-- What is read as a member of a type starts with a spelling of it. -/
theorem exists_spelling_of_readMember {type : WireType} {input rest : Bytes}
    {member : type.Member} (ran : type.readMember input = .ok (member, rest)) :
    ∃ front, member.val.SpelledBy front ∧ input = front ++ rest := by
  have around : ∀ reader ∈ ([] : List (Reader Value)), TakesOnlySpellings reader := by simp
  exact read_takesOnly type around _ _ _ (readMember_eq_ok.1 ran)

theorem spelledBy_of_decode {type : WireType} {input : Bytes} {member : type.Member}
    (decoded : type.decode input = .ok member) : member.val.SpelledBy input := by
  obtain ⟨front, spelled, same⟩ := exists_spelling_of_readMember (decode_eq_ok.1 decoded)
  rw [List.append_nil] at same
  rwa [same]

/-- No input that is decoded as a member of a type is the start of another one. -/
theorem eq_of_decode_of_prefix {type : WireType} {left right : Bytes}
    {leftMember rightMember : type.Member} (leftDecoded : type.decode left = .ok leftMember)
    (rightDecoded : type.decode right = .ok rightMember) (starts : left <+: right) :
    left = right := by
  obtain ⟨rest, rfl⟩ := starts
  have read := readMember_append leftMember (spelledBy_of_decode leftDecoded) rest
  rw [decode_eq_ok.1 rightDecoded] at read
  cases read
  exact (List.append_nil left).symm

/-- The decoder of a type accepts exactly the spellings of the type's values: a member is decoded
from its spellings and from nothing else. What is written for it is the shortest of these inputs,
and no other of them is as short; and something is written for it, unless the type has a record that
is written by names and may have all of its fields left out. -/
theorem decode_eq_ok_iff_spelledBy (type : WireType) (input : Bytes) (member : type.Member) :
    (type.decode input = .ok member ↔ member.val.SpelledBy input) ∧
    (type.decode input = .ok member →
      (type.sparseFree = true → ∃ written, member.val.encode = .ok written) ∧
      ∀ written, member.val.encode = .ok written →
        written.length ≤ input.length ∧ (written.length = input.length → input = written)) := by
  constructor
  · constructor
    · exact spelledBy_of_decode
    · exact decode_of_spelledBy member
  · intro decoded
    have spelled := spelledBy_of_decode decoded
    refine ⟨fun free => ?_, fun written isWritten => ?_⟩
    · exact (Value.exists_encode_iff member.val).2 (writable_of_spelledBy free member spelled)
    · have bounded := member.val.shorterOrSame_of_spelledBy isWritten spelled
      exact ⟨bounded.length_le, fun same => (bounded.eq_of_length same).symm⟩

/-- A tree of one node, with the greatest number that takes a single byte. -/
def oneNode : Sample.tree.Member :=
  ⟨.tuple [.integer .i32 125, .list []], 1, _, rfl, _, _, rfl, ⟨_, rfl, by decide⟩,
    _, _, rfl, ⟨_, rfl, by simp⟩, rfl⟩

/-- The number behind a marker of two bytes, the length behind one of eight. -/
theorem decode_wideNode :
    let wide : Bytes := [0xFB, 250, 0, 0xFD, 0, 0, 0, 0, 0, 0, 0, 0]
    oneNode.val.SpelledBy wide ∧ Sample.tree.decode wide = .ok oneNode ∧
      ∃ written, oneNode.val.encode = .ok written ∧ written.length < wide.length := by
  intro wide
  have number : IntegerForm .i32 125 [0xFB, 250, 0] := CompactForm.two (by decide)
  have length : CompactForm false 0 [0xFD, 0, 0, 0, 0, 0, 0, 0, 0] := .eight (by decide)
  have spelled : oneNode.val.SpelledBy wide :=
    ⟨_, _, number, ⟨_, _, ⟨_, _, length, rfl, rfl⟩, rfl, rfl⟩, rfl⟩
  obtain ⟨accepted, shortest⟩ := decode_eq_ok_iff_spelledBy Sample.tree wide oneNode
  have decoded := accepted.2 spelled
  obtain ⟨someWritten, bounded⟩ := shortest decoded
  obtain ⟨written, isWritten⟩ := someWritten rfl
  obtain ⟨notLonger, onlyIt⟩ := bounded written isWritten
  refine ⟨spelled, decoded, written, isWritten, Nat.lt_of_le_of_ne notLonger fun same => ?_⟩
  have isWide := onlyIt same
  cases isWritten
  exact absurd isWide (by decide)

end WireType

end RemoteCall.Wire
