import RemoteCall.Wire.Read

/-!
Contract: the ordinary types whose values cross the wire.

Owns:
- the class of such types: a wire type, and a one-to-one match of values with its members;
- the instances for numbers, texts, lists, options and pairs;
- writing a value and reading one back.

Does not own: the types of an application, which give instances of their own.
-/

namespace RemoteCall

set_option autoImplicit false

open Wire

/-- A type whose values are matched one to one with the members of a wire type. -/
class Transferable (α : Type) where
  type : WireType
  toValue : α → Value
  ofValue? : Value → Option α
  ofValue?_toValue : ∀ value, ofValue? (toValue value) = some value
  toValue_conforms : ∀ value, type.Conforms [] (toValue value)
  exists_of_conforms : ∀ wireValue, type.Conforms [] wireValue → ∃ value, toValue value = wireValue

namespace Transferable

variable {α β : Type}

/-- The member of the wire type that stands for a value. -/
def toMember [Transferable α] (value : α) : (type α).Member :=
  ⟨toValue value, toValue_conforms value⟩

theorem isSome_ofValue? [Transferable α] (member : (type α).Member) :
    (ofValue? (α := α) member.val).isSome := by
  obtain ⟨value, same⟩ := exists_of_conforms (α := α) member.val member.property
  rw [← same, ofValue?_toValue]
  rfl

/-- The value that a member of the wire type stands for. -/
def ofMember [Transferable α] (member : (type α).Member) : α :=
  (ofValue? (α := α) member.val).get (isSome_ofValue? member)

@[simp] theorem ofMember_toMember [Transferable α] (value : α) :
    ofMember (toMember value) = value := by
  simp [ofMember, toMember, ofValue?_toValue]

@[simp] theorem toMember_ofMember [Transferable α] (member : (type α).Member) :
    toMember (ofMember member) = member := by
  obtain ⟨value, same⟩ := exists_of_conforms (α := α) member.val member.property
  have : member = toMember value := Subtype.ext same.symm
  rw [this, ofMember_toMember]

/-- The bytes of a value, unless it holds a record that cannot be written. -/
def encode [Transferable α] (value : α) : Except EncodeError Bytes :=
  (toValue value).encode

/-- The value at the front of the input; what follows it is not looked at. -/
def decodeFront (α : Type) [Transferable α] (input : Bytes) : Except DecodeError α :=
  ((type α).readMember input).map fun front => ofMember front.1

/-- The value that the whole input spells. -/
def decode (α : Type) [Transferable α] (input : Bytes) : Except DecodeError α :=
  ((type α).decode input).map ofMember

/-! ## Instances -/

instance : Transferable Unit where
  type := .unit
  toValue _ := .unit
  ofValue?
    | .tuple [] => some ()
    | _ => none
  ofValue?_toValue _ := rfl
  toValue_conforms _ := ⟨[], rfl, rfl⟩
  exists_of_conforms := by
    rintro _ ⟨_, rfl, rfl⟩
    exact ⟨(), rfl⟩

instance : Transferable Bool where
  type := .bool
  toValue := .bool
  ofValue?
    | .bool truth => some truth
    | _ => none
  ofValue?_toValue _ := rfl
  toValue_conforms truth := ⟨truth, rfl⟩
  exists_of_conforms := by
    rintro _ ⟨truth, rfl⟩
    exact ⟨truth, rfl⟩

instance : Transferable Char where
  type := .char
  toValue := .char
  ofValue?
    | .char character => some character
    | _ => none
  ofValue?_toValue _ := rfl
  toValue_conforms character := ⟨character, rfl⟩
  exists_of_conforms := by
    rintro _ ⟨character, rfl⟩
    exact ⟨character, rfl⟩

instance : Transferable String where
  type := .text
  toValue := .text
  ofValue?
    | .text content => some content
    | _ => none
  ofValue?_toValue _ := rfl
  toValue_conforms content := ⟨content, rfl⟩
  exists_of_conforms := by
    rintro _ ⟨content, rfl⟩
    exact ⟨content, rfl⟩

/-- A type of numbers that is matched one to one with the numbers of a format. -/
@[reducible] def ofFormat (format : IntegerFormat) (toInt : α → Int) (ofInt : Int → α)
    (ofInt_toInt : ∀ number, ofInt (toInt number) = number)
    (holds : ∀ number, format.Holds (toInt number))
    (toInt_ofInt : ∀ number, format.Holds number → toInt (ofInt number) = number) :
    Transferable α where
  type := .integer format
  toValue number := .integer format (toInt number)
  ofValue?
    | .integer found number =>
        if found = format ∧ format.Holds number then some (ofInt number) else none
    | _ => none
  ofValue?_toValue number := by simp [holds, ofInt_toInt]
  toValue_conforms number := ⟨_, rfl, holds number⟩
  exists_of_conforms := by
    rintro _ ⟨number, rfl, inRange⟩
    exact ⟨ofInt number, by rw [toInt_ofInt number inRange]⟩

private theorem holds_ofNat {format : IntegerFormat} (unsigned : format.signed = false)
    {number : Nat} (below : number < 1 <<< format.width.bits) : format.Holds number := by
  unfold IntegerFormat.Holds IntegerFormat.least IntegerFormat.bound
  rw [unsigned, if_neg Bool.false_ne_true, if_neg Bool.false_ne_true]
  exact ⟨Int.natCast_nonneg number, by exact_mod_cast below⟩

private theorem lt_of_holds {format : IntegerFormat} (unsigned : format.signed = false)
    {number : Int} (holds : format.Holds number) :
    0 ≤ number ∧ number.toNat < 1 <<< format.width.bits := by
  unfold IntegerFormat.Holds IntegerFormat.least IntegerFormat.bound at holds
  rw [unsigned, if_neg Bool.false_ne_true, if_neg Bool.false_ne_true] at holds
  exact ⟨holds.1, (Int.toNat_lt holds.1).2 (by exact_mod_cast holds.2)⟩

/-- A type of numbers that is matched one to one with the numbers of an unsigned format. -/
@[reducible] def ofUnsigned (format : IntegerFormat) (unsigned : format.signed = false)
    (toNat : α → Nat) (ofNat : Nat → α) (ofNat_toNat : ∀ number, ofNat (toNat number) = number)
    (below : ∀ number, toNat number < 1 <<< format.width.bits)
    (toNat_ofNat : ∀ number, number < 1 <<< format.width.bits → toNat (ofNat number) = number) :
    Transferable α :=
  ofFormat format (fun number => toNat number) (fun number => ofNat number.toNat)
    (fun number => ofNat_toNat number)
    (fun number => holds_ofNat unsigned (below number))
    (fun number holds => by
      obtain ⟨lower, upper⟩ := lt_of_holds unsigned holds
      rw [toNat_ofNat number.toNat upper, Int.toNat_of_nonneg lower])

instance : Transferable UInt8 :=
  ofUnsigned .u8 rfl UInt8.toNat UInt8.ofNat (fun _ => UInt8.ofNat_toNat)
    (fun number => number.toNat_lt) (fun _ below => UInt8.toNat_ofNat_of_lt below)

instance : Transferable UInt32 :=
  ofUnsigned .u32 rfl UInt32.toNat UInt32.ofNat (fun _ => UInt32.ofNat_toNat)
    (fun number => number.toNat_lt) (fun _ below => UInt32.toNat_ofNat_of_lt below)

instance : Transferable UInt64 :=
  ofUnsigned .u64 rfl UInt64.toNat UInt64.ofNat (fun _ => UInt64.ofNat_toNat)
    (fun number => number.toNat_lt) (fun _ below => UInt64.toNat_ofNat_of_lt below)

instance : Transferable Int32 :=
  ofFormat .i32 Int32.toInt Int32.ofInt (fun number => Int32.ofInt_toInt number)
    (fun number => ⟨number.le_toInt, number.toInt_lt⟩)
    (fun _ holds => Int32.toInt_ofInt_of_le holds.1 holds.2)

instance : Transferable Int64 :=
  ofFormat .i64 Int64.toInt Int64.ofInt (fun number => Int64.ofInt_toInt number)
    (fun number => ⟨number.le_toInt, number.toInt_lt⟩)
    (fun _ holds => Int64.toInt_ofInt_of_le holds.1 holds.2)

private theorem mapM_ofValue?_toValue [Transferable α] (values : List α) :
    (values.map toValue).mapM (ofValue? (α := α)) = some values := by
  induction values with
  | nil => rfl
  | cons first others inductionHypothesis =>
      simp [List.mapM_cons, ofValue?_toValue, inductionHypothesis]

private theorem exists_map_toValue [Transferable α] (elements : List Value)
    (conform : ∀ member ∈ elements, (type α).Conforms [] member) :
    ∃ values : List α, values.map toValue = elements := by
  induction elements with
  | nil => exact ⟨[], rfl⟩
  | cons first others inductionHypothesis =>
      obtain ⟨value, rfl⟩ := exists_of_conforms (α := α) first (conform _ (by simp))
      obtain ⟨values, rfl⟩ := inductionHypothesis fun member found => conform member (by simp [found])
      exact ⟨value :: values, rfl⟩

instance [Transferable α] : Transferable (List α) where
  type := .list (type α)
  toValue values := .list (values.map toValue)
  ofValue?
    | .list elements => elements.mapM ofValue?
    | _ => none
  ofValue?_toValue values := mapM_ofValue?_toValue values
  toValue_conforms values := ⟨_, rfl, fun member found => by
    obtain ⟨value, _, rfl⟩ := List.mem_map.1 found
    exact toValue_conforms value⟩
  exists_of_conforms := by
    rintro _ ⟨elements, rfl, conform⟩
    obtain ⟨values, rfl⟩ := exists_map_toValue elements conform
    exact ⟨values, rfl⟩

instance [Transferable α] : Transferable (Option α) where
  type := .option (type α)
  toValue
    | none => .absent
    | some value => .present (toValue value)
  ofValue?
    | .absent => some none
    | .present content => (ofValue? content).map some
    | _ => none
  ofValue?_toValue value := by cases value <;> simp [ofValue?_toValue]
  toValue_conforms
    | none => .inl rfl
    | some value => .inr ⟨_, rfl, toValue_conforms value⟩
  exists_of_conforms := by
    rintro _ (rfl | ⟨inner, rfl, conforms⟩)
    · exact ⟨none, rfl⟩
    · obtain ⟨value, rfl⟩ := exists_of_conforms (α := α) inner conforms
      exact ⟨some value, rfl⟩

/-- A type of two parts that is matched one to one with pairs of values, whatever wire type it
has, as long as that type's members are the pairs of members of the parts' types. -/
@[reducible] def ofPair {γ : Type} [Transferable α] [Transferable β] (pairType : WireType)
    (sameMembers : ∀ value, pairType.Conforms [] value ↔
      (WireType.tuple [type α, type β]).Conforms [] value)
    (split : γ → α × β) (join : α × β → γ)
    (join_split : ∀ whole, join (split whole) = whole)
    (split_join : ∀ parts, split (join parts) = parts) : Transferable γ where
  type := pairType
  toValue whole := .tuple [toValue (split whole).1, toValue (split whole).2]
  ofValue?
    | .tuple [left, right] => do
        let first ← ofValue? left
        let second ← ofValue? right
        return join (first, second)
    | _ => none
  ofValue?_toValue whole := by simp [ofValue?_toValue, join_split]
  toValue_conforms whole := (sameMembers _).2
    ⟨_, rfl, _, _, rfl, toValue_conforms _, _, _, rfl, toValue_conforms _, rfl⟩
  exists_of_conforms := by
    intro value conforms
    obtain ⟨_, rfl, first, _, rfl, firstConforms, second, _, rfl, secondConforms, rfl⟩ :=
      (sameMembers value).1 conforms
    obtain ⟨left, rfl⟩ := exists_of_conforms (α := α) first firstConforms
    obtain ⟨right, rfl⟩ := exists_of_conforms (α := β) second secondConforms
    exact ⟨join (left, right), by rw [split_join]⟩

instance [Transferable α] [Transferable β] : Transferable (α × β) :=
  ofPair (.tuple [type α, type β]) (fun _ => Iff.rfl) id id (fun _ => rfl) (fun _ => rfl)

end Transferable

end RemoteCall
