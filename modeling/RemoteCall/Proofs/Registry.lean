import Mathlib.Data.List.Nodup
import RemoteCall.Registry

/-!
Contract: a table by name is what it finds under each name.

Owns:
- what is found after an insertion, and when an insertion is refused;
- names and entries of a table in terms of what it finds;
- tables that find the same under every name, which are the same table.

Does not own: what the entries are.
-/

namespace RemoteCall

set_option autoImplicit false

theorem NameBefore.irrefl (name : String) : ¬ NameBefore name name :=
  List.lt_irrefl _

namespace Registry

variable {α : Type}

/-! ## Insertion -/

private theorem find?_place {name : String} {value : α} {entries : List (String × α)}
    (fresh : ∀ entry ∈ entries, entry.1 ≠ name) (other : String) :
    (place name value entries).find? (·.1 == other) =
      if name = other then some (name, value) else entries.find? (·.1 == other) := by
  have notFirst (entry : String × α) (rest : List (String × α)) (different : entry.1 ≠ other) :
      (entry :: rest).find? (·.1 == other) = rest.find? (·.1 == other) :=
    List.find?_cons_of_neg (by simpa using different)
  have isFirst (entry : String × α) (rest : List (String × α)) (same : entry.1 = other) :
      (entry :: rest).find? (·.1 == other) = some entry :=
    List.find?_cons_of_pos (by simpa using same)
  induction entries with
  | nil =>
      rw [place]
      by_cases same : name = other
      · rw [isFirst _ _ same, if_pos same]
      · rw [notFirst _ _ same, if_neg same]
  | cons head entries inductionHypothesis =>
      obtain ⟨headFresh, othersFresh⟩ := List.forall_mem_cons.1 fresh
      rw [place]
      by_cases before : NameBefore head.1 name
      · rw [if_pos before]
        by_cases isHead : head.1 = other
        · rw [isFirst _ _ isHead, isFirst _ _ isHead, if_neg (isHead ▸ Ne.symm headFresh)]
        · rw [notFirst _ _ isHead, notFirst _ _ isHead, inductionHypothesis othersFresh]
      · rw [if_neg before]
        by_cases same : name = other
        · rw [isFirst _ _ same, if_pos same]
        · rw [notFirst _ _ same, if_neg same]

theorem contains_iff {registry : Registry α} {name : String} :
    registry.contains name = true ↔ ∃ entry ∈ registry.entries, entry.1 = name := by
  unfold contains
  simp

/-- After an insertion, a name is looked up as before unless it is the one that was inserted. -/
theorem find?_insert? {registry larger : Registry α} {name : String} {value : α}
    (inserted : registry.insert? name value = some larger) (other : String) :
    larger.find? other = if name = other then some value else registry.find? other := by
  unfold insert? at inserted
  split at inserted
  · cases inserted
  · rename_i free
    cases inserted
    have fresh : ∀ entry ∈ registry.entries, entry.1 ≠ name :=
      fun entry member same => free (contains_iff.2 ⟨entry, member, same⟩)
    unfold find?
    rw [find?_place fresh]
    by_cases same : name = other <;> simp [same]

theorem contains_of_find? {registry : Registry α} {name : String} {value : α}
    (found : registry.find? name = some value) : registry.contains name = true := by
  obtain ⟨entry, isFirst, _⟩ := Option.map_eq_some_iff.1 found
  exact contains_iff.2 ⟨entry, List.mem_of_find?_eq_some isFirst,
    by simpa using List.find?_some isFirst⟩

/-- A name that is taken is not inserted. -/
theorem insert?_of_find? {registry : Registry α} {name : String} {value other : α}
    (found : registry.find? name = some value) : registry.insert? name other = none := by
  unfold insert?
  rw [dif_pos (contains_of_find? found)]

/-- Only a name that is taken is not inserted. -/
theorem insert?_eq_none_iff {registry : Registry α} {name : String} (value : α) :
    registry.insert? name value = none ↔ registry.contains name = true := by
  unfold insert?
  split <;> simp_all

/-! ## Names and entries -/

theorem mem_names {registry : Registry α} {name : String} :
    name ∈ registry.names ↔ registry.contains name = true := by
  rw [contains_iff, names, List.mem_map]

theorem names_ascending (registry : Registry α) : registry.names.Pairwise NameBefore :=
  List.pairwise_map.2 registry.ascending

theorem nodup_names (registry : Registry α) : registry.names.Nodup := by
  apply registry.names_ascending.imp
  intro left right before same
  rw [same] at before
  exact NameBefore.irrefl right before

/-- No two entries of a table have the same name. -/
theorem eq_of_mem_of_name_eq {registry : Registry α} {left right : String × α}
    (leftMember : left ∈ registry.entries) (rightMember : right ∈ registry.entries)
    (sameName : left.1 = right.1) : left = right :=
  List.inj_on_of_nodup_map registry.nodup_names leftMember rightMember sameName

theorem find?_eq_some_iff {registry : Registry α} {name : String} {value : α} :
    registry.find? name = some value ↔ (name, value) ∈ registry.entries := by
  constructor
  · intro found
    obtain ⟨entry, isFirst, rfl⟩ := Option.map_eq_some_iff.1 found
    have sameName : entry.1 = name := by simpa using List.find?_some isFirst
    rw [← sameName]
    exact List.mem_of_find?_eq_some isFirst
  · intro member
    have isFound : (registry.entries.find? fun entry => entry.1 == name).isSome := by
      rw [List.find?_isSome]
      exact ⟨(name, value), member, by simp⟩
    obtain ⟨entry, isFirst⟩ := Option.isSome_iff_exists.1 isFound
    have sameName : entry.1 = name := by simpa using List.find?_some isFirst
    have same := eq_of_mem_of_name_eq (List.mem_of_find?_eq_some isFirst) member sameName
    rw [find?, isFirst, same]
    rfl

/-- Nothing is found exactly under the names that a table does not have. -/
theorem find?_eq_none_iff {registry : Registry α} {name : String} :
    registry.find? name = none ↔ name ∉ registry.names := by
  rw [find?, Option.map_eq_none_iff, List.find?_eq_none, names, List.mem_map]
  constructor
  · rintro absent ⟨entry, member, sameName⟩
    exact absent entry member (by simpa using sameName)
  · intro absent entry member sameName
    exact absent ⟨entry, member, by simpa using sameName⟩

/-- A table is what it finds: tables that find the same under every name are the same. -/
theorem ext_find? {left right : Registry α}
    (alike : ∀ name, left.find? name = right.find? name) : left = right := by
  have sameEntries : ∀ entry, entry ∈ left.entries ↔ entry ∈ right.entries := by
    intro entry
    rw [← find?_eq_some_iff, ← find?_eq_some_iff, alike]
  have permutation : left.entries.Perm right.entries :=
    (List.perm_ext_iff_of_nodup left.nodup_names.of_map right.nodup_names.of_map).2 sameEntries
  have same : left.entries = right.entries := by
    apply permutation.eq_of_pairwise ?_ left.ascending right.ascending
    intro first second _ _ before after
    exact absurd (before.trans after) (NameBefore.irrefl first.1)
  cases left
  cases right
  cases same
  rfl

end Registry

end RemoteCall
