import RemoteCall.Text.Utf8

/-!
Contract: a table by name, in ascending order of the names' bytes.

Owns:
- the order of names;
- the table, whose order is part of its type;
- look-up, and insertion that refuses a name that is taken.

Does not own: what the entries are.
-/

namespace RemoteCall

set_option autoImplicit false

/-- Names are ordered by their UTF-8 bytes. -/
def NameBefore (left right : String) : Prop :=
  Utf8.encode left < Utf8.encode right

instance (left right : String) : Decidable (NameBefore left right) :=
  inferInstanceAs (Decidable (_ < _))

theorem NameBefore.trans {first second third : String} (left : NameBefore first second)
    (right : NameBefore second third) : NameBefore first third :=
  List.lt_trans left right

/-- A table by name. -/
structure Registry (α : Type) where
  entries : List (String × α)
  ascending : entries.Pairwise fun left right => NameBefore left.1 right.1

namespace Registry

variable {α : Type}

def names (registry : Registry α) : List String :=
  registry.entries.map Prod.fst

def contains (registry : Registry α) (name : String) : Bool :=
  registry.entries.any fun entry => entry.1 == name

def find? (registry : Registry α) (name : String) : Option α :=
  (registry.entries.find? fun entry => entry.1 == name).map Prod.snd

/-- Puts an entry in front of the first one whose name is not before its own. -/
def place (name : String) (value : α) : List (String × α) → List (String × α)
  | [] => [(name, value)]
  | entry :: entries =>
      if NameBefore entry.1 name then entry :: place name value entries
      else (name, value) :: entry :: entries

theorem mem_place {name : String} {value : α} {entry : String × α}
    {entries : List (String × α)} :
    entry ∈ place name value entries ↔ entry = (name, value) ∨ entry ∈ entries := by
  induction entries with
  | nil => simp [place]
  | cons head entries inductionHypothesis =>
      rw [place]
      split
      · simp only [List.mem_cons, inductionHypothesis]
        exact or_left_comm
      · simp

theorem place_ascending {name : String} {value : α} :
    ∀ {entries : List (String × α)},
      (entries.Pairwise fun left right => NameBefore left.1 right.1) →
      (∀ entry ∈ entries, entry.1 ≠ name) →
      (place name value entries).Pairwise fun left right => NameBefore left.1 right.1
  | [], _, _ => .cons (by simp) .nil
  | head :: entries, ascending, fresh => by
      obtain ⟨headBefore, tailAscending⟩ := List.pairwise_cons.1 ascending
      rw [place]
      split
      · rename_i before
        refine .cons (fun entry member => ?_) (place_ascending tailAscending fun entry member =>
          fresh entry (List.mem_cons_of_mem _ member))
        rcases mem_place.1 member with rfl | member
        · exact before
        · exact headBefore entry member
      · rename_i notBefore
        have headAfter : NameBefore name head.1 := by
          rcases Std.lt_trichotomy (Utf8.encode name) (Utf8.encode head.1) with before | same | after
          · exact before
          · exact absurd (Utf8.encode_injective same).symm (fresh head (by simp))
          · exact absurd after notBefore
        refine .cons (fun entry member => ?_) ascending
        cases member with
        | head => exact headAfter
        | tail _ member => exact headAfter.trans (headBefore entry member)

/-- Adds an entry, unless its name is taken. -/
def insert? (registry : Registry α) (name : String) (value : α) : Option (Registry α) :=
  if taken : registry.contains name then none
  else some ⟨place name value registry.entries, place_ascending registry.ascending (by
    intro entry member same
    exact taken (List.any_eq_true.2 ⟨entry, member, by simp [same]⟩))⟩

end Registry

end RemoteCall
