import RemoteCall.Dispatcher
import RemoteCall.Proofs.Registry

/-!
Contract: what registration does to the handlers of a dispatcher.

Owns:
- what is found under a name after a registration;
- the dispatchers that come about by registration, each of which has the two commands that every
  dispatcher has.

Does not own: what becomes of requests.
-/

namespace RemoteCall

set_option autoImplicit false

namespace Dispatcher

variable {σ : Type}

/-- The names are those under which a handler is found. -/
theorem not_mem_names_iff {dispatcher : Dispatcher σ} {name : String} :
    name ∉ dispatcher.names ↔ dispatcher.handlers.find? name = none :=
  Registry.find?_eq_none_iff.symm

/-- After a registration a name has the handler that it had, unless it is the one registered. -/
theorem find?_register {dispatcher larger : Dispatcher σ} {name : String} {handler : Handler σ}
    (registered : dispatcher.register name handler = .ok larger) (other : String) :
    larger.handlers.find? other =
      if name = other then some handler else dispatcher.handlers.find? other := by
  unfold register at registered
  split at registered
  · rename_i handlers inserted
    cases registered
    exact Registry.find?_insert? inserted other
  · cases registered

/-- A registration fails exactly if its name is taken, and says so. -/
theorem register_eq_error_iff {dispatcher : Dispatcher σ} {name : String} {handler : Handler σ}
    {error : NameTaken} :
    dispatcher.register name handler = .error error ↔
      error = ⟨name⟩ ∧ name ∈ dispatcher.names := by
  rw [names, Registry.mem_names, ← Registry.insert?_eq_none_iff handler, register]
  cases dispatcher.handlers.insert? name handler with
  | some handlers => simp
  | none => simp [eq_comm]

/-- A name keeps its handler through every later registration. -/
theorem find?_register_of_find? {dispatcher larger : Dispatcher σ} {name other : String}
    {handler found : Handler σ} (registered : dispatcher.register name handler = .ok larger)
    (before : dispatcher.handlers.find? other = some found) :
    larger.handlers.find? other = some found := by
  rw [find?_register registered, before]
  apply if_neg
  rintro rfl
  have taken : dispatcher.register name handler = .error ⟨name⟩ := by
    rw [register, Registry.insert?_of_find? before]
  rw [taken] at registered
  cases registered

/-- The dispatchers that an application can have: the initial one, and what registration makes of
one of them. -/
inductive Composed : Dispatcher σ → Prop where
  | initial : Composed .initial
  | register {dispatcher larger : Dispatcher σ} {name : String} {handler : Handler σ} :
      Composed dispatcher → dispatcher.register name handler = .ok larger → Composed larger

/-- The two commands that every dispatcher has cannot be replaced. -/
theorem Composed.find?_builtIn {dispatcher : Dispatcher σ} (composed : dispatcher.Composed) :
    dispatcher.handlers.find? batchName = some .batch ∧
      dispatcher.handlers.find? namesName = some .names := by
  induction composed with
  | initial => exact ⟨rfl, rfl⟩
  | register _ registered inductionHypothesis =>
      exact ⟨find?_register_of_find? registered inductionHypothesis.1,
        find?_register_of_find? registered inductionHypothesis.2⟩

end Dispatcher

end RemoteCall
