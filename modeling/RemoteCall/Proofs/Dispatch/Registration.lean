import RemoteCall.Proofs.Dispatch.Containment
import RemoteCall.Proofs.Dispatch.Result
import RemoteCall.Proofs.Envelope

/-!
Contract: however a dispatcher is composed, every name has the handler that was first registered
for it, and requests see exactly these names.

Owns:
- registrations that are made one after the other, and what comes of each;
- the names and handlers of the dispatcher that they compose, in terms of the registrations;
- the answer to a request for the names.

Does not own: what handlers do.
-/

namespace RemoteCall

set_option autoImplicit false

open Wire

variable {σ : Type}

namespace Dispatcher

/-! ## Registrations one after the other -/

/-- Makes registrations one after the other, and says what comes of each. One that fails leaves the
dispatcher as it is. -/
def registerEach (dispatcher : Dispatcher σ) :
    List (String × Handler σ) → List (Except NameTaken Unit) × Dispatcher σ
  | [] => ([], dispatcher)
  | (name, handler) :: others =>
      match dispatcher.register name handler with
      | .ok larger =>
          let rest := larger.registerEach others
          (.ok () :: rest.1, rest.2)
      | .error error =>
          let rest := dispatcher.registerEach others
          (.error error :: rest.1, rest.2)

/-- One of some registrations from the beginning gives the handler to the name, and succeeds. -/
def Registered (calls : List (String × Handler σ)) (name : String) (handler : Handler σ) : Prop :=
  ((name, handler), Except.ok ()) ∈ calls.zip (initial.registerEach calls).1

/-- A name that every dispatcher has, or that one of some registrations gave a handler to. -/
def Taken (calls : List (String × Handler σ)) (name : String) : Prop :=
  name = batchName ∨ name = namesName ∨ ∃ handler, Registered calls name handler

section Cons

variable {dispatcher larger : Dispatcher σ} {name : String} {handler : Handler σ}
  {others : List (String × Handler σ)}

theorem registerEach_cons_of_ok (registered : dispatcher.register name handler = .ok larger) :
    dispatcher.registerEach ((name, handler) :: others) =
      (.ok () :: (larger.registerEach others).1, (larger.registerEach others).2) := by
  rw [registerEach, registered]

theorem registerEach_cons_of_error {error : NameTaken}
    (refused : dispatcher.register name handler = .error error) :
    dispatcher.registerEach ((name, handler) :: others) =
      (.error error :: (dispatcher.registerEach others).1,
        (dispatcher.registerEach others).2) := by
  rw [registerEach, refused]

/-- A name that gets a handler had none. -/
theorem find?_eq_none_of_register (registered : dispatcher.register name handler = .ok larger) :
    dispatcher.handlers.find? name = none := by
  rw [← not_mem_names_iff]
  intro taken
  have refused : dispatcher.register name handler = .error ⟨name⟩ :=
    register_eq_error_iff.2 ⟨rfl, taken⟩
  rw [refused] at registered
  cases registered

/-- A name that is refused a handler has one. -/
theorem find?_ne_none_of_register {error : NameTaken}
    (refused : dispatcher.register name handler = .error error) :
    dispatcher.handlers.find? name ≠ none := by
  obtain ⟨_, taken⟩ := register_eq_error_iff.1 refused
  intro free
  exact not_mem_names_iff.2 free taken

end Cons

theorem registerEach_append (dispatcher : Dispatcher σ) (first second : List (String × Handler σ)) :
    dispatcher.registerEach (first ++ second) =
      ((dispatcher.registerEach first).1 ++
          ((dispatcher.registerEach first).2.registerEach second).1,
        ((dispatcher.registerEach first).2.registerEach second).2) := by
  induction first generalizing dispatcher with
  | nil => rfl
  | cons call calls inductionHypothesis =>
      obtain ⟨name, handler⟩ := call
      rw [List.cons_append]
      cases registered : dispatcher.register name handler with
      | ok larger =>
          rw [registerEach_cons_of_ok registered, registerEach_cons_of_ok registered,
            inductionHypothesis]
          rfl
      | error error =>
          rw [registerEach_cons_of_error registered, registerEach_cons_of_error registered,
            inductionHypothesis]
          rfl

private theorem lookup_cons_ite {α : Type} (first name : String) (value : α)
    (rest : List (String × α)) :
    ((first, value) :: rest).lookup name =
      if first = name then some value else rest.lookup name := by
  rw [List.lookup_cons]
  by_cases same : first = name
  · subst same
    simp
  · rw [if_neg same, beq_false_of_ne (Ne.symm same)]

/-- What is found under a name is what was there before, or else the first handler registered. -/
theorem find?_registerEach (dispatcher : Dispatcher σ) (calls : List (String × Handler σ))
    (name : String) :
    (dispatcher.registerEach calls).2.handlers.find? name =
      (dispatcher.handlers.find? name).or (calls.lookup name) := by
  induction calls generalizing dispatcher with
  | nil => simp [registerEach]
  | cons call calls inductionHypothesis =>
      obtain ⟨first, handler⟩ := call
      rw [lookup_cons_ite]
      cases registered : dispatcher.register first handler with
      | ok larger =>
          rw [registerEach_cons_of_ok registered, inductionHypothesis, find?_register registered]
          by_cases same : first = name
          · subst same
            simp [find?_eq_none_of_register registered]
          · rw [if_neg same, if_neg same]
      | error error =>
          rw [registerEach_cons_of_error registered, inductionHypothesis]
          by_cases same : first = name
          · subst same
            obtain ⟨found, isFound⟩ := Option.ne_none_iff_exists'.1
              (find?_ne_none_of_register registered)
            simp [isFound]
          · rw [if_neg same]

/-- A registration of a name succeeds if it is the first one of a name that was free. -/
theorem mem_zip_registerEach (dispatcher : Dispatcher σ) (calls : List (String × Handler σ))
    (name : String) (handler : Handler σ) :
    ((name, handler), Except.ok ()) ∈ calls.zip (dispatcher.registerEach calls).1 ↔
      dispatcher.handlers.find? name = none ∧ calls.lookup name = some handler := by
  induction calls generalizing dispatcher with
  | nil => simp [registerEach]
  | cons call calls inductionHypothesis =>
      obtain ⟨first, other⟩ := call
      rw [lookup_cons_ite]
      cases registered : dispatcher.register first other with
      | ok larger =>
          rw [registerEach_cons_of_ok registered, List.zip_cons_cons, List.mem_cons,
            inductionHypothesis, find?_register registered]
          by_cases same : first = name
          · subst same
            simp [find?_eq_none_of_register registered, eq_comm]
          · simp [same, Ne.symm same]
      | error error =>
          rw [registerEach_cons_of_error registered, List.zip_cons_cons, List.mem_cons,
            inductionHypothesis]
          by_cases same : first = name
          · subst same
            simp [find?_ne_none_of_register registered]
          · simp [same]

/-! ## From the beginning -/

theorem find?_initial (name : String) :
    (initial : Dispatcher σ).handlers.find? name = none ↔ name ≠ batchName ∧ name ≠ namesName := by
  rw [← not_mem_names_iff]
  show name ∉ [namesName, batchName] ↔ _
  simp [and_comm]

section Initial

variable {calls : List (String × Handler σ)} {name : String} {handler : Handler σ}

theorem registered_iff : Registered calls name handler ↔
    (initial : Dispatcher σ).handlers.find? name = none ∧ calls.lookup name = some handler :=
  mem_zip_registerEach initial calls name handler

/-- The names of a dispatcher are those that are taken. -/
theorem mem_names_registerEach :
    name ∈ (initial.registerEach calls).2.names ↔ Taken calls name := by
  rw [← not_not (a := name ∈ (initial.registerEach calls).2.names), not_mem_names_iff,
    find?_registerEach]
  unfold Taken
  simp only [registered_iff]
  cases free : (initial : Dispatcher σ).handlers.find? name with
  | some found =>
      have builtIn : ¬ (name ≠ batchName ∧ name ≠ namesName) := by
        rw [← find?_initial (σ := σ), free]
        simp
      simp only [Option.some_or, reduceCtorEq, not_false_eq_true, true_iff]
      by_cases isBatch : name = batchName
      · exact .inl isBatch
      · exact .inr (.inl (not_not.1 fun notNames => builtIn ⟨isBatch, notNames⟩))
  | none =>
      obtain ⟨notBatch, notNames⟩ := (find?_initial name).1 free
      simp only [Option.none_or, notBatch, notNames, false_or, true_and]
      exact Option.ne_none_iff_exists'

/-- A handler stays under the name for which it was registered. -/
theorem find?_of_registered (registered : Registered calls name handler)
    (later : List (String × Handler σ)) :
    (initial.registerEach (calls ++ later)).2.handlers.find? name = some handler := by
  obtain ⟨free, first⟩ := registered_iff.1 registered
  rw [find?_registerEach, free, List.lookup_append, first]
  rfl

/-- A further registration of a name that is taken fails, and nothing else comes of it. -/
theorem registerEach_of_taken (taken : Taken calls name) (handler : Handler σ) :
    initial.registerEach (calls ++ [(name, handler)]) =
      ((initial.registerEach calls).1 ++ [.error ⟨name⟩], (initial.registerEach calls).2) := by
  have refused : (initial.registerEach calls).2.register name handler = .error ⟨name⟩ :=
    register_eq_error_iff.2 ⟨rfl, mem_names_registerEach.2 taken⟩
  rw [registerEach_append, registerEach_cons_of_error refused]
  rfl

/-- A further registration of a name that is free succeeds. -/
theorem registerEach_of_free (free : ¬ Taken calls name) (handler : Handler σ) :
    (initial.registerEach (calls ++ [(name, handler)])).1 =
      (initial.registerEach calls).1 ++ [.ok ()] := by
  cases registered : (initial.registerEach calls).2.register name handler with
  | ok larger =>
      rw [registerEach_append, registerEach_cons_of_ok registered]
      rfl
  | error error =>
      obtain ⟨_, taken⟩ := register_eq_error_iff.1 registered
      exact absurd (mem_names_registerEach.1 taken) free

end Initial

/-! ## The order of registrations -/

private theorem lookup_eq_of_perm {α : Type} {left right : List (String × α)}
    (permutation : left.Perm right) (distinct : (left.map Prod.fst).Nodup) (name : String) :
    left.lookup name = right.lookup name := by
  induction permutation with
  | nil => rfl
  | cons entry _ inductionHypothesis =>
      rw [List.map_cons, List.nodup_cons] at distinct
      rw [lookup_cons_ite, lookup_cons_ite, inductionHypothesis distinct.2]
  | swap first second rest =>
      have different : second.1 ≠ first.1 := by
        intro same
        simp [same] at distinct
      rw [lookup_cons_ite, lookup_cons_ite, lookup_cons_ite, lookup_cons_ite]
      by_cases isFirst : first.1 = name
      · subst isFirst
        rw [if_neg different, if_pos rfl, if_pos rfl]
      · rw [if_neg isFirst, if_neg isFirst]
  | trans first _ firstHypothesis secondHypothesis =>
      rw [firstHypothesis distinct, secondHypothesis ((first.map Prod.fst).nodup distinct)]

/-- The order in which distinct names are registered makes no difference to the dispatcher. -/
theorem registerEach_perm (dispatcher : Dispatcher σ) {calls others : List (String × Handler σ)}
    (permutation : calls.Perm others) (distinct : (calls.map Prod.fst).Nodup) :
    (dispatcher.registerEach others).2 = (dispatcher.registerEach calls).2 := by
  have sameHandlers : (dispatcher.registerEach others).2.handlers =
      (dispatcher.registerEach calls).2.handlers := by
    apply Registry.ext_find?
    intro name
    rw [find?_registerEach, find?_registerEach, lookup_eq_of_perm permutation distinct]
  exact congrArg Dispatcher.mk sameHandlers

/-! ## The names, as they are answered -/

theorem composed_registerEach {dispatcher : Dispatcher σ} (composed : dispatcher.Composed)
    (calls : List (String × Handler σ)) : (dispatcher.registerEach calls).2.Composed := by
  induction calls generalizing dispatcher with
  | nil => exact composed
  | cons call calls inductionHypothesis =>
      obtain ⟨name, handler⟩ := call
      cases registered : dispatcher.register name handler with
      | ok larger =>
          rw [registerEach_cons_of_ok registered]
          exact inductionHypothesis (composed.register registered)
      | error error =>
          rw [registerEach_cons_of_error registered]
          exact inductionHypothesis composed

private theorem exists_encode_texts (texts : List String) :
    ∃ bytes, Transferable.encode texts = .ok bytes := by
  have each : ∃ bytes, Value.encodeEach (texts.map Value.text) = .ok bytes := by
    induction texts with
    | nil => exact ⟨[], rfl⟩
    | cons first others inductionHypothesis =>
        obtain ⟨bytes, written⟩ := inductionHypothesis
        exact ⟨_, Value.encodeEach_cons_eq_ok.2 ⟨_, bytes, rfl, written, rfl⟩⟩
  obtain ⟨bytes, written⟩ := each
  have listed := Value.encode_list (texts.map Value.text)
  rw [written] at listed
  exact ⟨_, listed⟩

private theorem short_toValue_texts {texts : List String} (count : texts.length < 2 ^ 64)
    (each : ∀ text ∈ texts, (Utf8.encode text).length < 2 ^ 64) :
    (Transferable.toValue texts).Short := by
  refine Value.every_list.2 ⟨?_, ?_⟩
  · rwa [Value.extent, List.length_map]
  · intro element member
    obtain ⟨text, found, rfl⟩ := List.mem_map.1 member
    exact Value.short_text.2 (each text found)

/-- A request for the names is answered with them at every permitted depth, and does nothing. -/
theorem answerAt_names {dispatcher : Dispatcher σ} (composed : dispatcher.Composed) {depth : Nat}
    (permitted : depth ≤ 32) (state : σ) :
    ∃ payload, (dispatcher.answerAt depth ⟨namesName, []⟩ state).outcome =
        .ok (.success payload) ∧
      (dispatcher.answerAt depth ⟨namesName, []⟩ state).state = state ∧
      Transferable.encode dispatcher.names = .ok payload := by
  obtain ⟨payload, written⟩ := exists_encode_texts dispatcher.names
  have admitted : dispatcher.Admits depth ⟨namesName, []⟩ .names (Transferable.toMember ()) := by
    refine ⟨permitted, composed.find?_builtIn.2, ?_⟩
    have written : Transferable.encode () = .ok [] := rfl
    have short : Value.unit.Short := Value.every_tuple.2 ⟨Nat.two_pow_pos 64, by simp⟩
    exact Transferable.decode_toMember written short
  have ran : (Handler.names : Handler σ).runAt dispatcher depth (Transferable.toMember ()) state =
      ⟨.returned (Transferable.toMember dispatcher.names), state, []⟩ :=
    Handler.run_of (fun _ : Unit => Program.names) () _ _ state
  refine ⟨payload, ?_, ?_, written⟩
  · rw [answerAt_outcome, resultAt_of_admits admitted, ran]
    show Except.map Response.ofResult (.ok ((Transferable.encode dispatcher.names).mapError
      Refusal.result)) = _
    rw [written]
    rfl
  · rw [answerAt_state, resultAt_of_admits admitted, ran]

/-! ## All that registration promises -/

/-- Whatever is registered under whatever names and in whatever order: a registration fails exactly
if its name is one of the two that every dispatcher has or was registered before, and one that fails
changes nothing; a name keeps the handler of the registration that succeeded; the names are in
strictly ascending order, and are the two and those that were registered; a name without a handler,
and no other, is an unknown command; a request for the names is answered with them; and distinct
names may be registered in any order. -/
theorem registerEach_keepsFirst (calls : List (String × Handler σ)) :
    let outcomes := (initial.registerEach calls).1
    let dispatcher := (initial.registerEach calls).2
    (∀ name handler, Taken calls name →
      initial.registerEach (calls ++ [(name, handler)]) =
        (outcomes ++ [.error ⟨name⟩], dispatcher)) ∧
    (∀ name handler, ¬ Taken calls name →
      (initial.registerEach (calls ++ [(name, handler)])).1 = outcomes ++ [.ok ()]) ∧
    (∀ name handler, Registered calls name handler → ∀ later,
      (initial.registerEach (calls ++ later)).2.handlers.find? name = some handler) ∧
    dispatcher.names.Pairwise NameBefore ∧
    (∀ name, name ∈ dispatcher.names ↔ Taken calls name) ∧
    (∀ name, dispatcher.contains name = true ↔ name ∈ dispatcher.names) ∧
    (∀ depth ≤ 32, ∀ name args state,
      let result := dispatcher.resultAt depth ⟨name, args⟩ state
      (result.outcome = .ok (.error (.unknownCommand name)) ↔ name ∉ dispatcher.names) ∧
      (dispatcher.answerAt depth ⟨name, args⟩ state).outcome =
        result.outcome.map Response.ofResult) ∧
    (∀ depth ≤ 32, ∀ state, ∃ payload,
      (dispatcher.answerAt depth ⟨namesName, []⟩ state).outcome = .ok (.success payload) ∧
      (dispatcher.names.length < 2 ^ 64 →
        (∀ name ∈ dispatcher.names, (Utf8.encode name).length < 2 ^ 64) →
        Transferable.decode (List String) payload = .ok dispatcher.names)) ∧
    (∀ others, calls.Perm others → (calls.map Prod.fst).Nodup →
      (initial.registerEach others).2 = dispatcher) := by
  intro outcomes dispatcher
  have composed : dispatcher.Composed := composed_registerEach .initial calls
  refine ⟨?_, ?_, ?_, ?_, ?_, ?_, ?_, ?_, ?_⟩
  · intro name handler taken
    exact registerEach_of_taken taken handler
  · intro name handler free
    exact registerEach_of_free free handler
  · intro name handler registered later
    exact find?_of_registered registered later
  · exact Registry.names_ascending dispatcher.handlers
  · intro name
    exact mem_names_registerEach
  · intro name
    exact Registry.mem_names.symm
  · intro depth permitted name args state
    refine ⟨?_, answerAt_outcome dispatcher depth ⟨name, args⟩ state⟩
    rw [not_mem_names_iff]
    exact @resultAt_unknownCommand_iff _ _ _ ⟨name, args⟩ _ permitted
  · intro depth permitted state
    obtain ⟨payload, answered, _, written⟩ := answerAt_names composed permitted state
    refine ⟨payload, answered, ?_⟩
    intro count each
    exact Transferable.decode_of_encode written (short_toValue_texts count each)
  · intro others permutation distinct
    exact registerEach_perm initial permutation distinct

/-- The notepad, composed with a batch of its own that is refused. -/
theorem registerEach_notepad :
    let calls : List (String × Handler Sample.State) :=
      [("Note", Sample.note), (batchName, Sample.totals)]
    let dispatcher := (initial.registerEach calls).2
    dispatcher.names = [namesName, batchName, "Note"] ∧
      Registered calls "Note" Sample.note ∧ Taken calls batchName ∧ ¬ Taken calls "Triple" ∧
      initial.registerEach (calls ++ [(batchName, Sample.note)]) =
        ([.ok (), .error ⟨batchName⟩, .error ⟨batchName⟩], dispatcher) ∧
      (initial.registerEach (calls ++ [("Triple", Sample.totals)])).1 =
        [.ok (), .error ⟨batchName⟩, .ok ()] ∧
      (initial.registerEach (calls ++ [("Note", Sample.totals)])).2.handlers.find? "Note" =
        some Sample.note ∧
      (dispatcher.resultAt 32 ⟨"Triple", []⟩ .initial).outcome =
        .ok (.error (.unknownCommand "Triple")) ∧
      (∃ payload, (dispatcher.answerAt 32 ⟨namesName, []⟩ .initial).outcome =
          .ok (.success payload) ∧
        Transferable.decode (List String) payload = .ok [namesName, batchName, "Note"]) ∧
      (initial.registerEach calls.reverse).2 = dispatcher := by
  intro calls dispatcher
  have names : dispatcher.names = [namesName, batchName, "Note"] := rfl
  obtain ⟨refuses, accepts, keeps, _, named, _, unknown, listed, anyOrder⟩ :=
    registerEach_keepsFirst calls
  have registered : Registered calls "Note" Sample.note := List.mem_cons_self
  have taken : Taken calls batchName := .inl rfl
  have free : ¬ Taken calls "Triple" := by
    rw [← named]
    show "Triple" ∉ [namesName, batchName, "Note"]
    decide
  have unknownTriple : "Triple" ∉ dispatcher.names := fun found => free ((named _).1 found)
  obtain ⟨payload, answered, decoded⟩ := listed 32 (by decide) .initial
  have readBack : Transferable.decode (List String) payload = .ok dispatcher.names := by
    apply decoded
    · show [namesName, batchName, "Note"].length < 2 ^ 64
      decide
    · show ∀ name ∈ [namesName, batchName, "Note"], (Utf8.encode name).length < 2 ^ 64
      decide
  refine ⟨names, registered, taken, free, refuses batchName Sample.note taken,
    accepts "Triple" Sample.totals free, keeps "Note" Sample.note registered _,
    (unknown 32 (by decide) "Triple" [] .initial).1.2 unknownTriple, ?_, ?_⟩
  · rw [names] at readBack
    exact ⟨payload, answered, readBack⟩
  · exact anyOrder calls.reverse (List.reverse_perm calls).symm (by decide)

end Dispatcher

end RemoteCall
