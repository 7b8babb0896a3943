import RemoteCall.Proofs.Dispatch.Batch

/-!
Contract: batches inside batches, and how they are to be answered.

Owns:
- trees of batches, and the request that runs one;
- the answer to a tree as a relation over the states before and after it, in which every request
  below the nesting limit is refused;
- the state after a tree: the one that its permitted leaves leave, one after the other.

Does not own: that a dispatcher answers trees in this way.
-/

namespace RemoteCall

set_option autoImplicit false

/-- A batch of some command, or a batch of batches. -/
inductive BatchTree where
  | leaves (command : String) (arguments : List Bytes)
  | nested (trees : List BatchTree)

namespace BatchTree

/-! ## Requests -/

mutual

/-- The batch that a tree stands for. -/
def toBatch : BatchTree → Batch
  | .leaves command arguments => ⟨command, arguments⟩
  | .nested trees => ⟨batchName, encodeEach trees⟩

/-- The bytes of the batches that some trees stand for. -/
def encodeEach : List BatchTree → List Bytes
  | [] => []
  | tree :: trees => (toBatch tree).encode :: encodeEach trees

end

/-- The request that runs a tree. -/
def request (tree : BatchTree) : Request :=
  ⟨batchName, tree.toBatch.encode⟩

theorem requests_nested (trees : List BatchTree) :
    (nested trees).toBatch.requests = trees.map request := by
  rw [toBatch, Batch.requests]
  induction trees with
  | nil => rfl
  | cons tree trees inductionHypothesis =>
      rw [encodeEach, List.map_cons, List.map_cons, inductionHypothesis]
      rfl

theorem mem_encodeEach {tree : BatchTree} {trees : List BatchTree} (found : tree ∈ trees) :
    tree.toBatch.encode ∈ encodeEach trees := by
  induction trees with
  | nil => cases found
  | cons first others inductionHypothesis =>
      rw [encodeEach]
      rcases List.mem_cons.1 found with rfl | later
      · exact List.mem_cons_self
      · exact List.mem_cons_of_mem _ (inductionHypothesis later)

end BatchTree

/-! ## Answers -/

/-- A success whose payload is read as a list of slots, each of which is read as a response. -/
structure Response.CarriesSlots (response : Response) (responses : List Response) : Prop where
  ok : response.ok = true
  slots : ∃ slots, Transferable.decode (List Bytes) response.payload = .ok slots ∧
    slots.map Response.decode = responses.map .ok

section Answers

variable {σ : Type} (dispatcher : Dispatcher σ)

/-- The answer to one request of a batch at a level, and the states before and after it. -/
inductive LeafAnswered (level : Nat) (request : Request) : σ → Response → σ → Prop
  | served {before : σ} {response : Response} : level ≤ 32 →
      (dispatcher.answerAt level request before).outcome = .ok response →
      LeafAnswered level request before response
        (dispatcher.answerAt level request before).state
  | tooDeep {state : σ} : 32 < level →
      LeafAnswered level request state (.failure "batches nested more than 32 deep") state

/-- The answers to the requests of a batch, each in the state that the one before it left. -/
inductive LeavesAnswered (level : Nat) (command : String) :
    List Bytes → σ → List Response → σ → Prop
  | nil {state : σ} : LeavesAnswered level command [] state [] state
  | cons {args : Bytes} {arguments : List Bytes} {before between after : σ}
      {response : Response} {responses : List Response} :
      LeafAnswered dispatcher level ⟨command, args⟩ before response between →
      LeavesAnswered level command arguments between responses after →
      LeavesAnswered level command (args :: arguments) before (response :: responses) after

mutual

/-- The answer to a tree of batches at a level, and the states before and after it. -/
inductive TreeAnswered : (level : Nat) → BatchTree → σ → Response → σ → Prop
  | leaves {level : Nat} {command : String} {arguments : List Bytes} {before after : σ}
      {response : Response} {responses : List Response} : level ≤ 32 →
      LeavesAnswered dispatcher (level + 1) command arguments before responses after →
      response.CarriesSlots responses →
      TreeAnswered level (.leaves command arguments) before response after
  | nested {level : Nat} {trees : List BatchTree} {before after : σ}
      {response : Response} {responses : List Response} : level ≤ 32 →
      TreesAnswered (level + 1) trees before responses after →
      response.CarriesSlots responses →
      TreeAnswered level (.nested trees) before response after
  | tooDeep {level : Nat} {tree : BatchTree} {state : σ} : 32 < level →
      TreeAnswered level tree state (.failure "batches nested more than 32 deep") state

/-- The answers to trees at a level, each in the state that the one before it left. -/
inductive TreesAnswered : (level : Nat) → List BatchTree → σ → List Response → σ → Prop
  | nil {level : Nat} {state : σ} : TreesAnswered level [] state [] state
  | cons {level : Nat} {tree : BatchTree} {trees : List BatchTree} {before between after : σ}
      {response : Response} {responses : List Response} :
      TreeAnswered level tree before response between →
      TreesAnswered level trees between responses after →
      TreesAnswered level (tree :: trees) before (response :: responses) after

end

end Answers

/-! ## The state after a tree -/

namespace BatchTree

mutual

/-- The leaves of a tree that are not below the nesting limit, from left to right, each with its
level. -/
def permittedLeaves : (level : Nat) → BatchTree → List (Nat × Request)
  | level, .leaves command arguments =>
      if level + 1 ≤ 32 then arguments.map fun args => (level + 1, ⟨command, args⟩)
      else []
  | level, .nested trees => permittedLeavesOfEach (level + 1) trees

/-- The leaves of some trees that are not below the nesting limit. -/
def permittedLeavesOfEach : (level : Nat) → List BatchTree → List (Nat × Request)
  | _, [] => []
  | level, tree :: trees => permittedLeaves level tree ++ permittedLeavesOfEach level trees

end

mutual

theorem permittedLeaves_of_tooDeep : ∀ (level : Nat) (tree : BatchTree), 32 < level →
    permittedLeaves level tree = []
  | level, .leaves command arguments, below => by
      rw [permittedLeaves, if_neg (by omega)]
  | level, .nested trees, below => by
      rw [permittedLeaves, permittedLeavesOfEach_of_tooDeep (level + 1) trees (by omega)]

private theorem permittedLeavesOfEach_of_tooDeep : ∀ (level : Nat) (trees : List BatchTree),
    32 < level → permittedLeavesOfEach level trees = []
  | _, [], _ => rfl
  | level, tree :: trees, below => by
      rw [permittedLeavesOfEach, permittedLeaves_of_tooDeep level tree below,
        permittedLeavesOfEach_of_tooDeep level trees below]
      rfl

end

end BatchTree

section State

variable {σ : Type} {dispatcher : Dispatcher σ}

/-- The state that requests leave, each of which is served at its level, one after the other. -/
def Dispatcher.stateAfter (dispatcher : Dispatcher σ) (requests : List (Nat × Request))
    (state : σ) : σ :=
  requests.foldl (fun state leaf => (dispatcher.answerAt leaf.1 leaf.2 state).state) state

theorem Dispatcher.stateAfter_append (first others : List (Nat × Request)) (state : σ) :
    dispatcher.stateAfter (first ++ others) state =
      dispatcher.stateAfter others (dispatcher.stateAfter first state) :=
  List.foldl_append

theorem LeavesAnswered.state_eq {level : Nat} {command : String} {arguments : List Bytes}
    {before after : σ} {responses : List Response}
    (answered : LeavesAnswered dispatcher level command arguments before responses after) :
    after = dispatcher.stateAfter
      (if level ≤ 32 then arguments.map fun args => (level, ⟨command, args⟩) else [])
        before := by
  induction answered with
  | nil =>
      rw [List.map_nil, ite_self]
      rfl
  | cons leafAnswered _ inductionHypothesis =>
      rw [inductionHypothesis]
      cases leafAnswered with
      | served permitted =>
          rw [if_pos permitted, if_pos permitted]
          rfl
      | tooDeep below =>
          have notPermitted : ¬ level ≤ 32 := by omega
          rw [if_neg notPermitted, if_neg notPermitted]

mutual

/-- The state after a tree is the one that its permitted leaves leave, one after the other. -/
theorem TreeAnswered.state_eq {level : Nat} {tree : BatchTree} {before after : σ}
    {response : Response} (answered : TreeAnswered dispatcher level tree before response after) :
    after = dispatcher.stateAfter (tree.permittedLeaves level) before := by
  cases answered with
  | leaves _ leavesAnswered _ =>
      rw [BatchTree.permittedLeaves]
      exact leavesAnswered.state_eq
  | nested _ treesAnswered _ =>
      rw [BatchTree.permittedLeaves]
      exact treesAnswered.state_eq
  | tooDeep below =>
      rw [BatchTree.permittedLeaves_of_tooDeep level tree below]
      rfl

private theorem TreesAnswered.state_eq {level : Nat} {trees : List BatchTree} {before after : σ}
    {responses : List Response}
    (answered : TreesAnswered dispatcher level trees before responses after) :
    after = dispatcher.stateAfter (BatchTree.permittedLeavesOfEach level trees) before := by
  cases answered with
  | nil => rfl
  | cons treeAnswered othersAnswered =>
      rw [BatchTree.permittedLeavesOfEach, Dispatcher.stateAfter_append, ← treeAnswered.state_eq]
      exact othersAnswered.state_eq

end

end State

end RemoteCall
