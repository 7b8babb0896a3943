import RemoteCall.Handler

/-!
Contract: the two commands that every dispatcher has.

Owns:
- batches, which dispatch one request for each of a list of arguments and answer with one
  response for each, in the same order;
- the list of the registered names.

Does not own: how deep batches may nest.
-/

namespace RemoteCall

set_option autoImplicit false

/-- The name of the command that runs a batch. -/
def batchName : String := "Foreach"

/-- The name of the command that lists the names. -/
def namesName : String := "Commands"

/-- A batch: the command to run, and its written arguments. -/
structure Batch where
  command : String
  arguments : List Bytes
deriving DecidableEq, Repr

/-- A batch is written as the pair of its parts. -/
instance : Transferable Batch :=
  Transferable.ofPair (α := String) (β := List Bytes) (.tuple [.text, .list .bytes])
    (fun _ => Iff.rfl) (fun batch => (batch.command, batch.arguments))
    (fun parts => ⟨parts.1, parts.2⟩) (fun _ => rfl) (fun _ => rfl)

namespace Batch

def encode (batch : Batch) : Bytes :=
  Wire.sized (Utf8.encode batch.command) ++
    (Wire.compact batch.arguments.length ++ batch.arguments.flatMap Wire.sized)

/-- The batch of a command over some arguments, which are taken to be ones that can be written. -/
def ofValues (command : String) (arguments : List Wire.Value) : Except Panic Batch :=
  (arguments.mapM Wire.Value.encodeOrPanic).map fun written => ⟨command, written⟩

/-- Dispatches one request for each argument, one after the other, and gathers the bytes of the
responses. -/
def respond {σ : Type} (command : String) : List Bytes → Program σ (List Bytes)
  | [] => pure []
  | args :: others => do
      let response ← Program.request ⟨command, args⟩
      let slots ← respond command others
      return response.encode :: slots

theorem encodeEach_map_bytes (arguments : List Bytes) :
    Wire.Value.encodeEach (arguments.map Transferable.toValue) =
      .ok (arguments.flatMap Wire.sized) := by
  induction arguments with
  | nil => rfl
  | cons first others inductionHypothesis =>
      have single : (Transferable.toValue first).encode = .ok (Wire.sized first) :=
        Wire.Value.encode_bytes first
      simp [Wire.Value.encodeEach, single, inductionHypothesis, Except.map]

theorem encode_eq (batch : Batch) : Transferable.encode batch = .ok batch.encode := by
  have command : (Wire.Value.text batch.command).encode =
      .ok (Wire.sized (Utf8.encode batch.command)) := rfl
  have arguments : (Wire.Value.list (batch.arguments.map Transferable.toValue)).encode =
      .ok (Wire.compact batch.arguments.length ++ batch.arguments.flatMap Wire.sized) := by
    rw [Wire.Value.encode_list, encodeEach_map_bytes, List.length_map]
    rfl
  show Wire.Value.encodeEach
    [.text batch.command, .list (batch.arguments.map Transferable.toValue)] = _
  simp [Wire.Value.encodeEach, command, arguments, Except.map, encode]

end Batch

def Handler.batch {σ : Type} : Handler σ :=
  .of fun batch : Batch => Batch.respond batch.command batch.arguments

def Handler.names {σ : Type} : Handler σ :=
  .of fun _ : Unit => Program.names

end RemoteCall
