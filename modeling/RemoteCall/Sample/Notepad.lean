import RemoteCall.Sample.Action
import RemoteCall.Server

/-!
Contract: a server with one command of its own, the smallest that is of any use to callers.

Owns: the command, which changes the state before it fails, and the server.

Does not own: what the command does.
-/

namespace RemoteCall.Sample

set_option autoImplicit false

/-- Takes down a text, then fails with it. -/
def note : Handler State :=
  .of pushFail

/-- A server that has not served yet, with the command under the name of "Note". -/
def notepad : Server State :=
  .start ⟨⟨[(namesName, .names), (batchName, .batch), ("Note", note)], by
    have before : NameBefore namesName batchName ∧ NameBefore namesName "Note" ∧
      NameBefore batchName "Note" := by decide
    simpa [and_assoc] using before⟩⟩ .initial

end RemoteCall.Sample
