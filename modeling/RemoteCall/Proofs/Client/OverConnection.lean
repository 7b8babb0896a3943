import RemoteCall.Proofs.Client.Operation
import RemoteCall.Proofs.Server.Connection
import RemoteCall.Sample.Notepad
import RemoteCall.Transport.Hub
import RemoteCall.Transport.Local

/-!
Contract: a client cannot tell a server over a connection from one in the same process.

Owns:
- operations during which no dispatch lets a panic out and every message fits a frame;
- one exchange over an idle connection, which is idle again behind it;
- the agreement of operations over a connection with the same operations in the process.

Does not own: connections that more than one client uses, and panics that leave a dispatch.
-/

namespace RemoteCall

set_option autoImplicit false

open Wire

variable {σ : Type}

namespace Server

/-- What happens in a server while operations are performed in its process: no dispatch lets a
panic out, and what is sent and answered fits into frames. An operation that cannot write its
argument sends nothing. -/
inductive Undisturbed : Server σ → List Operation → Prop where
  | done {server : Server σ} : Undisturbed server []
  | unwritten {server : Server σ} {operation : Operation} {operations : List Operation}
      {panic : Panic} :
      operation.request = .error panic → Undisturbed server operations →
      Undisturbed server (operation :: operations)
  | answered {server next : Server σ} {operation : Operation} {operations : List Operation}
      {request answer : Bytes} :
      operation.request = .ok request → server.serve request = (.ok answer, next) →
      Frame.Fits request → Frame.Fits answer → Undisturbed next operations →
      Undisturbed server (operation :: operations)

end Server

/-! ## One exchange -/

/-- The one answer that has arrived is read, whether there is a limit or not. -/
theorem Link.take_encode {π : Type} {answer : Bytes} (fits : Frame.Fits answer)
    (limit : Option Duration) (peer : π) :
    take limit ⟨peer, Frame.encode answer, [], false, false⟩ = (.ok answer, fresh peer) := by
  have read (complete : Bool) : Frame.next complete (Frame.encode answer) = .message answer [] := by
    have found := Frame.next_frame_append (Frame.holds_encode fits) complete []
    rwa [List.append_nil] at found
  unfold take
  cases limit <;> simp [read, fresh]

section Answered

variable {server next : Server σ} {request answer : Bytes}
  (served : server.serve request = (.ok answer, next))

include served

theorem Transport.exchange_inProcess_of_served :
    Transport.inProcess.exchange request server = (.ok (.ok answer), next) := by
  unfold inProcess
  simp only [served]
  rfl

/-- An idle connection brings the answer of the server, and is idle again. -/
theorem Transport.exchange_stream_of_served (requestFits : Frame.Fits request)
    (answerFits : Frame.Fits answer) (limit : Option Duration) :
    (Transport.stream .server limit).exchange request (.fresh (server, .fresh)) =
      (.ok (.ok answer), .fresh (next, .fresh)) := by
  have servedRemote : server.serveRemote request = (answer, next) := by
    rw [Server.serveRemote, served]
  have delivered : Peer.server.deliver (Frame.encode request) (server, .fresh) =
      (⟨Frame.encode answer, [], false⟩, next, .fresh) := by
    simp only [Peer.server, server.receive_encode requestFits, servedRemote]
    rfl
  simp [stream, Link.exchange, delivered, Link.fresh, Link.take_encode answerFits]

end Answered

/-! ## Operations -/

namespace Operation

theorem performEach_cons {τ : Type} {transport : Transport τ} {operation : Operation}
    {state next : τ} {outcome : Attempt operation.Result}
    (performed : operation.perform transport state = (outcome, next))
    (operations : List Operation) :
    performEach transport (operation :: operations) state =
      (⟨operation, outcome⟩ :: (performEach transport operations next).1,
        (performEach transport operations next).2) := by
  rw [performEach]
  simp only [performed]

/-- A server over a connection and a server in the same process are interchangeable. Operations that
are performed one after the other over one connection come to the same as in the process, each to
the same result, the same refusal or the same failure to read the answer; and they leave the same
server, and the connection idle. -/
theorem performEach_stream_eq_inProcess {server : Server σ} {operations : List Operation}
    (undisturbed : server.Undisturbed operations) (limit : Option Duration) :
    let near := performEach .inProcess operations server
    let far := performEach (.stream .server limit) operations (.fresh (server, .fresh))
    far.1 = near.1 ∧ far.2 = .fresh (near.2, .fresh) := by
  intro near far
  suffices alike : far = (near.1, .fresh (near.2, .fresh)) by
    rw [alike]
    exact ⟨rfl, rfl⟩
  subst near far
  induction undisturbed with
  | done => rfl
  | unwritten unwritten _ inductionHypothesis =>
      rw [performEach_cons (perform_of_unwritten unwritten _), inductionHypothesis,
        performEach_cons (perform_of_unwritten unwritten _)]
  | answered written served requestFits answerFits _ inductionHypothesis =>
      have near := Transport.exchange_inProcess_of_served served
      have far := Transport.exchange_stream_of_served served requestFits answerFits limit
      rw [performEach_cons (perform_of_exchanged written far), inductionHypothesis,
        performEach_cons (perform_of_exchanged written near)]

/-- A note, a batch of notes and a look at the names. -/
def notes : List Operation :=
  [.call "Note" (.text "a") .unit, .invokeEach ⟨"Note", .text, .unit⟩ [.text "b", .text "c"],
    .servedNames]

theorem performEach_notes :
    Sample.notepad.Undisturbed notes ∧
    let near := performEach .inProcess notes Sample.notepad
    let far := performEach (.stream .server (some (.ofSeconds 1 0))) notes
      (.fresh (Sample.notepad, .fresh))
    far.1 = near.1 ∧ far.2.peer.1.state = ⟨0, ["a", "b", "c"], 0, 0, []⟩ := by
  have serves (answer : Bytes) {server : Server Sample.State} {request : Bytes}
      (known : (server.serve request).1.toOption = some answer) :
      server.serve request = (.ok answer, (server.serve request).2) :=
    Prod.ext (eq_ok_of_toOption known) rfl
  have fits {message : Bytes} (short : (sized message).length < 64) : Frame.Fits message :=
    Nat.lt_trans short (by decide)
  have note : notes[0].request = .ok [4, 78, 111, 116, 101, 2, 1, 97] := rfl
  have batch : notes[1].request = .ok [7, 70, 111, 114, 101, 97, 99, 104,
      12, 4, 78, 111, 116, 101, 2, 2, 1, 98, 2, 1, 99] := rfl
  have names : notes[2].request = .ok [8, 67, 111, 109, 109, 97, 110, 100, 115, 0] := rfl
  have undisturbed : Sample.notepad.Undisturbed notes := by
    refine .answered note (serves [0, 2, 1, 97] (by decide +kernel)) (fits (by decide))
      (fits (by decide)) ?_
    refine .answered batch (serves [1, 11, 2, 4, 0, 2, 1, 98, 4, 0, 2, 1, 99] (by decide +kernel))
      (fits (by decide)) (fits (by decide)) ?_
    refine .answered names (serves [1, 23, 3, 8, 67, 111, 109, 109, 97, 110, 100, 115, 7, 70, 111,
      114, 101, 97, 99, 104, 4, 78, 111, 116, 101] (by decide +kernel)) (fits (by decide))
      (fits (by decide)) .done
  obtain ⟨sameResults, left⟩ :=
    performEach_stream_eq_inProcess undisturbed (some (.ofSeconds 1 0))
  refine ⟨undisturbed, sameResults, ?_⟩
  rw [left]
  decide +kernel

end Operation

end RemoteCall
