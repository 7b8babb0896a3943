import RemoteCall.Proofs.Dispatch.Serving
import RemoteCall.Proofs.Frame
import RemoteCall.Server

/-!
Contract: on a connection every request is answered once, in its order, and none ends the connection.

Owns:
- what the answer to a request over a connection is, and the state behind it;
- answering requests in order, each in the state that the ones before it leave;
- connections on which a stream arrives in parts;
- what is written on a connection, from the stream's longest run of frames.

Does not own: the other side of a connection.
-/

namespace RemoteCall

set_option autoImplicit false

open Wire

variable {σ : Type}

/-! ## Answers in order -/

namespace Dispatcher

/-- A request over a connection is answered with what serving its bytes gives, or with a failure if
that lets a panic out, and is left in the state that serving its bytes leaves. -/
structure Answers (dispatcher : Dispatcher σ) (state : σ) (request answer : Bytes) (left : σ) :
    Prop where
  served : ∀ given, (dispatcher.serve request state).outcome = .ok given → answer = given
  panicked : ∀ panic, (dispatcher.serve request state).outcome = .error panic →
    answer = (Response.failure "command panicked").encode
  malformed : ∀ error, Request.decode request = .error error →
    answer = (Response.failure ("malformed request: " ++ error.message)).encode ∧ left = state
  state : left = (dispatcher.serve request state).state

/-- Requests are answered one after the other, each in the state that the one before it leaves. -/
inductive AnswersInOrder (dispatcher : Dispatcher σ) : σ → List Bytes → List Bytes → σ → Prop where
  | done {state : σ} : AnswersInOrder dispatcher state [] [] state
  | next {state between left : σ} {request answer : Bytes} {requests answers : List Bytes} :
      dispatcher.Answers state request answer between →
      AnswersInOrder dispatcher between requests answers left →
      AnswersInOrder dispatcher state (request :: requests) (answer :: answers) left

end Dispatcher

namespace Server

/-- A connection goes on from the state that a request leaves, with the same handlers. -/
theorem serveRemote_left (server : Server σ) (request : Bytes) :
    (server.serveRemote request).2.dispatcher = server.dispatcher ∧
      (server.serveRemote request).2.state =
        (server.dispatcher.serve request server.state).state := by
  unfold serveRemote serve absorb
  cases (server.dispatcher.serve request server.state).outcome with
  | ok answer => exact ⟨rfl, rfl⟩
  | error panic => exact ⟨rfl, rfl⟩

theorem serveRemote_answers (server : Server σ) (request : Bytes) :
    server.dispatcher.Answers server.state request (server.serveRemote request).1
      (server.serveRemote request).2.state := by
  have answeredAs {given : Bytes}
      (served : (server.dispatcher.serve request server.state).outcome = .ok given) :
      (server.serveRemote request).1 = given := by
    simp only [serveRemote, serve, absorb, served]
  have left := (server.serveRemote_left request).2
  refine ⟨?_, ?_, ?_, left⟩
  · intro given served
    exact answeredAs served
  · intro panic panicked
    simp only [serveRemote, serve, absorb, panicked]
    rfl
  · intro error malformed
    rw [Dispatcher.serve_of_malformed malformed] at answeredAs left
    exact ⟨answeredAs rfl, left⟩

theorem serveEach_answersInOrder (server : Server σ) (requests : List Bytes) :
    server.dispatcher.AnswersInOrder server.state requests (server.serveEach requests).1
      (server.serveEach requests).2.state ∧
    (server.serveEach requests).2.dispatcher = server.dispatcher := by
  induction requests generalizing server with
  | nil => exact ⟨.done, rfl⟩
  | cons request requests inductionHypothesis =>
      obtain ⟨others, sameDispatcher⟩ := inductionHypothesis (server.serveRemote request).2
      rw [(server.serveRemote_left request).1] at others sameDispatcher
      exact ⟨.next (server.serveRemote_answers request) others, sameDispatcher⟩

theorem serveEach_append (server : Server σ) (first second : List Bytes) :
    server.serveEach (first ++ second) =
      ((server.serveEach first).1 ++ ((server.serveEach first).2.serveEach second).1,
        ((server.serveEach first).2.serveEach second).2) := by
  induction first generalizing server with
  | nil => rfl
  | cons request requests inductionHypothesis =>
      rw [List.cons_append, serveEach, serveEach]
      simp only [inductionHypothesis, List.cons_append]

/-- A request that arrives alone is answered at once, and nothing of it is left. -/
theorem receive_encode (server : Server σ) {request : Bytes} (fits : Frame.Fits request) :
    server.receive .fresh (Frame.encode request) false =
      (Frame.encode (server.serveRemote request).1, (server.serveRemote request).2, .fresh) := by
  have read : Frame.messages false (Frame.encode request) = ([request], .waiting []) := by
    have nothing : Frame.messages false [] = ([], .waiting []) := by
      rw [Frame.messages_eq]
      rfl
    have split := Frame.messages_frame_append (Frame.holds_encode fits) false []
    rwa [nothing, List.append_nil] at split
  simp [receive, Connection.fresh, read, serveEach]

/-! ## Streams that arrive in parts -/

/-- It makes no difference whether bytes arrive at once or in two parts. -/
theorem receive_append (server : Server σ) (connection : Connection) (part more : Bytes)
    (ended : Bool) :
    server.receive connection (part ++ more) ended =
      let first := server.receive connection part false
      let second := first.2.1.receive first.2.2 more ended
      (first.1 ++ second.1, second.2) := by
  obtain ⟨pending, isOpen⟩ := connection
  cases isOpen with
  | false => rfl
  | true =>
      unfold receive
      simp only [if_true, ← List.append_assoc, Frame.messages_append (pending ++ part) more]
      obtain ⟨read, stop⟩ := Frame.messages false (pending ++ part)
      cases stop with
      | finished => simp
      | failed error => simp
      | waiting rest =>
          simp only [serveEach_append]
          obtain ⟨others, stop⟩ := Frame.messages ended (rest ++ more)
          cases stop <;> simp

/-- What a server writes on a connection while a stream arrives on it part by part and then ends. -/
def serveParts (server : Server σ) (connection : Connection) : List Bytes → Bytes × Server σ
  | [] =>
      let last := server.receive connection [] true
      (last.1, last.2.1)
  | part :: parts =>
      let first := server.receive connection part false
      let others := first.2.1.serveParts first.2.2 parts
      (first.1 ++ others.1, others.2)

theorem serveParts_eq_receive (server : Server σ) (connection : Connection) (parts : List Bytes) :
    server.serveParts connection parts =
      ((server.receive connection parts.flatten true).1,
        (server.receive connection parts.flatten true).2.1) := by
  induction parts generalizing server connection with
  | nil => rfl
  | cons part parts inductionHypothesis =>
      rw [serveParts, List.flatten_cons, receive_append]
      simp only [inductionHypothesis]

theorem serveParts_fresh (server : Server σ) (parts : List Bytes) :
    server.serveParts .fresh parts = server.serveStream parts.flatten :=
  serveParts_eq_receive server .fresh parts

/-! ## What is written on a connection -/

/-- Served are the messages of a stream, whatever ends their run. -/
theorem serveStream_eq_serveEach (server : Server σ) (stream : Bytes) :
    let served := server.serveStream stream
    let each := server.serveEach (Frame.messages true stream).1
    served.1 = each.1.flatMap Frame.encode ∧
      served.2.state = each.2.state ∧ served.2.dispatcher = each.2.dispatcher := by
  unfold serveStream receive
  rw [if_pos (show Connection.fresh.isOpen = true from rfl)]
  simp only [Connection.fresh, List.nil_append]
  obtain ⟨requests, stop⟩ := Frame.messages true stream
  cases stop <;> exact ⟨rfl, rfl, rfl⟩

theorem serveEach_prefix {server : Server σ} {first second : List Bytes} (starts : first <+: second) :
    (server.serveEach first).1 <+: (server.serveEach second).1 := by
  obtain ⟨rest, rfl⟩ := starts
  rw [serveEach_append]
  exact List.prefix_append _ _

/-- Of a stream that goes on, at least as much is answered. -/
theorem serveStream_prefix {server : Server σ} {stream longer : Bytes} (starts : stream <+: longer) :
    (server.serveStream stream).1 <+: (server.serveStream longer).1 := by
  obtain ⟨more, rfl⟩ := starts
  have answers : (server.serveEach (Frame.messages true stream).1).1 <+:
      (server.serveEach (Frame.messages true (stream ++ more)).1).1 :=
    serveEach_prefix (Frame.messages_prefix_append stream more true)
  obtain ⟨others, same⟩ := answers
  rw [(server.serveStream_eq_serveEach stream).1,
    (server.serveStream_eq_serveEach (stream ++ more)).1, ← same, List.flatMap_append]
  exact List.prefix_append _ _

/-- Each answer that is due for the requests of a stream is short enough for a frame. -/
def AnswersFit (server : Server σ) (stream : Bytes) : Prop :=
  ∀ requests answers left, Frame.LeadingRun stream requests →
    server.dispatcher.AnswersInOrder server.state requests answers left →
    ∀ answer ∈ answers, Frame.Fits answer

/-- A connection answers in order, once each, and survives its requests. However a stream is cut
while it arrives, what is written are the frames of one answer for each request of the stream's
longest run of frames, in the order of the requests, each given in the state that the ones before it
leave, as long as the answers are short enough for frames. Nothing is written behind the run, and
what is written starts what is written for any stream that goes on. -/
theorem serveParts_answersInOrder (server : Server σ) (parts : List Bytes)
    (fits : server.AnswersFit parts.flatten) :
    let served := server.serveParts .fresh parts
    (∃ requests answers, Frame.LeadingRun parts.flatten requests ∧
      server.dispatcher.AnswersInOrder server.state requests answers served.2.state ∧
      served.1 = answers.flatMap Frame.encode ∧ Frame.LeadingRun served.1 answers) ∧
    served.2.dispatcher = server.dispatcher ∧
    ∀ others : List Bytes, parts.flatten <+: others.flatten →
      served.1 <+: (server.serveParts .fresh others).1 := by
  intro served
  have servedAs : served = server.serveStream parts.flatten := server.serveParts_fresh parts
  obtain ⟨written, state, dispatcher⟩ := server.serveStream_eq_serveEach parts.flatten
  obtain ⟨inOrder, sameDispatcher⟩ :=
    server.serveEach_answersInOrder (Frame.messages true parts.flatten).1
  rw [← servedAs] at written state dispatcher
  have isRun : Frame.LeadingRun parts.flatten (Frame.messages true parts.flatten).1 :=
    Frame.messages_eq_iff_leadingRun.1 rfl
  rw [← state] at inOrder
  refine ⟨⟨_, _, isRun, inOrder, written, ?_⟩, ?_, ?_⟩
  · rw [written]
    exact Frame.leadingRun_flatMap_encode (fits _ _ _ isRun inOrder)
  · rw [dispatcher, sameDispatcher]
  · intro others starts
    rw [servedAs, serveParts_fresh]
    exact serveStream_prefix starts

/-- The notepad, with a command that lets a panic out. -/
def brittleNotepad : Server Sample.State :=
  .start ⟨⟨[(namesName, .names), ("Escape", .of Sample.escape), (batchName, .batch),
    ("Note", Sample.note)], by
      have before : NameBefore namesName "Escape" ∧ NameBefore namesName batchName ∧
        NameBefore namesName "Note" ∧ NameBefore "Escape" batchName ∧ NameBefore "Escape" "Note" ∧
        NameBefore batchName "Note" := by decide
      simpa [and_assoc] using before⟩⟩ .initial

/-- A note, a request that lets a panic out, and a byte that is no request. -/
theorem answersInOrder_brittleNotepad {answers : List Bytes} {left : Sample.State}
    (inOrder : brittleNotepad.dispatcher.AnswersInOrder brittleNotepad.state
      [[4, 78, 111, 116, 101, 2, 1, 97], [6, 69, 115, 99, 97, 112, 101, 0], [7]] answers left) :
    answers = [(Response.failure "a").encode, (Response.failure "command panicked").encode,
        (Response.failure "malformed request: decode error: io error: ").encode] ∧
      left = ⟨0, ["a"], 0, 0, []⟩ := by
  obtain _ | ⟨first, _ | ⟨second, _ | ⟨third, _ | _⟩⟩⟩ := inOrder
  have noted : _ = (⟨0, ["a"], 0, 0, []⟩ : Sample.State) := first.state.trans (by decide +kernel)
  have firstGiven := first.served (Response.failure "a").encode
    (eq_ok_of_toOption (by decide +kernel))
  rw [noted] at second
  have leftAlone : _ = (⟨0, ["a"], 0, 0, []⟩ : Sample.State) :=
    second.state.trans (by decide +kernel)
  have escaped : ∃ panic, (brittleNotepad.dispatcher.serve [6, 69, 115, 99, 97, 112, 101, 0]
      ⟨0, ["a"], 0, 0, []⟩).outcome = .error panic := exists_error_of_toOption (by decide +kernel)
  obtain ⟨panic, panicked⟩ := escaped
  have secondGiven := second.panicked panic panicked
  rw [leftAlone] at third
  have thirdGiven := third.served
    (Response.failure "malformed request: decode error: io error: ").encode
    (eq_ok_of_toOption (by decide +kernel))
  rw [firstGiven, secondGiven, thirdGiven]
  exact ⟨rfl, third.state.trans (by decide +kernel)⟩

/-- The same requests, and half a frame behind them. -/
theorem serveParts_brittleNotepad :
    let parts : List Bytes := [[0, 0, 0, 9, 8, 4, 78, 111],
      [116, 101, 2, 1, 97, 0, 0, 0, 9, 8, 6, 69, 115, 99, 97, 112, 101, 0, 0, 0],
      [0, 2, 1, 7, 0, 0, 0, 9, 8]]
    let served := brittleNotepad.serveParts .fresh parts
    brittleNotepad.AnswersFit parts.flatten ∧
      Frame.LeadingRun parts.flatten
        [[4, 78, 111, 116, 101, 2, 1, 97], [6, 69, 115, 99, 97, 112, 101, 0], [7]] ∧
      served.1 = Frame.encode (Response.failure "a").encode ++
        (Frame.encode (Response.failure "command panicked").encode ++
          Frame.encode (Response.failure "malformed request: decode error: io error: ").encode) ∧
      served.2.state = ⟨0, ["a"], 0, 0, []⟩ := by
  intro parts served
  have split : parts.flatten = Frame.encode [4, 78, 111, 116, 101, 2, 1, 97] ++
      (Frame.encode [6, 69, 115, 99, 97, 112, 101, 0] ++ (Frame.encode [7] ++ [0, 0, 0, 9, 8])) := by
    decide
  have halfFrame : Frame.LeadingRun [0, 0, 0, 9, 8] [] :=
    .of_next_ne true fun _ _ => Frame.Next.noConfusion
  have isRun : Frame.LeadingRun parts.flatten
      [[4, 78, 111, 116, 101, 2, 1, 97], [6, 69, 115, 99, 97, 112, 101, 0], [7]] := by
    rw [split]
    refine .frame (Frame.holds_encode ?_) (.frame (Frame.holds_encode ?_)
      (.frame (Frame.holds_encode ?_) halfFrame))
    all_goals
      unfold Frame.Fits
      decide
  have fits : brittleNotepad.AnswersFit parts.flatten := by
    intro requests answers left sameRun inOrder
    cases sameRun.unique isRun
    rw [(answersInOrder_brittleNotepad inOrder).1]
    unfold Frame.Fits
    decide
  obtain ⟨⟨requests, answers, sameRun, inOrder, written, _⟩, _⟩ :=
    serveParts_answersInOrder brittleNotepad parts fits
  cases sameRun.unique isRun
  obtain ⟨given, left⟩ := answersInOrder_brittleNotepad inOrder
  refine ⟨fits, isRun, ?_, left⟩
  rw [written, given]
  rfl

end Server

end RemoteCall
