import RemoteCall.Proofs.Server.Connection
import RemoteCall.Transport.Hub

/-!
Contract: over a connection with a limit, an answer that comes too late is never taken for the
answer to another request.

Owns:
- peers that answer each request at most once and in order, at once, late or never;
- connections on which nothing was late, which are ready for the next request;
- one exchange on such a connection, and what can come of it;
- sessions: any number of exchanges on a connection, with whatever arrives between them;
- servers as peers, which answer at once.

Does not own: what peers answer, and connections without a limit.
-/

namespace RemoteCall

set_option autoImplicit false

variable {π : Type}

/-! ## Peers -/

/-- What a peer answers, and how far it has come with it. -/
structure Account (π : Type) where
  /-- The answer to a request that reaches the peer in a state. -/
  answer : Bytes → π → Bytes
  /-- What of its answers has not yet arrived. -/
  owed : π → Bytes
  /-- Whether it has ended its stream. -/
  ended : π → Bool

/-- What a peer writes when the frame of a request reaches it. -/
def Peer.delivery (peer : Peer π) (request : Bytes) (state : π) : Delivery :=
  (peer.deliver (Frame.encode request) state).1

/-- The state of a peer that the frame of a request has reached. -/
def Peer.next (peer : Peer π) (request : Bytes) (state : π) : π :=
  (peer.deliver (Frame.encode request) state).2

/-- What a peer does when a request reaches it. It puts a frame of its answer behind what it owes,
or does not answer; the front of all this arrives at once, more of it late, and the rest stays owed.
Behind the end of its stream nothing arrives. -/
structure Account.Serves (account : Account π) (peer : Peer π) (request : Bytes) (state : π) :
    Prop where
  inOrder : account.ended state = false → ∃ frame,
    (frame = [] ∨ Frame.Holds frame (account.answer request state)) ∧
      account.owed state ++ frame = (peer.delivery request state).prompt ++
        ((peer.delivery request state).late ++ account.owed (peer.next request state))
  silent : account.ended state = true →
    (peer.delivery request state).prompt = [] ∧ (peer.delivery request state).late = []
  ending : account.ended (peer.next request state) =
    (account.ended state || (peer.delivery request state).ends)

/-- What can happen to a connection between two exchanges. More of what the peer owes arrives, or
the peer ends its stream. On a connection that is shut out, anything may happen. -/
inductive Account.Meanwhile (account : Account π) : Link π → Link π → Prop
  | arrives {link : Link π} {more : Bytes} {state : π} {ends : Bool} :
      (account.ended link.peer = false →
        account.owed link.peer = more ++ account.owed state) →
      (account.ended link.peer = true → more = []) →
      account.ended state = (account.ended link.peer || ends) →
      Meanwhile account link ⟨state, link.arrived, link.underway ++ more, link.ended || ends,
        link.shutOut⟩
  | shutOut {link other : Link π} : link.shutOut = true → other.shutOut = true →
      Meanwhile account link other

theorem Account.Meanwhile.keepsShutOut {account : Account π} {link other : Link π}
    (meanwhile : account.Meanwhile link other) (shutOut : link.shutOut = true) :
    other.shutOut = true := by
  cases meanwhile with
  | arrives => exact shutOut
  | shutOut _ still => exact still

namespace Link

variable {account : Account π} {peer : Peer π} {link : Link π} {span : Duration} {request : Bytes}

/-! ## Taking a message -/

/-- The frame at the front of what has arrived is taken, whatever is behind it. -/
theorem take_frame (span : Duration) {frame message : Bytes} (holds : Frame.Holds frame message)
    (state : π) (rest underway : Bytes) (ended : Bool) :
    take (some span) ⟨state, frame ++ rest, underway, ended, false⟩ =
      (.ok message, ⟨state, rest, underway, ended, false⟩) := by
  unfold take
  simp [Frame.next_frame_append holds]

/-- A part of a frame is waited for up to the limit, unless the peer has ended its stream. -/
theorem take_cutOff (span : Duration) {part : Bytes} (cutOff : Frame.CutOff part) (state : π)
    (underway : Bytes) (ended : Bool) :
    let link : Link π := ⟨state, part, underway, ended, false⟩
    take (some span) link =
      if ended && underway.isEmpty then
        (.error (if part.isEmpty then .closed else .framing .brokenPipe), link)
      else (.error (.timedOut span), { link with shutOut := true }) := by
  intro link
  subst link
  unfold take
  simp only [Option.isSome_some, Option.isNone_some, Bool.false_or, if_true,
    Frame.next_of_cutOff cutOff]
  cases ended && underway.isEmpty with
  | false => rfl
  | true =>
      cases part with
      | nil => rfl
      | cons first others => rfl

/-! ## One exchange -/

/-- A connection that is shut out is not used. -/
theorem exchange_of_shutOut (shutOut : link.shutOut = true) (request : Bytes) :
    link.exchange peer (some span) request = (.error .closed, link) := by
  rw [exchange, if_pos shutOut]

theorem exchange_of_inUse (inUse : link.shutOut = false) :
    link.exchange peer (some span) request =
      take (some span) ⟨peer.next request link.peer,
        link.arrived ++ link.underway ++ (peer.delivery request link.peer).prompt,
        (peer.delivery request link.peer).late,
        link.ended || (peer.delivery request link.peer).ends, false⟩ := by
  have notShutOut : ¬ link.shutOut = true := by
    rw [inUse]
    exact Bool.false_ne_true
  rw [exchange, if_neg notShutOut]
  rfl

/-- A connection on which no answer was late. Nothing is underway on it. If the peer has not ended
its stream, it owes nothing and everything that has arrived was read; otherwise a part of a frame
may be left. -/
structure Ready (account : Account π) (link : Link π) : Prop where
  inUse : link.shutOut = false
  nothingUnderway : link.underway = []
  sameEnd : link.ended = account.ended link.peer
  nothingOwed : link.ended = false → account.owed link.peer = [] ∧ link.arrived = []
  cutOff : Frame.CutOff link.arrived

theorem Ready.fresh {state : π} (nothingOwed : account.owed state = [])
    (notEnded : account.ended state = false) : Ready account (fresh state) where
  inUse := rfl
  nothingUnderway := rfl
  sameEnd := notEnded.symm
  nothingOwed _ := ⟨nothingOwed, rfl⟩
  cutOff := Frame.cutOff_nil

/-- Between two exchanges a connection stays ready. -/
theorem Ready.meanwhile (ready : Ready account link) {other : Link π}
    (meanwhile : account.Meanwhile link other) : Ready account other := by
  cases meanwhile with
  | @arrives more state ends inOrder silent ending =>
      have nothingMore : more = [] := by
        cases ended : account.ended link.peer with
        | true => exact silent ended
        | false =>
            have owed := (ready.nothingOwed (ready.sameEnd.trans ended)).1
            rw [inOrder ended] at owed
            exact (List.append_eq_nil_iff.1 owed).1
      refine ⟨ready.inUse, ?_, ?_, ?_, ready.cutOff⟩
      · rw [ready.nothingUnderway, nothingMore, List.append_nil]
      · rw [ready.sameEnd, ending]
      · intro notEnded
        obtain ⟨linkNotEnded, _⟩ := Bool.or_eq_false_iff.1 notEnded
        obtain ⟨owed, arrived⟩ := ready.nothingOwed linkNotEnded
        rw [inOrder (ready.sameEnd.symm.trans linkNotEnded)] at owed
        exact ⟨(List.append_eq_nil_iff.1 owed).2, arrived⟩
  | shutOut isShutOut =>
      rw [ready.inUse] at isShutOut
      cases isShutOut

/-- What has arrived on a connection that was ready, when a request has reached the peer: a frame of
its answer and nothing else, or a part of a frame. -/
theorem Ready.arrived (ready : Ready account link) (serves : account.Serves peer request link.peer) :
    let delivery := peer.delivery request link.peer
    (Frame.Holds delivery.prompt (account.answer request link.peer) ∧
        link.arrived ++ link.underway ++ delivery.prompt = delivery.prompt ∧
        delivery.late = [] ∧ account.owed (peer.next request link.peer) = []) ∨
      (¬ Frame.Holds delivery.prompt (account.answer request link.peer) ∧
        Frame.CutOff (link.arrived ++ link.underway ++ delivery.prompt)) := by
  intro delivery
  rw [ready.nothingUnderway, List.append_nil]
  cases ended : account.ended link.peer with
  | true =>
      have nothingPrompt : delivery.prompt = [] := (serves.silent ended).1
      right
      rw [nothingPrompt, List.append_nil]
      exact ⟨Frame.not_holds_nil _, ready.cutOff⟩
  | false =>
      obtain ⟨nothingOwed, nothingArrived⟩ := ready.nothingOwed (ready.sameEnd.trans ended)
      obtain ⟨frame, isFrame, inOrder⟩ := serves.inOrder ended
      rw [nothingOwed, List.nil_append] at inOrder
      rw [nothingArrived, List.nil_append]
      by_cases holds : Frame.Holds delivery.prompt (account.answer request link.peer)
      · left
        -- no frame is the start of a longer one, so nothing of this one is left to come
        have nothingBehind : delivery.late ++ account.owed (peer.next request link.peer) = [] := by
          rcases isFrame with rfl | whole
          · exact (List.append_eq_nil_iff.1 inOrder.symm).2
          · rw [inOrder] at whole
            exact holds.eq_nil_of_append whole
        exact ⟨holds, rfl, List.append_eq_nil_iff.1 nothingBehind⟩
      · right
        refine ⟨holds, ?_⟩
        rcases isFrame with rfl | whole
        · have nothingPrompt : delivery.prompt = [] := (List.append_eq_nil_iff.1 inOrder.symm).1
          rw [nothingPrompt]
          exact Frame.cutOff_nil
        · refine ⟨frame, _, whole, ⟨_, inOrder.symm⟩, ?_⟩
          intro same
          rw [same] at holds
          exact holds whole

/-- What comes of an exchange on a connection that is ready. If a whole frame of the answer arrives
in time, the exchange brings this answer. If not, the limit is exceeded and the connection is shut
out, unless the peer has ended its stream. -/
inductive Exchanged (account : Account π) (peer : Peer π) (link : Link π) (span : Duration)
    (request : Bytes) : Except TransportError Bytes × Link π → Prop
  | answered {after : Link π} :
      Frame.Holds (peer.delivery request link.peer).prompt (account.answer request link.peer) →
      Ready account after →
      Exchanged account peer link span request (.ok (account.answer request link.peer), after)
  | timedOut {after : Link π} :
      ¬ Frame.Holds (peer.delivery request link.peer).prompt (account.answer request link.peer) →
      after.shutOut = true →
      Exchanged account peer link span request (.error (.timedOut span), after)
  | ended {error : TransportError} {after : Link π} :
      ¬ Frame.Holds (peer.delivery request link.peer).prompt (account.answer request link.peer) →
      error = .closed ∨ error = .framing .brokenPipe → Ready account after →
      Exchanged account peer link span request (.error error, after)

theorem Ready.exchange (ready : Ready account link) (span : Duration)
    (serves : account.Serves peer request link.peer) :
    Exchanged account peer link span request (link.exchange peer (some span) request) := by
  have sameEnd := serves.ending
  rw [exchange_of_inUse ready.inUse]
  rw [← ready.sameEnd] at sameEnd
  rcases ready.arrived serves with ⟨holds, alone, nothingLate, nothingOwed⟩ | ⟨noFrame, cutOff⟩
  · have taken := take_frame span holds (peer.next request link.peer) []
      (peer.delivery request link.peer).late
      (link.ended || (peer.delivery request link.peer).ends)
    rw [List.append_nil] at taken
    rw [alone, taken]
    exact .answered holds
      ⟨rfl, nothingLate, sameEnd.symm, fun _ => ⟨nothingOwed, rfl⟩, Frame.cutOff_nil⟩
  · rw [take_cutOff span cutOff]
    split
    · rename_i nothingComes
      obtain ⟨isEnded, nothingLate⟩ := Bool.and_eq_true_iff.1 nothingComes
      refine .ended noFrame ?_
        ⟨rfl, List.isEmpty_iff.1 nothingLate, sameEnd.symm, fun notEnded => ?_, cutOff⟩
      · split
        · exact .inl rfl
        · exact .inr rfl
      · rw [isEnded] at notEnded
        cases notEnded
    · exact .timedOut noFrame rfl

/-- An exchange brings an answer exactly if a whole frame of it arrives in time, and it is the answer
to this very request. -/
theorem Exchanged.own {exchanged : Except TransportError Bytes × Link π}
    (came : Exchanged account peer link span request exchanged) (answer : Bytes) :
    exchanged.1 = .ok answer ↔ answer = account.answer request link.peer ∧
      Frame.Holds (peer.delivery request link.peer).prompt answer := by
  have neither (noFrame : ¬ Frame.Holds (peer.delivery request link.peer).prompt
      (account.answer request link.peer)) :
      ¬ (answer = account.answer request link.peer ∧
        Frame.Holds (peer.delivery request link.peer).prompt answer) := by
    rintro ⟨rfl, holds⟩
    exact noFrame holds
  cases came with
  | answered holds _ =>
      constructor
      · intro same
        cases same
        exact ⟨rfl, holds⟩
      · rintro ⟨rfl, _⟩
        rfl
  | timedOut noFrame _ => exact iff_of_false (by simp) (neither noFrame)
  | ended noFrame _ _ => exact iff_of_false (by simp) (neither noFrame)

theorem Exchanged.usable {exchanged : Except TransportError Bytes × Link π}
    (came : Exchanged account peer link span request exchanged) :
    exchanged.2.Ready account ∨ exchanged.2.shutOut = true := by
  cases came with
  | answered _ ready => exact .inl ready
  | timedOut _ shutOut => exact .inr shutOut
  | ended _ _ ready => exact .inl ready

/-- Whatever the peer does, a connection is shut out once the limit was exceeded. -/
theorem shutOut_of_timedOut {limit : Duration} {after : Link π}
    (timedOut : link.exchange peer (some span) request = (.error (.timedOut limit), after)) :
    after.shutOut = true := by
  cases shutOut : link.shutOut with
  | true =>
      rw [exchange_of_shutOut shutOut] at timedOut
      cases timedOut
  | false =>
      rw [exchange_of_inUse shutOut] at timedOut
      unfold take at timedOut
      simp only at timedOut
      split at timedOut <;> cases timedOut
      rfl

end Link

/-! ## Sessions -/

/-- An exchange that was made, with the connection before and after it. -/
structure RoundTrip (π : Type) where
  before : Link π
  request : Bytes
  outcome : Except TransportError Bytes
  after : Link π

/-- The limit was exceeded. -/
def RoundTrip.timedOut (round : RoundTrip π) : Bool :=
  match round.outcome with
  | .error (.timedOut _) => true
  | _ => false

/-- Exchanges on one connection with a limit, one after the other, with whatever happens between
them. The peer serves each request that reaches it. -/
inductive Session (account : Account π) (peer : Peer π) (span : Duration) :
    Link π → List (RoundTrip π) → Prop
  | done {link : Link π} : Session account peer span link []
  | exchange {link after : Link π} {request : Bytes} {outcome : Except TransportError Bytes}
      {rounds : List (RoundTrip π)} :
      (link.shutOut = false → account.Serves peer request link.peer) →
      link.exchange peer (some span) request = (outcome, after) →
      Session account peer span after rounds →
      Session account peer span link (⟨link, request, outcome, after⟩ :: rounds)
  | meanwhile {link other : Link π} {rounds : List (RoundTrip π)} :
      account.Meanwhile link other → Session account peer span other rounds →
      Session account peer span link rounds

namespace Session

variable {account : Account π} {peer : Peer π} {span : Duration} {link : Link π}
  {rounds : List (RoundTrip π)}

/-- On a connection that is shut out, every exchange fails alike. Nothing is sent, as the peer is as
before, and nothing is read. -/
theorem silent_of_shutOut (session : Session account peer span link rounds)
    (shutOut : link.shutOut = true) :
    ∀ round ∈ rounds, round.outcome = .error .closed ∧ round.after = round.before := by
  induction session with
  | done => simp
  | exchange _ made _ inductionHypothesis =>
      rw [Link.exchange_of_shutOut shutOut] at made
      cases made
      exact List.forall_mem_cons.2 ⟨⟨rfl, rfl⟩, inductionHypothesis shutOut⟩
  | meanwhile between _ inductionHypothesis =>
      exact inductionHypothesis (between.keepsShutOut shutOut)

/-- Once the limit was exceeded, every later exchange fails alike. -/
theorem pairwise_silent (session : Session account peer span link rounds) :
    rounds.Pairwise fun earlier later => earlier.timedOut = true →
      later.outcome = .error .closed ∧ later.after = later.before := by
  induction session with
  | done => exact .nil
  | exchange _ made session inductionHypothesis =>
      refine .cons (fun later found exceeded => ?_) inductionHypothesis
      apply session.silent_of_shutOut ?_ later found
      unfold RoundTrip.timedOut at exceeded
      simp only at exceeded
      split at exceeded
      · exact Link.shutOut_of_timedOut made
      · cases exceeded
  | meanwhile _ _ inductionHypothesis => exact inductionHypothesis

/-- On a connection that is not shut out, an exchange brings an answer exactly if a whole frame of it
arrives in time, and it is the answer to this very request. -/
theorem each_own (session : Session account peer span link rounds)
    (usable : link.Ready account ∨ link.shutOut = true) :
    ∀ round ∈ rounds, ∀ answer, round.outcome = .ok answer ↔
      round.before.shutOut = false ∧
        answer = account.answer round.request round.before.peer ∧
        Frame.Holds (peer.delivery round.request round.before.peer).prompt answer := by
  induction session with
  | done => simp
  | exchange serves made _ inductionHypothesis =>
      rcases usable with ready | shutOut
      · have came := ready.exchange span (serves ready.inUse)
        rw [made] at came
        refine List.forall_mem_cons.2 ⟨fun answer => ?_, inductionHypothesis came.usable⟩
        exact (came.own answer).trans (and_iff_right ready.inUse).symm
      · rw [Link.exchange_of_shutOut shutOut] at made
        cases made
        refine List.forall_mem_cons.2 ⟨fun answer => ?_, inductionHypothesis (.inr shutOut)⟩
        simp [shutOut]
  | meanwhile between _ inductionHypothesis =>
      apply inductionHypothesis
      rcases usable with ready | shutOut
      · exact .inl (ready.meanwhile between)
      · exact .inr (between.keepsShutOut shutOut)

/-- At most one of some rounds exceeds the limit if each one silences those after it. -/
private theorem countP_timedOut_le_one
    (silent : rounds.Pairwise fun earlier later => earlier.timedOut = true →
      later.outcome = .error .closed ∧ later.after = later.before) :
    rounds.countP RoundTrip.timedOut ≤ 1 := by
  induction silent with
  | nil => exact Nat.zero_le 1
  | @cons first others silences _ inductionHypothesis =>
      cases exceeded : first.timedOut with
      | false =>
          rw [List.countP_cons_of_neg (by simp [exceeded])]
          exact inductionHypothesis
      | true =>
          have noOther : others.countP RoundTrip.timedOut = 0 := by
            apply List.countP_eq_zero.2
            intro later found
            simp [RoundTrip.timedOut, (silences later found exceeded).1]
          apply Nat.le_of_eq
          rw [List.countP_cons_of_pos exceeded, noOther]

/-- A late answer is never taken for the answer to another request. On a new connection with a
limit, an exchange brings an answer exactly if a whole frame of it arrives in time, before any limit
was exceeded, and it is the answer to this very request. Once the limit was exceeded, every later
exchange fails because the connection is closed; it sends nothing and reads nothing, whatever
arrives meanwhile. So the limit is exceeded at most once. -/
theorem answers_own (account : Account π) (peer : Peer π) (span : Duration) (start : π)
    (nothingOwed : account.owed start = []) (notEnded : account.ended start = false)
    (session : Session account peer span (.fresh start) rounds) :
    (∀ round ∈ rounds, ∀ answer, round.outcome = .ok answer ↔
      round.before.shutOut = false ∧
        answer = account.answer round.request round.before.peer ∧
        Frame.Holds (peer.delivery round.request round.before.peer).prompt answer) ∧
    (rounds.Pairwise fun earlier later => earlier.timedOut = true →
      later.outcome = .error .closed ∧ later.after = later.before) ∧
    rounds.countP RoundTrip.timedOut ≤ 1 := by
  refine ⟨session.each_own (.inl (.fresh nothingOwed notEnded)), session.pairwise_silent, ?_⟩
  exact countP_timedOut_le_one session.pairwise_silent

end Session

/-! ## Servers -/

/-- A server answers what it is asked, and owes nothing behind it. -/
def Account.server {σ : Type} : Account (Server σ × Connection) where
  answer request served := (served.1.serveRemote request).1
  owed _ := []
  ended served := !served.2.isOpen

/-- A server serves requests as a peer, as long as they and its answers fit into frames. -/
theorem Account.serves_server {σ : Type} (server : Server σ) {request : Bytes}
    (requestFits : Frame.Fits request) (answerFits : Frame.Fits (server.serveRemote request).1) :
    Account.server.Serves .server request (server, .fresh) := by
  have delivered : Peer.server.deliver (Frame.encode request) (server, .fresh) =
      (⟨Frame.encode (server.serveRemote request).1, [], false⟩,
        (server.serveRemote request).2, .fresh) := by
    simp only [Peer.server, server.receive_encode requestFits]
    rfl
  constructor
  · intro _
    refine ⟨_, .inr (Frame.holds_encode answerFits), ?_⟩
    rw [Peer.delivery, Peer.next, delivered]
    exact (List.append_nil _).symm
  · intro ended
    cases ended
  · rw [Peer.delivery, Peer.next, delivered]
    rfl

/-! ## A slow clerk -/

/-- Somebody who numbers the answers, and writes some of them in one go and others in two. -/
structure Sample.Clerk where
  inOneGo : List Bool
  number : UInt8
  unwritten : Bytes

def Sample.clerk : Peer Clerk where
  deliver _ clerk :=
    let answer := clerk.unwritten ++ Frame.encode [clerk.number]
    match clerk.inOneGo with
    | true :: others => (⟨answer, [], false⟩, ⟨others, clerk.number + 1, []⟩)
    | _ => (⟨answer.take 3, [], false⟩, ⟨clerk.inOneGo.drop 1, clerk.number + 1, answer.drop 3⟩)

def Sample.clerkAccount : Account Clerk where
  answer _ clerk := [clerk.number]
  owed := Clerk.unwritten
  ended _ := false

/-- What is not written in one go is owed. -/
theorem Sample.serves_clerk (request : Bytes) (clerk : Clerk) :
    clerkAccount.Serves Sample.clerk request clerk where
  inOrder _ := by
    have fits : Frame.Fits [clerk.number] := by
      have size : (Wire.sized [clerk.number]).length = 2 := rfl
      rw [Frame.Fits, size]
      decide
    refine ⟨Frame.encode [clerk.number], .inr (Frame.holds_encode fits), ?_⟩
    rcases clerk with ⟨_ | ⟨_ | _, others⟩, number, unwritten⟩
    · exact (List.take_append_drop 3 (unwritten ++ Frame.encode [number])).symm
    · exact (List.take_append_drop 3 (unwritten ++ Frame.encode [number])).symm
    · exact (List.append_nil (unwritten ++ Frame.encode [number])).symm
  silent ended := by cases ended
  ending := by rcases clerk with ⟨_ | ⟨_ | _, others⟩, number, unwritten⟩ <;> rfl

/-- The first of the clerk's answers is in time. -/
private theorem Sample.exchange_inTime (span : Duration) :
    (Link.fresh ⟨[true, false], 7, []⟩).exchange Sample.clerk (some span) [1] =
      (.ok [7], .fresh ⟨[false], 8, []⟩) := by
  have fits : Frame.Fits [7] := by
    unfold Frame.Fits
    decide
  rw [Link.exchange_of_inUse rfl]
  exact Link.take_frame span (Frame.holds_encode fits) _ [] [] false

/-- Half of the second one is too late. -/
private theorem Sample.exchange_late (span : Duration) :
    (Link.fresh ⟨[false], 8, []⟩).exchange Sample.clerk (some span) [2] =
      (.error (.timedOut span), ⟨⟨[], 9, [2, 1, 8]⟩, [0, 0, 0], [], false, true⟩) := by
  have fits : Frame.Fits [8] := by
    unfold Frame.Fits
    decide
  have cutOff : Frame.CutOff [0, 0, 0] :=
    ⟨Frame.encode [8], [8], Frame.holds_encode fits, ⟨[2, 1, 8], rfl⟩, by decide⟩
  rw [Link.exchange_of_inUse rfl]
  exact Link.take_cutOff span cutOff _ [] false

/-- Three requests, the second of which is answered too late. The rest of its answer arrives before
the third request. -/
theorem Session.answers_clerk :
    let late : Link Sample.Clerk := ⟨⟨[], 9, []⟩, [0, 0, 0], [2, 1, 8], false, true⟩
    let rounds : List (RoundTrip Sample.Clerk) :=
      [⟨.fresh ⟨[true, false], 7, []⟩, [1], .ok [7], .fresh ⟨[false], 8, []⟩⟩,
        ⟨.fresh ⟨[false], 8, []⟩, [2], .error (.timedOut (.ofSeconds 1 0)),
          ⟨⟨[], 9, [2, 1, 8]⟩, [0, 0, 0], [], false, true⟩⟩,
        ⟨late, [3], .error .closed, late⟩]
    Session Sample.clerkAccount Sample.clerk (.ofSeconds 1 0) (.fresh ⟨[true, false], 7, []⟩)
        rounds ∧
      (∀ round ∈ rounds, ∀ answer, round.outcome = .ok answer →
        answer = Sample.clerkAccount.answer round.request round.before.peer) ∧
      rounds.countP RoundTrip.timedOut ≤ 1 := by
  intro late rounds
  have arrives : Sample.clerkAccount.Meanwhile
      ⟨⟨[], 9, [2, 1, 8]⟩, [0, 0, 0], [], false, true⟩ late :=
    @Account.Meanwhile.arrives Sample.Clerk Sample.clerkAccount
      ⟨⟨[], 9, [2, 1, 8]⟩, [0, 0, 0], [], false, true⟩ [2, 1, 8] ⟨[], 9, []⟩ false
      (fun _ => rfl) Bool.noConfusion rfl
  have session : Session Sample.clerkAccount Sample.clerk (.ofSeconds 1 0)
      (.fresh ⟨[true, false], 7, []⟩) rounds := by
    apply Session.exchange (fun _ => Sample.serves_clerk _ _) (Sample.exchange_inTime _)
    apply Session.exchange (fun _ => Sample.serves_clerk _ _) (Sample.exchange_late _)
    apply Session.meanwhile arrives
    exact .exchange (fun _ => Sample.serves_clerk _ _) (Link.exchange_of_shutOut rfl [3]) .done
  obtain ⟨own, _, once⟩ := answers_own Sample.clerkAccount Sample.clerk (.ofSeconds 1 0)
    ⟨[true, false], 7, []⟩ rfl rfl session
  exact ⟨session, fun round found answer answered => ((own round found answer).1 answered).2.1, once⟩

end RemoteCall
