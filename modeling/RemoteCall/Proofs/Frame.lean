import RemoteCall.Frame
import RemoteCall.Proofs.Bytes
import RemoteCall.Proofs.Wire.Shortest

/-!
Contract: a stream is read as the longest run of frames at its front.

Owns:
- frames of a message: those that are written, and the others that are read as well;
- the next frame of a stream, which is found exactly if the stream starts with one;
- the longest run of frames at the front of a stream, which is what is read off it;
- parts of frames, which are waited for;
- streams that arrive in parts, and streams that go on.

Does not own: what messages say.
-/

namespace RemoteCall

set_option autoImplicit false

open Wire

/-! ## Messages inside the content of frames -/

namespace Wire

theorem Value.spelledByEach_bytes {content bytes : Bytes} :
    Value.SpelledByEach (content.map Transferable.toValue) bytes ↔ bytes = content := by
  induction content generalizing bytes with
  | nil => exact Iff.rfl
  | cons first others inductionHypothesis =>
      have single {head : Bytes} :
          (Transferable.toValue first).SpelledBy head ↔ head = [first] := by
        have code : UInt8.ofNat ((first.toNat : Int) % 256).toNat = first := by
          have bound := first.toNat_lt
          rw [Int.emod_eq_of_lt (by omega) (by omega), Int.toNat_natCast, UInt8.ofNat_toNat]
        show head = [UInt8.ofNat ((first.toNat : Int) % 256).toNat] ↔ _
        rw [code]
      constructor
      · rintro ⟨head, tail, headSpelled, tailSpelled, rfl⟩
        rw [single.1 headSpelled, inductionHypothesis.1 tailSpelled]
        rfl
      · rintro rfl
        exact ⟨[first], others, single.2 rfl, inductionHypothesis.2 rfl, rfl⟩

theorem Value.spelledBy_bytes {content bytes : Bytes} :
    (Transferable.toValue content).SpelledBy bytes ↔
      ∃ form, CompactForm false content.length form ∧ bytes = form ++ content := by
  constructor
  · rintro ⟨form, body, isForm, eachSpelled, rfl⟩
    rw [List.length_map] at isForm
    rw [spelledByEach_bytes.1 eachSpelled]
    exact ⟨form, isForm, rfl⟩
  · rintro ⟨form, isForm, rfl⟩
    refine ⟨form, content, ?_, spelledByEach_bytes.2 rfl, rfl⟩
    rw [List.length_map]
    exact isForm

end Wire

/-- A byte string is found at the front of an input behind any form of its length. -/
theorem Transferable.decodeFront_bytes_eq_ok {input message : Bytes} :
    decodeFront Bytes input = .ok message ↔
      ∃ form filling, CompactForm false message.length form ∧
        input = form ++ message ++ filling := by
  constructor
  · intro found
    obtain ⟨⟨member, filling⟩, ran, rfl⟩ := map_eq_ok.1 found
    obtain ⟨front, spelled, rfl⟩ := WireType.exists_spelling_of_readMember ran
    rw [← toMember_ofMember member] at spelled
    obtain ⟨form, isForm, rfl⟩ := Value.spelledBy_bytes.1 spelled
    exact ⟨form, filling, isForm, rfl⟩
  · rintro ⟨form, filling, isForm, rfl⟩
    have spelled : (toMember message).val.SpelledBy (form ++ message) :=
      Value.spelledBy_bytes.2 ⟨form, isForm, rfl⟩
    unfold decodeFront
    rw [WireType.readMember_append _ spelled filling]
    exact congrArg Except.ok (ofMember_toMember message)

namespace Frame

/-! ## Frames -/

/-- Content behind its size. -/
def enclose (content : Bytes) : Bytes :=
  Bytes.bigEndian sizeBytes content.length ++ content

/-- The frames of a message: it stands behind its length, in any form, and anything may follow. -/
def Holds (frame message : Bytes) : Prop :=
  ∃ form filling, CompactForm false message.length form ∧
    (form ++ message ++ filling).length < 2 ^ 32 ∧ frame = enclose (form ++ message ++ filling)

/-- The size of a message's frame can be written. -/
def Fits (message : Bytes) : Prop :=
  (sized message).length < 2 ^ 32

theorem length_enclose (content : Bytes) :
    (enclose content).length = sizeBytes + content.length := by
  rw [enclose, List.length_append, Bytes.length_bigEndian]

theorem Holds.leastBuffered_le {frame message : Bytes} (holds : Holds frame message) :
    leastBuffered ≤ frame.length := by
  obtain ⟨form, filling, isForm, _, rfl⟩ := holds
  have formPos := isForm.length_pos
  rw [length_enclose, List.length_append, List.length_append, leastBuffered, sizeBytes]
  omega

theorem holds_encode {message : Bytes} (fits : Fits message) : Holds (encode message) message := by
  have isForm : CompactForm false message.length (compact message.length) := by
    refine compact_isForm (.inl ?_)
    unfold Fits sized at fits
    rw [List.length_append] at fits
    omega
  refine ⟨compact message.length, [], isForm, ?_, ?_⟩
  · rwa [List.append_nil]
  · rw [List.append_nil]
    rfl

example : encode [7] = [0, 0, 0, 2, 1, 7] := by decide

/-! ## The next frame -/

/-- A stream starts with content behind its size, and a reader has enough of it to see that. -/
structure StartsWith (stream content rest : Bytes) : Prop where
  split : stream = enclose content ++ rest
  fits : content.length < 2 ^ 32
  enough : leastBuffered ≤ stream.length

theorem StartsWith.append {stream content rest : Bytes} (starts : StartsWith stream content rest)
    (more : Bytes) : StartsWith (stream ++ more) content (rest ++ more) where
  split := by rw [starts.split, List.append_assoc]
  fits := starts.fits
  enough := by
    have enough := starts.enough
    rw [List.length_append]
    omega

theorem next_of_startsWith {stream content rest : Bytes} (starts : StartsWith stream content rest)
    (ended : Bool) :
    next ended stream =
      match Transferable.decodeFront Bytes content with
      | .ok message => .message message rest
      | .error error => .failed (.content error) (content ++ rest) := by
  obtain ⟨rfl, fits, enough⟩ := starts
  have size : (enclose content ++ rest).take sizeBytes =
      Bytes.bigEndian sizeBytes content.length := by
    rw [enclose, List.append_assoc, List.take_left' (Bytes.length_bigEndian _ _)]
  have body : (enclose content ++ rest).drop sizeBytes = content ++ rest := by
    rw [enclose, List.append_assoc, List.drop_left' (Bytes.length_bigEndian _ _)]
  have sizeRead := Bytes.ofBigEndian_bigEndian sizeBytes content.length fits
  have allThere : ¬ (content ++ rest).length < content.length := by
    rw [List.length_append]
    omega
  unfold next
  rw [if_neg (Nat.not_lt.2 enough)]
  simp only [size, body, sizeRead, List.take_left, List.drop_left]
  exact if_neg allThere

/-- A stream that has as many bytes as its first ones say starts with content. -/
theorem startsWith_of_le {stream : Bytes} (enough : leastBuffered ≤ stream.length)
    (allThere : Bytes.ofBigEndian (stream.take sizeBytes) ≤ (stream.drop sizeBytes).length) :
    ∃ content rest, StartsWith stream content rest := by
  have sizeLength : (stream.take sizeBytes).length = sizeBytes := by
    rw [List.length_take]
    unfold leastBuffered at enough
    unfold sizeBytes
    omega
  have bounded := Bytes.ofBigEndian_lt (stream.take sizeBytes)
  have written := Bytes.bigEndian_ofBigEndian (stream.take sizeBytes)
  rw [sizeLength] at bounded written
  have contentLength := List.length_take_of_le allThere
  refine ⟨_, (stream.drop sizeBytes).drop (Bytes.ofBigEndian (stream.take sizeBytes)), ?_,
    Nat.lt_of_le_of_lt (Nat.le_of_eq contentLength) bounded, enough⟩
  rw [enclose, contentLength, written, List.append_assoc, List.take_append_drop,
    List.take_append_drop]

/-- A stream that starts with no content is waited for, or is at its end. -/
theorem next_of_not_startsWith {stream : Bytes}
    (none : ¬ ∃ content rest, StartsWith stream content rest) (ended : Bool) :
    next ended stream =
      if !ended then .waiting
      else if stream.isEmpty then .finished
      else .failed .brokenPipe stream := by
  unfold next
  by_cases few : stream.length < leastBuffered
  · rw [if_pos few]
  · have notEmpty : ¬ stream.isEmpty = true := by
      rw [List.isEmpty_iff]
      rintro rfl
      exact few (by decide)
    have cutOff : (stream.drop sizeBytes).length < Bytes.ofBigEndian (stream.take sizeBytes) :=
      Nat.lt_of_not_le fun allThere => none (startsWith_of_le (Nat.not_lt.1 few) allThere)
    rw [if_neg few, if_neg notEmpty]
    dsimp only
    rw [if_pos cutOff]
    cases ended <;> rfl

/-- What the front of a stream can be: a message, content that holds none, or no content. -/
theorem next_cases (ended : Bool) (stream : Bytes) :
    (∃ content rest message, StartsWith stream content rest ∧
      Transferable.decodeFront Bytes content = .ok message ∧
      next ended stream = .message message rest) ∨
    (∃ content rest error, StartsWith stream content rest ∧
      Transferable.decodeFront Bytes content = .error error ∧
      next ended stream = .failed (.content error) (content ++ rest)) ∨
    next ended stream =
      if !ended then .waiting
      else if stream.isEmpty then .finished
      else .failed .brokenPipe stream := by
  by_cases starts : ∃ content rest, StartsWith stream content rest
  · obtain ⟨content, rest, starts⟩ := starts
    cases decoded : Transferable.decodeFront Bytes content with
    | ok message =>
        left
        refine ⟨content, rest, message, starts, decoded, ?_⟩
        rw [next_of_startsWith starts, decoded]
    | error error =>
        right
        left
        refine ⟨content, rest, error, starts, decoded, ?_⟩
        rw [next_of_startsWith starts, decoded]
  · right
    right
    exact next_of_not_startsWith starts ended

/-- A message is read exactly if the stream starts with a frame of it. -/
theorem next_eq_message {ended : Bool} {stream message rest : Bytes} :
    next ended stream = .message message rest ↔
      ∃ frame, Holds frame message ∧ stream = frame ++ rest := by
  constructor
  · intro found
    rcases next_cases ended stream with
      ⟨content, after, inside, starts, decoded, isMessage⟩ | ⟨_, _, _, _, _, failed⟩ | short
    · rw [isMessage] at found
      cases found
      obtain ⟨form, filling, isForm, rfl⟩ := Transferable.decodeFront_bytes_eq_ok.1 decoded
      exact ⟨_, ⟨form, filling, isForm, starts.fits, rfl⟩, starts.split⟩
    · rw [failed] at found
      cases found
    · rw [short] at found
      split at found
      · cases found
      · split at found <;> cases found
  · rintro ⟨frame, holds, rfl⟩
    have enough := holds.leastBuffered_le
    obtain ⟨form, filling, isForm, fits, rfl⟩ := holds
    have starts : StartsWith (enclose (form ++ message ++ filling) ++ rest)
        (form ++ message ++ filling) rest := by
      refine ⟨rfl, fits, ?_⟩
      rw [List.length_append]
      omega
    have decoded : Transferable.decodeFront Bytes (form ++ message ++ filling) = .ok message :=
      Transferable.decodeFront_bytes_eq_ok.2 ⟨form, filling, isForm, rfl⟩
    rw [next_of_startsWith starts, decoded]

theorem next_frame_append {frame message : Bytes} (holds : Holds frame message) (ended : Bool)
    (rest : Bytes) : next ended (frame ++ rest) = .message message rest :=
  next_eq_message.2 ⟨frame, holds, rfl⟩

/-! ## Parts of frames -/

/-- The start of a frame, but not all of it. -/
def CutOff (part : Bytes) : Prop :=
  ∃ frame message, Holds frame message ∧ part <+: frame ∧ part ≠ frame

theorem cutOff_nil : CutOff [] := by
  refine ⟨encode [], [], holds_encode ?_, List.nil_prefix, by decide⟩
  unfold Fits
  decide

/-- No content behind its size goes on with more of the same. -/
theorem eq_nil_of_enclose_append {left right rest : Bytes} (leftFits : left.length < 2 ^ 32)
    (rightFits : right.length < 2 ^ 32) (same : enclose left ++ rest = enclose right) :
    rest = [] := by
  have size (content : Bytes) (behind : Bytes) :
      (enclose content ++ behind).take sizeBytes = Bytes.bigEndian sizeBytes content.length := by
    rw [enclose, List.append_assoc, List.take_left' (Bytes.length_bigEndian _ _)]
  have sameSize : Bytes.bigEndian sizeBytes left.length = Bytes.bigEndian sizeBytes right.length := by
    rw [← size left rest, same, ← List.append_nil (enclose right), size]
  have sameLength : left.length = right.length := by
    rw [← Bytes.ofBigEndian_bigEndian sizeBytes left.length leftFits, sameSize,
      Bytes.ofBigEndian_bigEndian sizeBytes right.length rightFits]
  have total := congrArg List.length same
  rw [List.length_append, length_enclose, length_enclose, sameLength] at total
  exact List.eq_nil_of_length_eq_zero (by omega)

theorem not_holds_nil (message : Bytes) : ¬ Holds [] message := by
  intro holds
  exact absurd holds.leastBuffered_le (by decide)

/-- A frame is no frame with more behind it. -/
theorem Holds.eq_nil_of_append {frame message rest other : Bytes} (holds : Holds frame message)
    (whole : Holds (frame ++ rest) other) : rest = [] := by
  obtain ⟨form, filling, _, fits, rfl⟩ := holds
  obtain ⟨otherForm, otherFilling, _, otherFits, same⟩ := whole
  exact eq_nil_of_enclose_append fits otherFits same

/-- A part of a frame is waited for, or is at the end of its stream. -/
theorem next_of_cutOff {part : Bytes} (cutOff : CutOff part) (ended : Bool) :
    next ended part =
      if !ended then .waiting
      else if part.isEmpty then .finished
      else .failed .brokenPipe part := by
  apply next_of_not_startsWith
  rintro ⟨content, rest, starts⟩
  obtain ⟨frame, message, ⟨form, filling, _, fits, isFrame⟩, ⟨more, whole⟩, notWhole⟩ := cutOff
  rw [isFrame, starts.split, List.append_assoc] at whole
  have nothingMore := eq_nil_of_enclose_append starts.fits fits whole
  rw [nothingMore, List.append_nil] at whole
  rw [starts.split, (List.append_eq_nil_iff.1 nothingMore).1, List.append_nil, isFrame] at notWhole
  exact notWhole whole

/-! ## Streams that are not frames -/

/-- What is not a frame stays so, whatever arrives behind it. -/
theorem next_append_of_failed {stream rest : Bytes} {error : FrameError}
    (failed : next false stream = .failed error rest) (ended : Bool) (more : Bytes) :
    next ended (stream ++ more) = .failed error (rest ++ more) := by
  rcases next_cases false stream with
    ⟨_, _, _, _, _, isMessage⟩ | ⟨content, after, cause, starts, decoded, fails⟩ | short
  · rw [isMessage] at failed
    cases failed
  · rw [fails] at failed
    cases failed
    rw [next_of_startsWith (starts.append more), decoded, List.append_assoc]
  · rw [short] at failed
    cases failed

theorem next_false_ne_finished (stream : Bytes) : next false stream ≠ .finished := by
  intro finished
  rcases next_cases false stream with
    ⟨_, _, _, _, _, isMessage⟩ | ⟨_, _, _, _, _, failed⟩ | short
  · rw [isMessage] at finished
    cases finished
  · rw [failed] at finished
    cases finished
  · rw [short] at finished
    cases finished

/-! ## Runs of frames -/

/-- The messages of the longest run of frames at the front of a stream. -/
inductive LeadingRun : Bytes → List Bytes → Prop where
  | stop {stream : Bytes} :
      (∀ frame message, Holds frame message → ¬ frame <+: stream) → LeadingRun stream []
  | frame {first message rest : Bytes} {messages : List Bytes} :
      Holds first message → LeadingRun rest messages →
      LeadingRun (first ++ rest) (message :: messages)

/-- Reading frames, one step unfolded. -/
theorem messages_eq (ended : Bool) (stream : Bytes) :
    messages ended stream =
      match next ended stream with
      | .message message rest =>
          (message :: (messages ended rest).1, (messages ended rest).2)
      | .waiting => ([], .waiting stream)
      | .finished => ([], .finished)
      | .failed error _ => ([], .failed error) := by
  rw [messages]
  split <;> rename_i found <;> simp only [found]

theorem messages_frame_append {frame message : Bytes} (holds : Holds frame message) (ended : Bool)
    (rest : Bytes) :
    messages ended (frame ++ rest) =
      (message :: (messages ended rest).1, (messages ended rest).2) := by
  rw [messages_eq, next_frame_append holds]

/-- If no message is read, the stream starts with no frame. -/
theorem LeadingRun.of_next_ne (ended : Bool) {stream : Bytes}
    (other : ∀ message rest, next ended stream ≠ .message message rest) :
    LeadingRun stream [] := by
  apply LeadingRun.stop
  rintro frame message holds ⟨rest, rfl⟩
  exact other message rest (next_frame_append holds ended rest)

/-- What is read off a stream is its longest run of frames, whether it has ended or not. -/
theorem messages_eq_iff_leadingRun {ended : Bool} {stream : Bytes} {run : List Bytes} :
    (messages ended stream).1 = run ↔ LeadingRun stream run := by
  constructor
  · rintro rfl
    induction stream using messages.induct ended with
    | case1 stream message rest found _ inductionHypothesis =>
        obtain ⟨frame, holds, rfl⟩ := next_eq_message.1 found
        rw [messages_frame_append holds]
        exact .frame holds inductionHypothesis
    | case2 stream found =>
        rw [messages_eq, found]
        exact .of_next_ne ended (by simp [found])
    | case3 stream found =>
        rw [messages_eq, found]
        exact .of_next_ne ended (by simp [found])
    | case4 stream error rest found =>
        rw [messages_eq, found]
        exact .of_next_ne ended (by simp [found])
  · intro isRun
    induction isRun with
    | stop noFrame =>
        rw [messages_eq]
        cases found : next ended _ with
        | message message rest =>
            obtain ⟨frame, holds, rfl⟩ := next_eq_message.1 found
            exact absurd (List.prefix_append frame rest) (noFrame frame message holds)
        | waiting => rfl
        | finished => rfl
        | failed error rest => rfl
    | frame holds _ inductionHypothesis => rw [messages_frame_append holds, inductionHypothesis]

/-- A stream has one longest run of frames. -/
theorem LeadingRun.unique {stream : Bytes} {left right : List Bytes}
    (leftRun : LeadingRun stream left) (rightRun : LeadingRun stream right) : left = right := by
  have leftRead : (messages true stream).1 = left := messages_eq_iff_leadingRun.2 leftRun
  have rightRead : (messages true stream).1 = right := messages_eq_iff_leadingRun.2 rightRun
  rw [← leftRead, rightRead]

/-- Messages that are written as frames, one after the other, are read off what is written. -/
theorem leadingRun_flatMap_encode {messages : List Bytes}
    (eachFits : ∀ message ∈ messages, Fits message) :
    LeadingRun (messages.flatMap encode) messages := by
  induction messages with
  | nil =>
      apply LeadingRun.stop
      intro frame message holds starts
      have enough := holds.leastBuffered_le
      rw [List.flatMap_nil, List.prefix_nil] at starts
      rw [starts] at enough
      exact absurd enough (by decide)
  | cons first others inductionHypothesis =>
      obtain ⟨firstFits, othersFit⟩ := List.forall_mem_cons.1 eachFits
      rw [List.flatMap_cons]
      exact .frame (holds_encode firstFits) (inductionHypothesis othersFit)

/-! ## Streams that go on -/

/-- What a part of a stream leaves is read together with what arrives behind it; where a part is not
a frame, nothing behind it is read. -/
theorem messages_append (part more : Bytes) (ended : Bool) :
    messages ended (part ++ more) =
      match messages false part with
      | (read, .waiting rest) =>
          (read ++ (messages ended (rest ++ more)).1, (messages ended (rest ++ more)).2)
      | stopped => stopped := by
  induction part using messages.induct false with
  | case1 part message after found _ inductionHypothesis =>
      obtain ⟨frame, holds, rfl⟩ := next_eq_message.1 found
      rw [List.append_assoc, messages_frame_append holds, messages_frame_append holds,
        inductionHypothesis]
      obtain ⟨read, stop⟩ := messages false after
      cases stop <;> rfl
  | case2 part found =>
      rw [messages_eq false part, found]
      rfl
  | case3 part found => exact absurd found (next_false_ne_finished part)
  | case4 part error after found =>
      rw [messages_eq false part, found, messages_eq, next_append_of_failed found]

/-- Of a stream that goes on, at least as many messages are read. -/
theorem messages_prefix_append (stream more : Bytes) (ended : Bool) :
    (messages ended stream).1 <+: (messages ended (stream ++ more)).1 := by
  have readAlike : (messages ended stream).1 = (messages false stream).1 :=
    messages_eq_iff_leadingRun.2 (messages_eq_iff_leadingRun.1 rfl)
  rw [readAlike, messages_append]
  obtain ⟨read, stop⟩ := messages false stream
  cases stop with
  | waiting rest => exact List.prefix_append read _
  | finished => exact List.prefix_rfl
  | failed error => exact List.prefix_rfl

end Frame

end RemoteCall
