import RemoteCall.Transport.Error
import RemoteCall.Wire.Transferable

/-!
Contract: streams of bytes as sequences of messages.

Owns:
- frames: a size in four bytes, most significant first, and as many bytes of content, which hold
  the message behind its own length;
- the next frame of a stream, and all frames that a part of a stream holds.

A reader of frames waits for five bytes before it looks at the size, so a frame without content
is not seen until something follows it or the stream ends. Content behind the message is skipped.

Does not own: what messages say, and what becomes of contents of 2^32 bytes or more, for which there
is no frame.
-/

namespace RemoteCall

set_option autoImplicit false

namespace Frame

/-- The bytes that a reader waits for before it looks at a size. -/
def leastBuffered : Nat := 5

def sizeBytes : Nat := 4

/-- The frame of a message. It is meant for contents of less than 2^32 bytes; of a larger size only
the low four bytes are left here, where a writer of frames fails. -/
def encode (message : Bytes) : Bytes :=
  let content := Wire.sized message
  Bytes.bigEndian sizeBytes content.length ++ content

/-- What the front of a stream holds. -/
inductive Next where
  /-- A message, and what follows its frame. -/
  | message (content rest : Bytes)
  /-- Not yet a frame. -/
  | waiting
  /-- Nothing, and nothing will come. -/
  | finished
  /-- Something that is not a frame, and what stays to be read. -/
  | failed (error : FrameError) (rest : Bytes)
deriving DecidableEq, Repr

/-- The front of a stream of which `buffered` has arrived; `ended` says that no more will. -/
def next (ended : Bool) (buffered : Bytes) : Next :=
  if buffered.length < leastBuffered then
    if !ended then .waiting
    else if buffered.isEmpty then .finished
    else .failed .brokenPipe buffered
  else
    let size := Bytes.ofBigEndian (buffered.take sizeBytes)
    let body := buffered.drop sizeBytes
    if body.length < size then
      if ended then .failed .brokenPipe buffered else .waiting
    else
      match Transferable.decodeFront Bytes (body.take size) with
      | .ok message => .message message (body.drop size)
      | .error error => .failed (.content error) body

/-- A frame takes bytes off the stream. -/
theorem length_rest_lt {ended : Bool} {buffered content rest : Bytes}
    (found : next ended buffered = .message content rest) : rest.length < buffered.length := by
  unfold next at found
  split at found
  · repeat' split at found
    all_goals cases found
  · rename_i enough
    dsimp only at found
    split at found
    · split at found <;> cases found
    · split at found
      · cases found
        simp only [List.length_drop, leastBuffered, sizeBytes] at enough ⊢
        omega
      · cases found

/-- Why a run of frames ends. -/
inductive Stop where
  /-- What is left may become a frame. -/
  | waiting (rest : Bytes)
  /-- The stream ended between two frames. -/
  | finished
  /-- What is left is not a frame. -/
  | failed (error : FrameError)
deriving DecidableEq, Repr

/-- The messages at the front of a stream, and why there are no more. -/
def messages (ended : Bool) (buffered : Bytes) : List Bytes × Stop :=
  match found : next ended buffered with
  | .message content rest =>
      have : rest.length < buffered.length := length_rest_lt found
      let others := messages ended rest
      (content :: others.1, others.2)
  | .waiting => ([], .waiting buffered)
  | .finished => ([], .finished)
  | .failed error _ => ([], .failed error)
termination_by buffered.length

end Frame

end RemoteCall
