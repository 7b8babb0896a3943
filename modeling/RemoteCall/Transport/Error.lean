import RemoteCall.Duration
import RemoteCall.Text.Quoted
import RemoteCall.Wire.DecodeError

/-!
Contract: why an exchange with a server brings no answer.

Owns:
- the failures of the host, of framing and of an exchange;
- their wording.

Does not own: when each arises.
-/

namespace RemoteCall

set_option autoImplicit false

/-- A failure of the host's network. -/
inductive HostError where
  /-- A failure that the system numbers, with its kind and its own words. -/
  | numbered (code : Nat) (kind text : String)
  | described (text : String)
deriving DecidableEq, Repr

namespace HostError

def networkUnreachable : HostError :=
  .numbered 101 "NetworkUnreachable" "Network is unreachable"

def connectionRefused : HostError :=
  .numbered 111 "ConnectionRefused" "Connection refused"

def message : HostError → String
  | .numbered code _ text => text ++ " (os error " ++ toString code ++ ")"
  | .described text => text

/-- A host's failure with its parts named. -/
def details : HostError → String
  | .numbered code kind text =>
      "Os \x7b code: " ++ toString code ++ ", kind: " ++ kind ++ ", message: " ++
        Quoted.quote text ++ " \x7d"
  | .described text =>
      "Custom \x7b kind: Other, error: " ++ Quoted.quote text ++ " \x7d"

end HostError

/-- Why a stream of bytes is not a sequence of frames. -/
inductive FrameError where
  /-- The stream ends within a frame. -/
  | brokenPipe
  /-- A frame's content is not a byte string. -/
  | content (error : Wire.DecodeError)
  | described (text : String)
deriving DecidableEq, Repr

def FrameError.message : FrameError → String
  | .brokenPipe => "io error: broken pipe"
  | .content error => error.cause
  | .described text => text

/-- Why an exchange brings no answer. -/
inductive TransportError where
  | host (error : HostError)
  | framing (error : FrameError)
  /-- The other side ends the connection before it answers. -/
  | closed
  /-- No answer arrives in time. -/
  | timedOut (limit : Duration)
deriving DecidableEq, Repr

def TransportError.message : TransportError → String
  | .host error => "transport I/O error: " ++ error.message
  | .framing error => "transport framing error: " ++ error.message
  | .closed => "connection closed before a response arrived"
  | .timedOut limit => "no response within " ++ limit.text

end RemoteCall
