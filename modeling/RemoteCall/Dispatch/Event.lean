import RemoteCall.Dispatch.Refusal
import RemoteCall.Program
import RemoteCall.Transport.Error

/-!
Contract: what happens while requests are served, in order, and which of it is logged.

Owns:
- the events;
- their levels and their lines in the log.

Does not own: when events happen.
-/

namespace RemoteCall

set_option autoImplicit false

inductive Level where
  | debug
  | info
  | warn
deriving DecidableEq, Repr

def Level.name : Level → String
  | .debug => "DEBUG"
  | .info => "INFO"
  | .warn => "WARN"

/-- Something that happens while requests are served. -/
inductive Event where
  /-- A request comes up for dispatch. This is not logged. -/
  | received (name : String)
  /-- A request's handler is found, before its argument is looked at. -/
  | dispatching (name : String) (argumentBytes : Nat)
  | failed (name : String) (error : Refusal)
  | malformed (error : Refusal)
  | listening
  | connectionFailed (error : TransportError)
  /-- A panic left the dispatch of a request that came over a connection. -/
  | taskPanicked (panic : Panic)
deriving DecidableEq, Repr

namespace Event

def taskText : Panic → String
  | .text message => "task N panicked with message " ++ Quoted.quote message
  | .other => "task N panicked"

/-- The level and the text of an event that is logged. Addresses and the numbers of tasks differ
from run to run, and are left open. -/
def entry? : Event → Option (Level × String)
  | .received _ => none
  | .dispatching name argumentBytes => some (.debug,
      "dispatching " ++ name ++ " (" ++ toString argumentBytes ++ " argument bytes)")
  | .failed name error => some (.warn, name ++ ": " ++ error.message)
  | .malformed error => some (.warn, error.message)
  | .listening => some (.info, "listening on ADDR")
  | .connectionFailed error => some (.warn, "connection from ADDR: " ++ error.message)
  | .taskPanicked panic => some (.warn, "dispatch task failed: " ++ taskText panic)

/-- The log of some events, a line for each that is logged. -/
def lines (events : List Event) : List String :=
  events.filterMap fun event => event.entry?.map fun entry => entry.1.name ++ " " ++ entry.2

end Event

end RemoteCall
