import RemoteCall.Client
import RemoteCall.Dispatcher
import RemoteCall.Sample.Action

/-!
Contract: the commands of the small application, as its server and its callers know them.

Owns:
- the handlers that are registered under names of their own;
- the handlers that are registered under any name;
- the commands that callers know, two of which the server does not serve in this way.

Does not own: what the commands do.
-/

namespace RemoteCall.Sample

set_option autoImplicit false

open Wire

def namedHandlers : List (String × Handler State) :=
  [("Double", .of double),
   ("Divide10By", .of divideTenBy),
   ("Greet", .of greet),
   ("Stopwatch_Create", .of createStopwatch),
   ("Stopwatch_Start", .of startStopwatch),
   ("Stopwatch_Elapsed", .of elapsedOfStopwatch),
   ("Stopwatch_Stop", .of stopStopwatch),
   ("Sleep", .of sleep),
   (batchName, .batch),
   (namesName, .names)]

/-- What can be registered under any name. -/
inductive Service where
  | double
  | divideTenBy
  | greet
  | echo (type : WireType)
  | add
  | fail
  | panicAlways
  | panicWith
  | panicWithNumber
  | escape
  | totals
  | takeFlattened
  | push
  | pop
  | list
  | pushFail
  | pushPanic
  | has
  | relay
  | countdown
deriving Repr

/-- The handler of a service that is registered under `name`. -/
def Service.handler (name : String) : Service → Handler State
  | .double => .of Sample.double
  | .divideTenBy => .of Sample.divideTenBy
  | .greet => .of Sample.greet
  | .echo type => Sample.echo type
  | .add => .of Sample.add
  | .fail => .of Sample.fail
  | .panicAlways => .of Sample.panicAlways
  | .panicWith => .of Sample.panicWith
  | .panicWithNumber => .of Sample.panicWithNumber
  | .escape => .of Sample.escape
  | .totals => Sample.totals
  | .takeFlattened => Sample.takeFlattened
  | .push => .of Sample.push
  | .pop => .of Sample.pop
  | .list => .of Sample.list
  | .pushFail => .of Sample.pushFail
  | .pushPanic => .of Sample.pushPanic
  | .has => .of Sample.has
  | .relay => .of Sample.relay
  | .countdown => .of (Sample.countdown name)

/-- The command under which callers know a handler. -/
def commandOf (named : String × Handler State) : Command :=
  ⟨named.1, named.2.argument, named.2.result⟩

def triple : Command :=
  ⟨"Triple", .integer .i64, .integer .i64⟩

/-- The greeting, with a result of which the server knows nothing. -/
def greetAsBool : Command :=
  ⟨"Greet", .text, .bool⟩

end RemoteCall.Sample
