import RemoteCall.Handler
import RemoteCall.Sample.State
import RemoteCall.Sample.Types

/-!
Contract: what the commands of the small application do.

Owns: the bodies: arithmetic that panics when it overflows, greetings, stopwatches, the list of
texts, commands that fail or panic, and commands that dispatch further requests.

Does not own: names under which they are registered.
-/

namespace RemoteCall.Sample

set_option autoImplicit false

open Wire

abbrev Action (α : Type) := Program State α

def change (step : State → State) : Action Unit := do
  Program.setState (step (← Program.state))

/-! ## Arithmetic -/

/-- Counts the call, then twice the number. -/
def double (number : Int64) : Action Int64 := do
  change fun state => { state with calls := state.calls + 1 }
  let twice := number.toInt * 2
  if IntegerFormat.i64.Holds twice then return Int64.ofInt twice
  else Program.panic (.text "attempt to multiply with overflow")

/-- Ten parts of a number, rounded toward zero. -/
def divideTenBy (number : Int64) : Action Int64 :=
  if number = 0 then Program.fail "cannot divide 10 by zero" else return 10 / number

def add (numbers : Int32 × Int32) : Action Int32 := do
  let sum := numbers.1.toInt + numbers.2.toInt
  if IntegerFormat.i32.Holds sum then return Int32.ofInt sum
  else Program.panic (.text "attempt to add with overflow")

def greet (name : String) : Action String :=
  return "Hello, " ++ name ++ "!"

/-! ## Stopwatches -/

def createStopwatch (name : String) : Action RemoteStopwatch := do
  let state ← Program.state
  Program.setState
    ({ state with nextId := state.nextId + 1 }.putStopwatch state.nextId ⟨none, 0⟩)
  return ⟨state.nextId, name⟩

def findStopwatch (handle : RemoteStopwatch) : Action Stopwatch := do
  let missing := "no stopwatch " ++ toString handle.id.toNat ++ " (" ++ handle.name ++ ")"
  match (← Program.state).stopwatch? handle.id with
  | some stopwatch => return stopwatch
  | none => Program.fail missing

/-- Starts a stopwatch; one that runs goes on. -/
def startStopwatch (handle : RemoteStopwatch) : Action Unit := do
  let stopwatch ← findStopwatch handle
  change fun state => state.putStopwatch handle.id
    { stopwatch with started := stopwatch.started.or (some state.now) }

def elapsedOfStopwatch (handle : RemoteStopwatch) : Action UInt64 := do
  let stopwatch ← findStopwatch handle
  return stopwatch.elapsed (← Program.state).now

def stopStopwatch (handle : RemoteStopwatch) : Action UInt64 := do
  let stopwatch ← findStopwatch handle
  let shown := stopwatch.elapsed (← Program.state).now
  change fun state => state.putStopwatch handle.id ⟨none, shown⟩
  return shown

def sleep (span : UInt64) : Action Unit :=
  change fun state => state.sleep span

/-! ## The list of texts -/

/-- Adds a text at the end, and returns how many there are. -/
def push (item : String) : Action UInt64 := do
  change fun state => { state with items := state.items ++ [item] }
  return UInt64.ofNat (← Program.state).items.length

/-- Takes the last text off. -/
def pop (_ : Unit) : Action (Option String) := do
  let state ← Program.state
  Program.setState { state with items := state.items.dropLast }
  return state.items.getLast?

def list (_ : Unit) : Action (List String) := do
  return (← Program.state).items

def pushFail (item : String) : Action Unit := do
  let _ ← push item
  Program.fail item

def pushPanic (item : String) : Action Unit := do
  let _ ← push item
  Program.panic (.text item)

/-! ## Failures and panics -/

def fail (message : String) : Action Unit :=
  Program.fail message

def panicAlways (_ : Unit) : Action Unit :=
  Program.panic (.text "kaboom")

def panicWith (message : String) : Action Unit :=
  Program.panic (.text message)

def panicWithNumber (_ : UInt32) : Action Unit :=
  Program.panic .other

/-- Fails with an error that panics when it is put into words. -/
def escape (_ : Unit) : Action Unit :=
  .done (.failed (.unspeakable (.text "escaped")))

/-! ## Records that are written by names -/

/-- Returns a record that cannot be written. -/
def totals : Handler State where
  argument := .unit
  result := flattenedSum
  body _ := return sumMember 0

/-- Takes a record that cannot be read. -/
def takeFlattened : Handler State where
  argument := flattenedSum
  result := .integer .u64
  body _ := return Transferable.toMember (0 : UInt64)

/-! ## Further requests -/

def echo (type : WireType) : Handler State where
  argument := type
  result := type
  body argument := return argument

def has (name : String) : Action Bool := do
  return (← Program.names).contains name

/-- The response to a request of a name and a written argument. -/
def relay (request : String × Bytes) : Action Response :=
  Program.request ⟨request.1, request.2⟩

/-- Counts down to zero by requests to the command itself, and back up. -/
def countdown (ownName : String) (number : UInt32) : Action UInt32 := do
  if number = 0 then return 0
  else
    let place := (number - 1).toNat
    let response ← Program.request ⟨ownName, compact place⟩
    match response.outcome with
    | .ok (.ok payload) =>
        match Transferable.decode UInt32 payload with
        | .ok reached => return reached + 1
        | .error error => Program.fail error.message
    | .ok (.error message) => Program.fail message
    | .error error => Program.fail error.message

end RemoteCall.Sample
