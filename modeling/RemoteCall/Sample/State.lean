import RemoteCall.Wire.Transferable

/-!
Contract: the state of a small application: a counter, a list of texts, a clock and stopwatches.

Owns:
- the state and its parts;
- stopwatches that run on the application's clock, and the handles by which callers name them.

Does not own: commands.
-/

namespace RemoteCall.Sample

set_option autoImplicit false

structure Stopwatch where
  /-- When it was started, if it runs. -/
  started : Option UInt64
  /-- What it had counted when it was stopped last. -/
  accumulated : UInt64
deriving DecidableEq, Repr

def Stopwatch.elapsed (stopwatch : Stopwatch) (now : UInt64) : UInt64 :=
  match stopwatch.started with
  | none => stopwatch.accumulated
  | some started => stopwatch.accumulated + (now - started)

structure State where
  calls : UInt64
  items : List String
  now : UInt64
  nextId : UInt64
  stopwatches : List (UInt64 × Stopwatch)
deriving DecidableEq, Repr

namespace State

def initial : State := ⟨0, [], 0, 0, []⟩

def stopwatch? (state : State) (id : UInt64) : Option Stopwatch :=
  state.stopwatches.lookup id

def putStopwatch (state : State) (id : UInt64) (stopwatch : Stopwatch) : State :=
  { state with stopwatches := (id, stopwatch) :: state.stopwatches.filter (·.1 != id) }

/-- Lets time go by; the clock stops at its greatest time. -/
def sleep (state : State) (span : UInt64) : State :=
  { state with now := UInt64.ofNat (min (state.now.toNat + span.toNat) (UInt64.size - 1)) }

end State

structure RemoteStopwatch where
  id : UInt64
  name : String
deriving DecidableEq, Repr

instance : Transferable RemoteStopwatch :=
  Transferable.ofPair (α := UInt64) (β := String) (.record [.integer .u64, .text])
    (fun _ => Iff.rfl) (fun handle => (handle.id, handle.name))
    (fun parts => ⟨parts.1, parts.2⟩) (fun _ => rfl) (fun _ => rfl)

end RemoteCall.Sample
