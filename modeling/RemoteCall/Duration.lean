/-!
Contract: spans of time and how they are told.

Owns: the unit in which a span is told, and the decimal fraction in that unit.

Does not own: clocks.
-/

namespace RemoteCall

set_option autoImplicit false

/-- A span of time, in nanoseconds. -/
structure Duration where
  nanoseconds : Nat
deriving DecidableEq, Repr

namespace Duration

def ofSeconds (seconds nanoseconds : Nat) : Duration :=
  ⟨seconds * 1000000000 + nanoseconds⟩

def ofMilliseconds (milliseconds : Nat) : Duration :=
  ⟨milliseconds * 1000000⟩

/-- The first `places` decimals of a fraction whose numerator is given over `10 ^ places`, behind
a point and without trailing zeros; nothing if they are all zero. -/
def fraction (places numerator : Nat) : List Char :=
  let digits := Nat.toDigits 10 numerator
  let padded := List.replicate (places - digits.length) '0' ++ digits
  match (padded.reverse.dropWhile (· = '0')).reverse with
  | [] => []
  | significant => '.' :: significant

/-- A span in a unit of `10 ^ places` nanoseconds. -/
def inUnit (span : Duration) (places : Nat) (unit : String) : String :=
  let whole := Nat.pow 10 places
  toString (span.nanoseconds / whole) ++
    String.ofList (fraction places (span.nanoseconds % whole)) ++ unit

/-- A span in the largest unit of which it holds at least one. -/
def text (span : Duration) : String :=
  if 1000000000 ≤ span.nanoseconds then span.inUnit 9 "s"
  else if 1000000 ≤ span.nanoseconds then span.inUnit 6 "ms"
  else if 1000 ≤ span.nanoseconds then span.inUnit 3 "µs"
  else span.inUnit 0 "ns"

end Duration

end RemoteCall
