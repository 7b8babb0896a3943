import RemoteCall.Wire.DecodeError
import RemoteCall.Wire.Value

/-!
Contract: why a request is answered with a failure.

Owns:
- the causes, from the first check on a request to the last;
- their wording, which is the message that the failure carries.

Does not own: the order of the checks.
-/

namespace RemoteCall

set_option autoImplicit false

open Wire

/-- How many levels of requests may be dispatched from within others. -/
def nestingLimit : Nat := 32

/-- Why a request is answered with a failure. -/
inductive Refusal where
  /-- Its bytes are not a request. -/
  | malformedRequest (error : DecodeError)
  /-- It was dispatched from too many others, one within the other. -/
  | tooDeep
  | unknownCommand (name : String)
  /-- Its argument is not of the handler's type. -/
  | argument (error : DecodeError)
  | failed (message : String)
  | panicked (message : String)
  /-- The command's result cannot be written. -/
  | result (error : EncodeError)
deriving DecidableEq, Repr

/-- What an answer says of an unknown command before its name. -/
def unknownCommandText : String := "unknown command: "

/-- The message of the failure with which a request is answered. -/
def Refusal.message : Refusal → String
  | .malformedRequest error => "malformed request: " ++ error.message
  | .tooDeep => "batches nested more than " ++ toString nestingLimit ++ " deep"
  | .unknownCommand name => unknownCommandText ++ name
  | .argument error => "argument type mismatch: " ++ error.message
  | .failed message => message
  | .panicked message => "command panicked: " ++ message
  | .result error => "encoding result: " ++ error.message

end RemoteCall
