import RemoteCall.Text.Utf8
import RemoteCall.Wire.Integer

/-!
Contract: why bytes do not spell a value, and how that is told.

Owns:
- the causes for which reading a value stops;
- their wording.

Does not own: which cause is met first. That is the order in which a reader looks at its input.
-/

namespace RemoteCall.Wire

set_option autoImplicit false

/-- Why bytes do not spell a value of the type they are read as. -/
inductive DecodeError where
  /-- The input ends before a byte that is needed. -/
  | endOfInput
  /-- A text's length claims more bytes than are left. -/
  | textTooShort
  /-- The value ends before the input. -/
  | leftover
  /-- A byte other than 0 and 1 stands for a truth value. -/
  | invalidBool (found : Nat)
  /-- A byte other than 0 and 1 says whether a value is there. -/
  | invalidOption (found : Nat)
  /-- The bytes of a character are not UTF-8. -/
  | invalidChar
  /-- A number is marked as one of 16 bytes where none can be. -/
  | wideMarker
  /-- A number starts with the marker that stands for nothing. -/
  | reservedMarker
  /-- A number is too large for its format. -/
  | outOfRange (format : IntegerFormat) (found : Int)
  /-- The bytes of a text are not UTF-8. -/
  | invalidText (fault : Utf8.Fault)
  /-- A variant's index is not below the number of variants. -/
  | unknownVariant (index count : Nat)
  /-- A record that is written by names lacks a field. -/
  | missingField (name : String)
  /-- A record that is written by names has one, and names are not on the wire. -/
  | fieldByName
deriving DecidableEq, Repr

/-- What is said of a text that is not UTF-8. -/
def faultMessage : Utf8.Fault → String
  | .incomplete index =>
      "incomplete utf-8 byte sequence from index " ++ toString index
  | .invalid good index =>
      "invalid utf-8 sequence of " ++ toString good ++ " bytes from index " ++ toString index

namespace DecodeError

/-- What is said of the cause alone. -/
def cause : DecodeError → String
  | .endOfInput => "io error: unexpected end of file"
  | .textTooShort => "io error: "
  | .leftover => "Slice had bytes remaining after deserialization"
  | .invalidBool found =>
      "invalid u8 while decoding bool, expected 0 or 1, found " ++ toString found
  | .invalidOption found => "tag for enum is not valid, found " ++ toString found
  | .invalidChar => "char is not valid"
  | .wideMarker =>
      "Invalid value (u128 range): you may have a version or configuration disagreement?"
  | .reservedMarker =>
      "\nByte 255 is treated as an extension point; it should not be encoding anything.\n" ++
        "Do you have a mismatched bincode version or configuration?\n"
  | .outOfRange format found =>
      "Invalid " ++ format.name ++ " " ++ toString found ++
        ": you may have a version disagreement?"
  | .invalidText fault => "string is not valid utf8: " ++ faultMessage fault
  | .unknownVariant index count =>
      "invalid value: integer `" ++ toString index ++
        "`, expected variant index 0 <= i < " ++ toString count
  | .missingField name => "missing field `" ++ name ++ "`"
  | .fieldByName => "Bincode does not support Deserializer::deserialize_identifier"

/-- What is said of bytes that cannot be read. -/
def message (error : DecodeError) : String :=
  "decode error: " ++ error.cause

end DecodeError

end RemoteCall.Wire
