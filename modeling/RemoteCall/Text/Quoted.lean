import RemoteCall.Text.Printable

/-!
Contract: texts in double quotes, on one line and without characters that cannot be seen.

Owns: how each character is written between the quotes.

Does not own: which characters are printable.
-/

namespace RemoteCall.Quoted

set_option autoImplicit false

/-- A character by its number, in lower-case hexadecimal digits between braces. -/
def byNumber (character : Char) : List Char :=
  ['\\', 'u', '\x7b'] ++ Nat.toDigits 16 character.toNat ++ ['\x7d']

/-- A character between quotes: four controls, the quote and the backslash behind a backslash,
what cannot be seen by its number, all else as it is. -/
def escape (character : Char) : List Char :=
  if character = '\x00' then ['\\', '0']
  else if character = '\t' then ['\\', 't']
  else if character = '\r' then ['\\', 'r']
  else if character = '\n' then ['\\', 'n']
  else if character = '"' then ['\\', '"']
  else if character = '\\' then ['\\', '\\']
  else if Printable.isPrintable character then [character]
  else byNumber character

/-- A text in double quotes. -/
def quote (text : String) : String :=
  String.ofList (['"'] ++ text.toList.flatMap escape ++ ['"'])

end RemoteCall.Quoted
