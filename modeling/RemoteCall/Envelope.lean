import RemoteCall.Wire.Transferable

/-!
Contract: the envelopes in which a request and its answer travel.

Owns:
- requests, which name a command and carry its written argument;
- responses, which carry a written result or a written message of failure;
- their bytes, and what a response says.

Does not own: who answers, and how envelopes are carried.
-/

namespace RemoteCall

set_option autoImplicit false

open Wire

/-- One invocation: the command's name and its written argument. -/
structure Request where
  name : String
  args : Bytes
deriving DecidableEq, Repr

/-- One outcome: a written result, or a written message if `ok` is not set. -/
structure Response where
  ok : Bool
  payload : Bytes
deriving DecidableEq, Repr

/-- A request is written as the pair of its fields. -/
instance : Transferable Request :=
  Transferable.ofPair (α := String) (β := Bytes) (.record [.text, .bytes]) (fun _ => Iff.rfl)
    (fun request => (request.name, request.args)) (fun parts => ⟨parts.1, parts.2⟩)
    (fun _ => rfl) (fun _ => rfl)

instance : Transferable Response :=
  Transferable.ofPair (α := Bool) (β := Bytes) (.record [.bool, .bytes]) (fun _ => Iff.rfl)
    (fun response => (response.ok, response.payload)) (fun parts => ⟨parts.1, parts.2⟩)
    (fun _ => rfl) (fun _ => rfl)

namespace Request

def encode (request : Request) : Bytes :=
  sized (Utf8.encode request.name) ++ sized request.args

def decode (input : Bytes) : Except DecodeError Request :=
  Transferable.decode Request input

end Request

namespace Response

/-- The answer of a command that has a result. -/
def success (payload : Bytes) : Response :=
  ⟨true, payload⟩

/-- The answer of a command that has none, for the reason given. -/
def failure (message : String) : Response :=
  ⟨false, sized (Utf8.encode message)⟩

def encode (response : Response) : Bytes :=
  (if response.ok then 1 else 0) :: sized response.payload

def decode (input : Bytes) : Except DecodeError Response :=
  Transferable.decode Response input

/-- The written result that a response carries, or its message of failure. -/
def outcome (response : Response) : Except DecodeError (Except String Bytes) :=
  if response.ok then .ok (.ok response.payload)
  else (Transferable.decode String response.payload).map .error

end Response

/-! ## Envelopes are written like any other value -/

private theorem encode_bytes_value (content : Bytes) :
    (Transferable.toValue content).encode = .ok (sized content) :=
  Value.encode_bytes content

theorem Request.encode_eq (request : Request) :
    Transferable.encode request = .ok request.encode := by
  show Value.encodeEach [.text request.name, Transferable.toValue request.args] = _
  simp [Value.encodeEach, encode_bytes_value, Value.encode, Except.map, Request.encode]

theorem Response.encode_eq (response : Response) :
    Transferable.encode response = .ok response.encode := by
  show Value.encodeEach [.bool response.ok, Transferable.toValue response.payload] = _
  simp [Value.encodeEach, encode_bytes_value, Value.encode, Except.map, Response.encode]

end RemoteCall
