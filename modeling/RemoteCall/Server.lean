import RemoteCall.Dispatcher
import RemoteCall.Frame

/-!
Contract: a server: a dispatcher, the application's state between requests, and what happened.

Owns:
- answering the bytes of a request, in the same process or over a connection;
- connections, on which requests come as frames and are answered in their order.

Over a connection a panic that leaves the dispatcher ends only the request that let it out.

Does not own: the other side of a connection.
-/

namespace RemoteCall

set_option autoImplicit false

/-- A dispatcher with its application's state, and what happened so far. -/
structure Server (σ : Type) where
  dispatcher : Dispatcher σ
  state : σ
  events : List Event

namespace Server

variable {σ : Type}

def start (dispatcher : Dispatcher σ) (state : σ) : Server σ :=
  ⟨dispatcher, state, []⟩

def note (server : Server σ) (event : Event) : Server σ :=
  { server with events := server.events ++ [event] }

def listen (server : Server σ) : Server σ :=
  server.note .listening

/-- Takes over the state that a run leaves, and what happened in it. -/
def absorb {α : Type} (server : Server σ) (ran : Run σ α) : α × Server σ :=
  (ran.outcome, ⟨server.dispatcher, ran.state, server.events ++ ran.events⟩)

def serve (server : Server σ) (request : Bytes) : Except Panic Bytes × Server σ :=
  server.absorb (server.dispatcher.serve request server.state)

def answer (server : Server σ) (request : Request) :
    Except Panic Response × Server σ :=
  server.absorb (server.dispatcher.answer request server.state)

/-- The answer to a request over a connection whose dispatch let a panic out. -/
def panickedAnswer : Bytes :=
  (Response.failure "command panicked").encode

/-- Serves the bytes of a request that came over a connection. -/
def serveRemote (server : Server σ) (request : Bytes) : Bytes × Server σ :=
  match server.serve request with
  | (.ok response, server) => (response, server)
  | (.error panic, server) => (panickedAnswer, server.note (.taskPanicked panic))

/-- Serves the bytes of requests that came over a connection, one after the other. -/
def serveEach (server : Server σ) : List Bytes → List Bytes × Server σ
  | [] => ([], server)
  | request :: requests =>
      let first := server.serveRemote request
      let others := first.2.serveEach requests
      (first.1 :: others.1, others.2)

end Server

/-- A server's side of a connection. -/
structure Connection where
  /-- What has arrived and is not yet a frame. -/
  pending : Bytes
  /-- Whether the server still reads. -/
  isOpen : Bool
deriving DecidableEq, Repr

def Connection.fresh : Connection := ⟨[], true⟩

namespace Server

variable {σ : Type}

/-- What a server writes on a connection when some bytes arrive on it, the last ones if `ended`. A
stream that is not a sequence of frames is read up to the first thing that is no frame. -/
def receive (server : Server σ) (connection : Connection) (arrived : Bytes) (ended : Bool) :
    Bytes × Server σ × Connection :=
  if connection.isOpen then
    let (requests, stop) := Frame.messages ended (connection.pending ++ arrived)
    let (answers, server) := server.serveEach requests
    let written := answers.flatMap Frame.encode
    match stop with
    | .waiting rest => (written, server, ⟨rest, true⟩)
    | .finished => (written, server, ⟨[], false⟩)
    | .failed error =>
        (written, server.note (.connectionFailed (.framing error)), ⟨[], false⟩)
  else ([], server, connection)

/-- What a server writes on a connection whose other side writes `stream` and then ends it. -/
def serveStream (server : Server σ) (stream : Bytes) : Bytes × Server σ :=
  let (written, server, _) := server.receive .fresh stream true
  (written, server)

/-- What a server writes on connections that come one after the other. -/
def serveStreams (server : Server σ) : List Bytes → List Bytes × Server σ
  | [] => ([], server)
  | stream :: streams =>
      let first := server.serveStream stream
      let others := first.2.serveStreams streams
      (first.1 :: others.1, others.2)

end Server

end RemoteCall
