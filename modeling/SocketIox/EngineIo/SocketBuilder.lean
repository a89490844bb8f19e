import SocketIox.EngineIo.Handshake
import SocketIox.Proc.Attempt

/-! # Building the client's socket

The builder asks the network for a handshake, for a websocket and for an upgrade, and makes
a socket of the answers. The sid of the handshake becomes part of its URL. Whatever the
network answers, a socket that is built belongs to the session that was announced to it
last, and its requests are taken by the server for requests of that session.
-/
namespace SocketIox.EngineIo
open Wire Proc

/-- What the client uses of a URL; the query as the pairs that it is read as. -/
structure Url where
  scheme : String
  path : String
  query : List (String × String)
  deriving DecidableEq, Repr

def Url.appendPair (url : Url) (key value : String) : Url := { url with query := url.query ++ [(key,value)] }

/-- Crates url (`set_scheme`, which may refuse) and http (`HeaderName::from_str` with the name that it makes,
`HeaderValue::from_bytes`). -/
structure ClientCrates where
  base64 : Base64Crate
  json : StructJson
  setScheme : Url → String → Option Url
  headerName : String → Option String
  headerValue : Bytes → Bool

/-- Setting the scheme changes nothing else, and a URL with one of these schemes may be given the other ones. -/
structure ClientCrates.Schemes (crates : ClientCrates) : Prop where
  kept : ∀ url scheme next, crates.setScheme url scheme = some next → next = { url with scheme := scheme }
  allowed : ∀ url scheme, url.scheme ∈ ["http","https","ws","wss"] → scheme ∈ ["ws","wss"] →
    (crates.setScheme url scheme).isSome

/-- The entries of the map in the order of its iterator. -/
abbrev HeaderMap := List (String × Bytes)

def appendHeader (crates : ClientCrates) (header : String × Bytes) : Except BuildError (String × Bytes) :=
  match crates.headerName header.1 with
  | none => .error .invalidHeaderName
  | some name => if crates.headerValue header.2 then .ok (name,header.2) else .error .invalidHeaderValue

/-- `TryFrom<HeaderMap> for HttpHeaderMap`, the headers in the order in which they are appended. -/
def HeaderMap.tryInto (crates : ClientCrates) (headers : HeaderMap) : Except BuildError HeaderMap :=
  headers.mapM (appendHeader crates)

/-- What the builder asks for: an HTTP client, the first item of a polling transport, a websocket, the handshake
of an upgrade, and the first item of the websocket. -/
inductive Question where
  | client (headers : Option HeaderMap)
  | poll (url : Url) (headers : Option HeaderMap)
  | connect (url : Url) (headers : Option HeaderMap)
  | upgrade
  | frame
  deriving DecidableEq, Repr

def Answer : Question → Type
  | .client _ => Except String Unit
  | .poll _ _ => Option (Except Error Bytes)
  | .connect _ _ => Except String Unit
  | .upgrade => Except BuildError Unit
  | .frame => Option (Except Error Bytes)

inductive Halt where
  | error (error : BuildError)
  | panicked
  deriving DecidableEq, Repr

abbrev Building (R : Type) := Attempt Question Answer Halt R

def Question.pose (question : Question) : Building (Answer question) := Attempt.ask question

/-- The `?` operator. -/
def Building.ofResult {R : Type} (result : Except BuildError R) : Building R :=
  Attempt.ofExcept (result.mapError .error)

inductive ClientTransport where
  | polling (url : Url) (headers : Option HeaderMap)
  | websocket (url : Url)
  deriving DecidableEq, Repr

structure ClientSocket where
  transport : ClientTransport
  handshake : HandshakePacket
  shouldPong : Bool
  deriving DecidableEq, Repr

structure SocketBuilder where
  url : Url
  shouldPong : Bool
  headers : Option HeaderMap
  handshake : Option HandshakePacket
  channelSize : ℕ
  deriving DecidableEq, Repr

namespace SocketBuilder

def new (url : Url) : SocketBuilder :=
  let url := url.appendPair "EIO" "4"
  let url := if url.path = "/" then { url with path := "/engine.io/" } else url
  ⟨url,true,none,none,100⟩

def withHeaders (builder : SocketBuilder) (headers : HeaderMap) : SocketBuilder :=
  { builder with headers := some headers }

def channelBuf (builder : SocketBuilder) (size : ℕ) : SocketBuilder := { builder with channelSize := size }

section Build
variable (crates : ClientCrates)

def httpHeaders (builder : SocketBuilder) : Except BuildError (Option HeaderMap) :=
  match builder.headers with
  | none => .ok none
  | some headers =>
    match headers.tryInto crates with
    | .error e => .error e
    | .ok map => .ok (some map)

def pollingUrl (url : Url) : Url := url.appendPair "transport" "polling"

/-- `ClientPollingTransport::new`, as far as it can fail. -/
def newPolling (headers : Option HeaderMap) : Building Unit := do
  let client : Except String Unit ← Question.pose (.client headers)
  Building.ofResult (client.mapError (fun e => .engine (.httpError e)))

def websocketScheme (url : Url) : String := if url.scheme = "https" then "wss" else "ws"

def connect (url : Url) (headers : Option HeaderMap) : Building Url :=
  match crates.setScheme url (websocketScheme url) with
  | none => Attempt.fail .panicked
  | some url => do
    let url := url.appendPair "transport" "websocket"
    let stream : Except String Unit ← Question.pose (.connect url headers)
    Building.ofResult (stream.mapError (fun e => .engine (.wsError e)))
    pure url

/-- `handshake_with_transport`, given how the first item of the transport is asked for. -/
def handshakeWithTransport (builder : SocketBuilder) (next : Building (Option (Except Error Bytes))) :
    Building SocketBuilder :=
  if builder.handshake.isSome then pure builder
  else do
    let item ← next
    let handshake ← Building.ofResult (readHandshake crates.base64 crates.json item)
    pure { builder with
      url := builder.url.appendPair "sid" handshake.sid
      handshake := some handshake }

def performHandshake (builder : SocketBuilder) : Building SocketBuilder :=
  if builder.handshake.isSome then pure builder
  else do
    let headers ← Building.ofResult (builder.httpHeaders crates)
    newPolling headers
    builder.handshakeWithTransport crates (Question.pose (.poll (pollingUrl builder.url) headers))

def websocketUpgrade (builder : SocketBuilder) : Bool :=
  match builder.handshake with
  | none => false
  | some handshake => handshake.upgrades.any (fun upgrade => toLowercase upgrade = "websocket")

/-- `self.handshake.unwrap()`. -/
def socket (builder : SocketBuilder) (transport : ClientTransport) : Building ClientSocket :=
  match builder.handshake with
  | none => Attempt.fail .panicked
  | some handshake => pure ⟨transport,handshake,builder.shouldPong⟩

def upgrade : Building Unit := do
  let outcome : Except BuildError Unit ← Question.pose .upgrade
  Building.ofResult outcome

def buildWebsocket (builder : SocketBuilder) : Building ClientSocket := do
  let headers ← Building.ofResult (builder.httpHeaders crates)
  let url ← connect crates builder.url headers
  if builder.handshake.isSome then do
    upgrade
    builder.socket (.websocket url)
  else do
    let builder ← builder.handshakeWithTransport crates (Question.pose .frame)
    builder.socket (.websocket url)

def buildWebsocketWithUpgrade (builder : SocketBuilder) : Building ClientSocket := do
  let builder ← builder.performHandshake crates
  if builder.websocketUpgrade then builder.buildWebsocket crates
  else Attempt.fail (.error .illegalWebsocketUpgrade)

def buildPolling (builder : SocketBuilder) : Building ClientSocket := do
  let builder ← builder.performHandshake crates
  let headers ← Attempt.ofExcept ((builder.httpHeaders crates).mapError (fun _ => .panicked))
  newPolling headers
  builder.socket (.polling (pollingUrl builder.url) headers)

def build (builder : SocketBuilder) : Building ClientSocket := do
  let builder ← builder.performHandshake crates
  if builder.websocketUpgrade then builder.buildWebsocketWithUpgrade crates
  else builder.buildPolling crates

def buildWithFallback (builder : SocketBuilder) : Building ClientSocket :=
  (builder.build crates).observe fun
    | .ok socket => pure socket
    | .error (.error _) => builder.buildPolling crates
    | .error .panicked => Attempt.fail .panicked

end Build

end SocketBuilder

end SocketIox.EngineIo
