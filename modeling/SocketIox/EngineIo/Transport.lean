import Mathlib.Data.List.AList
import SocketIox.EngineIo.Packet

/-! # The three transports

A transport accepts one `Data` at a time. What leaves it is kept in the order in
which it was accepted; the answers of the websocket sink and of the HTTP peer are
arbitrary and part of the state.
-/
namespace SocketIox.EngineIo
open Wire

inductive Data where
  | text (data : Bytes)
  | binary (data : Bytes)
  deriving DecidableEq, Repr

/-- The websocket message kinds; a text is held as its UTF-8 bytes. -/
inductive Message where
  | text (str : Bytes)
  | binary (data : Bytes)
  | ping (data : Bytes)
  | pong (data : Bytes)
  | close
  deriving DecidableEq, Repr

def Message.isData : Message → Bool
  | .text _ => true
  | .binary _ => true
  | _ => false

def Message.tryFrom : Data → Except Error Message
  | .text data => if (decodeUtf8 data).isSome then .ok (.text data) else .error .utf8Error
  | .binary data => .ok (.binary data)

class Transport (τ : Type) where
  emit : Base64Crate → τ → Data → Except Error Unit × τ

/-- `answer k` is the sink's error for its `k`-th message, if it refuses it. -/
structure WebsocketTransport where
  sent : List Message
  attempts : ℕ
  answer : ℕ → Option String

def WebsocketTransport.emit (transport : WebsocketTransport) (payload : Data) :
    Except Error Unit × WebsocketTransport :=
  match Message.tryFrom payload with
  | .error e => (.error e,transport)
  | .ok message =>
    match transport.answer transport.attempts with
    | some e => (.error (.wsError e),{ transport with attempts := transport.attempts+1 })
    | none => (.ok (),{ transport with
        sent := transport.sent ++ [message]
        attempts := transport.attempts+1 })

instance : Transport WebsocketTransport := ⟨fun _ => WebsocketTransport.emit⟩

/-- `PacketType::Message as u8`, the position of the variant. -/
def messageDiscriminant : UInt8 := 4

/-- What `WebsocketTransport::poll_next` makes of one incoming item, if it is not skipped. -/
def WebsocketTransport.receive : Except String Message → Option (Except Error Bytes)
  | .ok (.text str) => some (.ok str)
  | .ok (.binary data) => some (.ok (messageDiscriminant :: data))
  | .ok _ => none
  | .error e => some (.error (.wsError e))

def WebsocketTransport.stream (incoming : List (Except String Message)) : List (Except Error Bytes) :=
  incoming.filterMap WebsocketTransport.receive

/-- The byte string both polling transports make of a `Data`. -/
def pollingBody (base64 : Base64Crate) : Data → Bytes
  | .text data => data
  | .binary data => 98 :: base64.encode data

/-- The client's end of a polling connection: the bodies it posted, and what its `k`-th
request comes to, an error of the HTTP client or the status of the answer. -/
structure ClientPollingTransport where
  posted : List Bytes
  attempts : ℕ
  answer : ℕ → Except String ℕ

def ClientPollingTransport.emit (base64 : Base64Crate) (transport : ClientPollingTransport) (payload : Data) :
    Except Error Unit × ClientPollingTransport :=
  let body := pollingBody base64 payload
  match transport.answer transport.attempts with
  | .error e => (.error (.httpError e),{ transport with attempts := transport.attempts+1 })
  | .ok status =>
    let next := { transport with
      posted := transport.posted ++ [body]
      attempts := transport.attempts+1 }
    if status = 200 then (.ok (),next) else (.error (.invalidHttpResponseStatus status),next)

instance : Transport ClientPollingTransport := ⟨ClientPollingTransport.emit⟩

/-- The server's end of a polling connection: the queue a GET reads, and whether
its receiver has been dropped. -/
structure ServerPollingTransport where
  queue : List Bytes
  closed : Bool
  deriving DecidableEq, Repr

def ServerPollingTransport.emit (base64 : Base64Crate) (transport : ServerPollingTransport) (payload : Data) :
    Except Error Unit × ServerPollingTransport :=
  let data := pollingBody base64 payload
  if transport.closed then (.error (.sendError data),transport)
  else (.ok (),{ transport with queue := transport.queue ++ [data] })

instance : Transport ServerPollingTransport := ⟨ServerPollingTransport.emit⟩

/-- `Polling::polling_get` on a handle that exists and a queue that is not empty:
the first entry and everything else at hand. -/
def pollingGet (base64 : Base64Crate) (transport : ServerPollingTransport) :
    Option Bytes × ServerPollingTransport :=
  (buildPollingPayload base64 transport.queue,{ transport with queue := [] })

/-- What a polling handle leads to on the way in: the bodies sent to the socket, and
whether the socket has dropped its receiver. -/
structure Inbox where
  received : List Bytes
  closed : Bool
  deriving DecidableEq, Repr

abbrev PollingHandles := AList (fun _ : String => Inbox)

/-- `Polling::polling_post`; a send that fails is ignored. -/
def pollingPost (handles : PollingHandles) (sid : String) (data : Bytes) : PollingHandles :=
  match handles.lookup sid with
  | none => handles
  | some inbox =>
    if inbox.closed then handles
    else handles.insert sid { inbox with received := inbox.received ++ [data] }

theorem lookup_pollingPost_self {handles : PollingHandles} {sid : String} {received : List Bytes}
    (h : handles.lookup sid = some ⟨received,false⟩) (data : Bytes) :
    (pollingPost handles sid data).lookup sid = some ⟨received ++ [data],false⟩ := by
  simp [pollingPost,h]

def ServerPollingTransport.stream (inbox : Inbox) : List (Except Error Bytes) := inbox.received.map .ok

end SocketIox.EngineIo
