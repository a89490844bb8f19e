import SocketIox.SocketIo.Packet

/-! # Events, payloads and their places in a packet

A payload is one part or several. Its JSON parts go into the data array as they
are; a binary part becomes a placeholder object that holds its position among the
attachments. The handlers of the receiver read event and payload back.
-/
namespace SocketIox.SocketIo
open Wire

inductive Event where
  | message
  | error
  | custom (string : String)
  | connect
  | close
  deriving DecidableEq, Repr

def Event.fromString (string : String) : Event :=
  if toLowercase string = "message" then .message
  else if toLowercase string = "error" then .error
  else if toLowercase string = "open" then .connect
  else if toLowercase string = "close" then .close
  else .custom string

def Event.toString : Event → String
  | .message => "message"
  | .connect => "open"
  | .close => "close"
  | .error => "error"
  | .custom string => string

inductive RawPayload where
  | binary (bin : Bytes)
  | json (value : Value)
  deriving Repr

inductive Payload where
  | binary (bin : Bytes)
  | json (value : Value)
  | multi (payloads : List RawPayload)
  deriving Repr

def RawPayload.toPayload : RawPayload → Payload
  | .json data => .json data
  | .binary bin => .binary bin

section Encode

/-- `BinaryPlaceHolder` as the serializer writes it. -/
def binaryPlaceHolder (num : ℕ) : Value :=
  .object [("_placeholder",.bool true),("num",.number (.posInt (UInt64.ofNat num)))]

/-- The data array and the attachments under construction. -/
abbrev Draft := List Value × List Bytes

def processBinary (draft : Draft) (bin : Bytes) : Draft :=
  (draft.1 ++ [binaryPlaceHolder draft.2.length],draft.2 ++ [bin])

def processRaw (draft : Draft) : RawPayload → Draft
  | .binary bin => processBinary draft bin
  | .json value => (draft.1 ++ [value],draft.2)

def processPayload (draft : Draft) : Payload → Draft
  | .binary bin => processBinary draft bin
  | .json value => (draft.1 ++ [value],draft.2)
  | .multi payloads => payloads.foldl processRaw draft

def encodeData (event : Option Event) (payload : Payload) : Value × List Bytes :=
  let data := match event with
    | some event => [.string event.toString]
    | none => []
  let draft := processPayload (data,[]) payload
  (.array draft.1,draft.2)

def buildPacketForPayload (payload : Payload) (event : Option Event) (nsp : String) (id : Option UInt64)
    (isAck : Bool) : Packet :=
  let encoded := encodeData event payload
  let packetType := match encoded.2.isEmpty,isAck with
    | true,true => PacketType.ack
    | true,false => .event
    | false,true => .binaryAck
    | false,false => .binaryEvent
  ⟨packetType,nsp,some encoded.1,id,UInt8.ofNat encoded.2.length,some encoded.2⟩

end Encode

section Decode

/-- One pass of the loop of `decode_binary`. -/
def decodeBinaryPart (attachments : Option (List Bytes)) (value : Value) : Except Error RawPayload :=
  if (value.get "_placeholder").isSome then
    match (value.get "num").bind Value.asU64,attachments with
    | some index,some atts =>
      match atts[index.toNat]? with
      | some b => .ok (.binary b)
      | none => .error .invalidPacket
    | _,_ => .error .invalidPacket
  else .ok (.json value)

def decodeBinary (vec : List Value) (attachments : Option (List Bytes)) (skipEvent : Bool) :
    Except Error Payload := do
  let vecPayload ← (if skipEvent then vec.tail else vec).mapM (decodeBinaryPart attachments)
  match vecPayload with
  | [payload] => pure payload.toPayload
  | _ => pure (.multi vecPayload)

def decodeBinaryPayload (data : Option Value) (attachments : Option (List Bytes)) (skipEvent : Bool) :
    Option Payload :=
  match data with
  | some (.array vec) =>
    match decodeBinary vec attachments skipEvent with
    | .ok payload => some payload
    | .error _ => none
  | _ => none

def decodeEventPayload (packet : Packet) (skipEvent : Bool) : Option Payload :=
  match packet.data with
  | some (.array []) => none
  | some (.array [value]) => some (.json value)
  | some (.array [first,second]) =>
    if skipEvent then some (.json second) else some (.multi [.json first,.json second])
  | some (.array contents) =>
    some (.multi ((if skipEvent then contents.tail else contents).map .json))
  | _ => none

/-- The arguments of a callback: event, payload and the id to acknowledge. -/
structure Dispatch where
  event : Event
  payload : Option Payload
  needAck : Option UInt64
  deriving Repr

/-- `handle_event`; data that is no array is dropped with a warning. -/
def handleEvent (packet : Packet) : Option Dispatch :=
  match packet.data with
  | some (.array contents) =>
    let event := match contents with
      | .string ev :: _ :: _ => Event.fromString ev
      | _ :: _ :: _ => Event.fromString "message"
      | _ => .message
    some ⟨event,decodeEventPayload packet true,packet.id⟩
  | _ => none

def handleBinaryEvent (packet : Packet) : Dispatch :=
  let event := match packet.data with
    | some (.string e) => Event.fromString e
    | some (.array (.string e :: _)) => Event.fromString e
    | _ => .message
  ⟨event,decodeBinaryPayload packet.data packet.attachments true,packet.id⟩

def ackPayload (packet : Packet) (isBinary : Bool) : Option Payload :=
  if isBinary then decodeBinaryPayload packet.data packet.attachments false
  else decodeEventPayload packet false

/-- The event arms of `handle_socketio_packet`. -/
def Packet.eventArm (packet : Packet) : Option Dispatch :=
  match packet.ptype with
  | .event => handleEvent packet
  | .binaryEvent => some (handleBinaryEvent packet)
  | _ => none

/-- The ack arms of `handle_socketio_packet`: the id looked for and the payload for its callback. -/
def Packet.ackArm (packet : Packet) : Option (Option UInt64 × Option Payload) :=
  match packet.ptype with
  | .ack => some (packet.id,ackPayload packet false)
  | .binaryAck => some (packet.id,ackPayload packet true)
  | _ => none

end Decode

end SocketIox.SocketIo
