import SocketIox.EngineIo.Packet
import SocketIox.SocketIo.Value

/-! # Socket.io packets

The text of a packet is its type digit, the attachment count of a binary type,
a namespace other than the default one, an id and the JSON data, without length
prefixes. The decoder walks over the characters with one character of lookahead.
-/
namespace SocketIox.SocketIo
open Wire

inductive PacketType where
  | connect
  | disconnect
  | event
  | ack
  | connectError
  | binaryEvent
  | binaryAck
  deriving DecidableEq, Repr

inductive Error where
  | invalidPacketType (c : Char)
  | incompletePacket
  | invalidPacket
  | invalidUtf8
  | illegalActionBeforeOpen
  | invalidJson (error : String)
  | incompleteResponseFromEngineIo (error : EngineIo.Error)
  | invalidAttachmentPacketType (ptype : UInt8)
  deriving DecidableEq, Repr

structure Packet where
  ptype : PacketType
  nsp : String
  data : Option Value
  id : Option UInt64
  attachmentCount : UInt8
  attachments : Option (List Bytes)
  deriving Repr

instance : Inhabited Packet := ⟨⟨.event,"/",none,none,0,none⟩⟩

def PacketType.toU8 : PacketType → UInt8
  | .connect => 0
  | .disconnect => 1
  | .event => 2
  | .ack => 3
  | .connectError => 4
  | .binaryEvent => 5
  | .binaryAck => 6

def PacketType.tryFrom (c : Char) : Except Error PacketType :=
  match c with
  | '0' => .ok .connect
  | '1' => .ok .disconnect
  | '2' => .ok .event
  | '3' => .ok .ack
  | '4' => .ok .connectError
  | '5' => .ok .binaryEvent
  | '6' => .ok .binaryAck
  | c => .error (.invalidPacketType c)

def PacketType.isBinary (ptype : PacketType) : Bool := ptype = .binaryAck || ptype = .binaryEvent

section Encode
variable (json : SerdeJson) (packet : Packet)

def Packet.countText : List Char :=
  if packet.ptype.isBinary then digits packet.attachmentCount.toNat ++ ['-'] else []

def Packet.nspText : List Char := if packet.nsp ≠ "/" then packet.nsp.toList ++ [','] else []

def Packet.idText : List Char :=
  match packet.id with
  | some id => digits id.toNat
  | none => []

def Packet.dataText : List Char :=
  match packet.data with
  | some data => (json.toString data).toList
  | none => []

def Packet.toBytes : Bytes :=
  encodeUtf8 (digits packet.ptype.toU8.toNat ++ packet.countText ++ packet.nspText ++ packet.idText ++
    packet.dataText json)

end Encode

/-- The loops over the attachment count and the namespace: characters up to the
stop character, which is consumed. -/
def readUntil (stop : Char) : List Char → List Char → Except Error (List Char × List Char)
  | [], _ => .error .incompletePacket
  | c :: rest, charBuf => if c = stop then .ok (charBuf,rest) else readUntil stop rest (charBuf ++ [c])

/-- The loop over the id; `none` when the text ends inside it. -/
def readId : List Char → List Char → Option (List Char × List Char)
  | [], _ => none
  | c :: rest, charBuf => if c.isDigit then readId rest (charBuf ++ [c]) else some (charBuf,c :: rest)

def Packet.readCount (packet : Packet) (chars : List Char) : Except Error (Packet × List Char) := do
  let (charBuf,rest) ← if packet.ptype.isBinary then readUntil '-' chars [] else pure ([],chars)
  match parseUnsigned (2^8) charBuf with
  | some count => pure ({ packet with attachmentCount := UInt8.ofNat count },rest)
  | none => pure (packet,rest)

def Packet.readNsp (packet : Packet) (chars : List Char) : Except Error (Packet × List Char) := do
  let (charBuf,rest) ← if chars.head? = some '/' then readUntil ',' chars.tail ['/'] else pure ([],chars)
  if charBuf = [] then pure (packet,rest) else pure ({ packet with nsp := String.ofList charBuf },rest)

/-- Data as the decoder reports it: an empty array is no data. -/
def Value.nonEmpty : Value → Option Value
  | .array [] => none
  | v => some v

def Packet.readIdAndData (json : SerdeJson) (packet : Packet) (chars : List Char) : Except Error Packet :=
  match readId chars [] with
  | none => .ok packet
  | some (charBuf,rest) =>
    let packet := match parseUnsigned (2^64) charBuf with
      | some count => { packet with id := some (UInt64.ofNat count) }
      | none => packet
    match json.fromStr (String.ofList rest) with
    | .ok data => .ok { packet with data := data.nonEmpty }
    | .error e => .error (.invalidJson e)

/-- The default packet with its type set. -/
def Packet.initial (ptype : PacketType) : Packet := { (default : Packet) with ptype := ptype }

def Packet.tryFrom (json : SerdeJson) (payload : Bytes) : Except Error Packet :=
  match decodeUtf8 payload with
  | none => .error .invalidUtf8
  | some [] => .error .incompletePacket
  | some (c :: rest) => do
    let ptype ← PacketType.tryFrom c
    let (packet,rest) ← (Packet.initial ptype).readCount rest
    let (packet,rest) ← packet.readNsp rest
    packet.readIdAndData json rest

end SocketIox.SocketIo
