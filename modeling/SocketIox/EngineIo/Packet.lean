import SocketIox.Wire.Base64
import SocketIox.Wire.Segments

/-! # Engine.io packets and payloads

The codec of single packets, the separator loop which reads a polling payload,
and the body which a polling GET builds from queued byte strings. The base-64
crate is a parameter; what the delivery results need of it is `Base64Crate.Standard`.
-/
namespace SocketIox.EngineIo
open Wire

/-- `base64::encode` and `base64::decode`; the text of an encoding is its ASCII bytes. -/
structure Base64Crate where
  encode : Bytes → Bytes
  decode : Bytes → Except String Bytes

/-- Documented behaviour of the crate's standard configuration. -/
structure Base64Crate.Standard (base64 : Base64Crate) : Prop where
  decode_encode : ∀ bytes, base64.decode (base64.encode bytes) = .ok bytes
  inAlphabet : ∀ bytes, ∀ c ∈ base64.encode bytes, Base64.InAlphabet c
  head_encode : ∀ b rest, (base64.encode (b :: rest)).head? = some (Base64.letter (b.toNat/4))

/-- Encoding undoes decoding on canonical text, the text that the strict codec accepts. -/
structure Base64Crate.Canonical (base64 : Base64Crate) : Prop extends base64.Standard where
  encode_decode : ∀ text bytes, (Base64.decode text).isSome = true → base64.decode text = .ok bytes →
    base64.encode bytes = text

def rfc4648 : Base64Crate where
  encode := Base64.encode
  decode bytes := match Base64.decode bytes with
    | some decoded => .ok decoded
    | none => .error "Invalid base64"

theorem rfc4648_standard : rfc4648.Standard where
  decode_encode bytes := by simp only [rfc4648,Base64.decode_encode]
  inAlphabet _ _ h := Base64.inAlphabet_of_mem_encode h
  head_encode := Base64.head_encode

theorem rfc4648_canonical : rfc4648.Canonical where
  toStandard := rfc4648_standard
  encode_decode text bytes _ h := by
    cases hd : Base64.decode text with
    | none => simp [rfc4648,hd] at h
    | some decoded =>
      simp only [rfc4648,hd,Except.ok.injEq] at h
      subst h
      exact Base64.encode_of_decode hd

def separator : UInt8 := 0x1e

inductive PacketType where
  | open_
  | close
  | ping
  | pong
  | message
  | messageBinary
  | upgrade
  | noop
  deriving DecidableEq, Repr

inductive Error where
  | invalidPacketType (b : UInt8)
  | invalidPacket
  | incompletePacket
  | invalidBase64 (error : String)
  | invalidHandShake (text : String)
  | wsError (error : String)
  | utf8Error
  | httpError (error : String)
  | invalidHttpResponseStatus (status : ℕ)
  | sendError (data : Bytes)
  | illegalActionBeforeOpen
  deriving DecidableEq, Repr

def PacketType.toU8 : PacketType → UInt8
  | .open_ => 0
  | .close => 1
  | .ping => 2
  | .pong => 3
  | .message => 4
  | .messageBinary => 4
  | .upgrade => 5
  | .noop => 6

/-- `From<PacketType> for String`, as ASCII bytes. -/
def PacketType.toBytes : PacketType → Bytes
  | .messageBinary => [98]
  | ptype => encodeUtf8 (digits ptype.toU8.toNat)

/-- `TryFrom<u8> for PacketType`: raw values and their ASCII digits. -/
def PacketType.tryFrom (b : UInt8) : Except Error PacketType :=
  if b = 0 ∨ b = 48 then .ok .open_
  else if b = 1 ∨ b = 49 then .ok .close
  else if b = 2 ∨ b = 50 then .ok .ping
  else if b = 3 ∨ b = 51 then .ok .pong
  else if b = 4 ∨ b = 52 then .ok .message
  else if b = 5 ∨ b = 53 then .ok .upgrade
  else if b = 6 ∨ b = 54 then .ok .noop
  else .error (.invalidPacketType b)

structure Packet where
  ptype : PacketType
  data : Bytes
  deriving DecidableEq, Repr

def Packet.noop : Packet := ⟨.noop,[]⟩

abbrev Payload := List Packet

section Codec
variable (base64 : Base64Crate)

def Packet.tryFrom : Bytes → Except Error Packet
  | [] => .error .incompletePacket
  | first :: data => do
    let isBase64 := first == 98
    let ptype ← if isBase64 then pure .messageBinary else PacketType.tryFrom first
    if data = [] ∧ ptype = .message then throw .incompletePacket
    if isBase64 then
      match base64.decode data with
      | .ok decoded => pure ⟨ptype,decoded⟩
      | .error e => throw (.invalidBase64 e)
    else pure ⟨ptype,data⟩

def Packet.toBytes (packet : Packet) : Bytes :=
  packet.ptype.toBytes ++
    if packet.ptype = .messageBinary then base64.encode packet.data else packet.data

/-- One pass of the loop over `0..payload.len()`, on the packets so far and `last_index`. -/
def Payload.tryFromStep (payload : Bytes) (state : Payload × ℕ) (i : ℕ) : Except Error (Payload × ℕ) :=
  if payload[i]? = some separator then do
    let packet ← Packet.tryFrom base64 (slice payload state.2 i)
    pure (state.1 ++ [packet],i+1)
  else pure state

def Payload.tryFrom (payload : Bytes) : Except Error Payload := do
  let (vec,lastIndex) ← (List.range payload.length).foldlM (Payload.tryFromStep base64 payload) ([],0)
  let packet ← Packet.tryFrom base64 (slice payload lastIndex payload.length)
  pure (vec ++ [packet])

/-- `TryFrom<Payload> for Bytes`: separated packets, the last separator cut off. An
empty payload has no separator to cut off and panics. -/
def Payload.toBytes (packets : Payload) : Option Bytes :=
  let buf := packets.flatMap (fun packet => packet.toBytes base64 ++ [separator])
  if buf = [] then none else some (buf.take (buf.length-1))

/-- The loop of `build_polling_payload` on the rest of the queue and the string
built so far, held as its UTF-8 bytes. -/
def buildPollingPayloadLoop : List Bytes → Bytes → Option Bytes
  | [], payload => some payload
  | bytes :: rest, payload =>
    match bytes with
    | [] => none
    | first :: _ =>
      let payload :=
        if first = 98 then payload ++ base64.encode bytes
        else if (decodeUtf8 bytes).isSome then payload ++ bytes
        else payload
      buildPollingPayloadLoop rest (if rest = [] then payload else payload ++ [separator])

def buildPollingPayload (byteVec : List Bytes) : Option Bytes := do
  let payload ← buildPollingPayloadLoop base64 byteVec []
  if payload = [] then none else some payload

theorem Payload.tryFrom_eq_mapM (payload : Bytes) :
    Payload.tryFrom base64 payload = (payload.splitOn separator).mapM (Packet.tryFrom base64) :=
  scan_eq_mapM separator (Packet.tryFrom base64) payload

end Codec

end SocketIox.EngineIo
