import SocketIox.EngineIo.ChunkedPolling
import SocketIox.EngineIo.HttpHandling
import SocketIox.SocketIo.Value

/-! # The handshake packet

The server announces the session and its options as a JSON document in an open packet, in
the answer to the first GET or as the first frame of a websocket. The client takes the
first thing that its transport yields for it. The serializer is a parameter; what the
client makes of a document is here: which fields it looks for, and what it refuses.
-/
namespace SocketIox.EngineIo
open Wire Proc

abbrev JsonValue := SocketIo.Value

/-- The errors of the client's builder: those of the transports, and those that only it returns. -/
inductive BuildError where
  | engine (error : Error)
  | illegalWebsocketUpgrade
  | invalidJson (error : String)
  | invalidHeaderName
  | invalidHeaderValue
  deriving DecidableEq, Repr

/-- What a parser finds at the top of a document, the fields of an object in the order in which
they are written. -/
inductive JsonDocument where
  | object (fields : List (String × JsonValue))
  | array (vec : List JsonValue)
  | other

/-- `serde_json::to_string` of a struct with its fields and `serde_json::from_slice`. -/
structure StructJson where
  toString : List (String × JsonValue) → String
  fromSlice : Bytes → Except String JsonDocument

/-- The parser finds the fields that the serializer has written, and refuses a text that breaks off. -/
structure StructJson.Faithful (json : StructJson) (fields : List (String × JsonValue)) : Prop where
  whole : json.fromSlice (encodeUtf8 (json.toString fields).toList) = .ok (.object fields)
  broken : ∀ part, part <+: encodeUtf8 (json.toString fields).toList →
    part ≠ encodeUtf8 (json.toString fields).toList → ∃ e, json.fromSlice part = .error e

section Fields

def readString : JsonValue → Except String String
  | .string s => .ok s
  | _ => .error "invalid type: expected a string"

def readStrings : JsonValue → Except String (List String)
  | .array vec => vec.mapM readString
  | _ => .error "invalid type: expected a sequence"

def readUnsigned : JsonValue → Except String ℕ
  | .number (.posInt n) => .ok n.toNat
  | _ => .error "invalid type: expected an unsigned integer"

def takeField {α : Type} (read : JsonValue → Except String α) (value : JsonValue) :
    Option α → Except String (Option α)
  | none => do
    let a ← read value
    pure (some a)
  | some _ => .error "duplicate field"

def requireField {α : Type} : Option α → Except String α
  | some a => .ok a
  | none => .error "missing field"

structure HandshakeDraft where
  sid : Option String
  upgrades : Option (List String)
  pingInterval : Option ℕ
  pingTimeout : Option ℕ
  maxPayload : Option ℕ

/-- One entry of an object; unknown fields are skipped. -/
def HandshakeDraft.visit (draft : HandshakeDraft) (field : String × JsonValue) : Except String HandshakeDraft :=
  match field.1 with
  | "sid" => do
    let sid ← takeField readString field.2 draft.sid
    pure { draft with sid := sid }
  | "upgrades" => do
    let upgrades ← takeField readStrings field.2 draft.upgrades
    pure { draft with upgrades := upgrades }
  | "pingInterval" => do
    let pingInterval ← takeField readUnsigned field.2 draft.pingInterval
    pure { draft with pingInterval := pingInterval }
  | "pingTimeout" => do
    let pingTimeout ← takeField readUnsigned field.2 draft.pingTimeout
    pure { draft with pingTimeout := pingTimeout }
  | "maxPayload" => do
    let maxPayload ← takeField readUnsigned field.2 draft.maxPayload
    pure { draft with maxPayload := maxPayload }
  | _ => pure draft

def HandshakeDraft.finish (draft : HandshakeDraft) : Except String HandshakePacket := do
  let sid ← requireField draft.sid
  let upgrades ← requireField draft.upgrades
  let pingInterval ← requireField draft.pingInterval
  let pingTimeout ← requireField draft.pingTimeout
  let maxPayload ← requireField draft.maxPayload
  pure ⟨sid,upgrades,pingInterval,pingTimeout,maxPayload⟩

end Fields

namespace HandshakePacket

def fields (packet : HandshakePacket) : List (String × JsonValue) :=
  [("sid",.string packet.sid),("upgrades",.array (packet.upgrades.map .string)),
    ("pingInterval",.number (.posInt (UInt64.ofNat packet.pingInterval))),
    ("pingTimeout",.number (.posInt (UInt64.ofNat packet.pingTimeout))),
    ("maxPayload",.number (.posInt (UInt64.ofNat packet.maxPayload)))]

/-- A struct is read from an object, or from an array of its fields in order. -/
def ofDocument : JsonDocument → Except String HandshakePacket
  | .object fields => do
    let draft ← fields.foldlM HandshakeDraft.visit ⟨none,none,none,none,none⟩
    draft.finish
  | .array [sid,upgrades,pingInterval,pingTimeout,maxPayload] => do
    let sid ← readString sid
    let upgrades ← readStrings upgrades
    let pingInterval ← readUnsigned pingInterval
    let pingTimeout ← readUnsigned pingTimeout
    let maxPayload ← readUnsigned maxPayload
    pure ⟨sid,upgrades,pingInterval,pingTimeout,maxPayload⟩
  | .array _ => .error "invalid length"
  | .other => .error "invalid type"

/-- `TryFrom<Packet> for HandshakePacket`; the type of the packet is not looked at. -/
def tryFrom (json : StructJson) (packet : Packet) : Except BuildError HandshakePacket :=
  match json.fromSlice packet.data with
  | .error e => .error (.invalidJson e)
  | .ok document =>
    match ofDocument document with
    | .error e => .error (.invalidJson e)
    | .ok handshake => .ok handshake

def Fits (packet : HandshakePacket) : Prop :=
  packet.pingInterval < 2^64 ∧ packet.pingTimeout < 2^64 ∧ packet.maxPayload < 2^64

instance (packet : HandshakePacket) : Decidable packet.Fits := inferInstanceAs (Decidable (_ ∧ _ ∧ _))

end HandshakePacket

section Exchange
variable (base64 : Base64Crate) (json : StructJson)

def handshakeBody (option : ServerOption) (sid : String) : List Char :=
  digits PacketType.open_.toU8.toNat ++ (json.toString (handshakePacket option ["websocket"] sid).fields).toList

/-- The message of `handshake` on a websocket without a session. -/
def handshakeMessage (option : ServerOption) (sid : String) : Message :=
  .text (Packet.toBytes base64
    ⟨.open_,encodeUtf8 (json.toString (handshakePacket option [] sid).fields).toList⟩)

/-- What `handshake_with_transport` makes of the first item of a transport. -/
def readHandshake (item : Option (Except Error Bytes)) : Except BuildError HandshakePacket :=
  match item with
  | none => .error (.engine .incompletePacket)
  | some (.error e) => .error (.engine e)
  | some (.ok bytes) =>
    match Packet.tryFrom base64 bytes with
    | .error e => .error (.engine e)
    | .ok packet => HandshakePacket.tryFrom json packet

end Exchange

section RoundTrip
variable {base64 : Base64Crate} {json : StructJson} {packet : HandshakePacket}

theorem mapM_readString (strings : List String) : (strings.map .string).mapM readString = .ok strings := by
  induction strings with
  | nil => rfl
  | cons s rest ih => simp [readString,ih,bind,Except.bind,pure,Except.pure]

theorem readUnsigned_ofNat {n : ℕ} (h : n < 2^64) : readUnsigned (.number (.posInt (UInt64.ofNat n))) = .ok n := by
  rw [readUnsigned,UInt64.toNat_ofNat_of_lt' h]

theorem HandshakePacket.ofDocument_fields (h : packet.Fits) : ofDocument (.object packet.fields) = .ok packet := by
  obtain ⟨hinterval,htimeout,hpayload⟩ := h
  simp [ofDocument,fields,HandshakeDraft.visit,takeField,readString,readStrings,mapM_readString,
    readUnsigned_ofNat hinterval,readUnsigned_ofNat htimeout,readUnsigned_ofNat hpayload,HandshakeDraft.finish,
    requireField,bind,Except.bind,pure,Except.pure,-List.mapM_map]

theorem HandshakePacket.tryFrom_fields (hf : json.Faithful packet.fields) (h : packet.Fits) (ptype : PacketType) :
    tryFrom json ⟨ptype,encodeUtf8 (json.toString packet.fields).toList⟩ = .ok packet := by
  simp only [tryFrom,hf.whole,ofDocument_fields h]

theorem tryFrom_open (data : Bytes) : Packet.tryFrom base64 (48 :: data) = .ok ⟨.open_,data⟩ := by
  simp [Packet.tryFrom,PacketType.tryFrom,bind,Except.bind,pure,Except.pure]

theorem readHandshake_open (hf : json.Faithful packet.fields) (h : packet.Fits) :
    readHandshake base64 json (some (.ok (48 :: encodeUtf8 (json.toString packet.fields).toList))) = .ok packet := by
  simp only [readHandshake,tryFrom_open,HandshakePacket.tryFrom_fields hf h]

theorem readHandshake_broken (hf : json.Faithful packet.fields) {part : Bytes}
    (hpart : part <+: 48 :: encodeUtf8 (json.toString packet.fields).toList)
    (hne : part ≠ 48 :: encodeUtf8 (json.toString packet.fields).toList) :
    ∃ e, readHandshake base64 json (some (.ok part)) = .error e := by
  cases part with
  | nil => exact ⟨_,rfl⟩
  | cons first data =>
    obtain ⟨rfl,hdata⟩ := List.cons_prefix_cons.mp hpart
    obtain ⟨e,he⟩ := hf.broken data hdata (fun h => hne (by rw [h]))
    exact ⟨.invalidJson e,by simp only [readHandshake,tryFrom_open,HandshakePacket.tryFrom,he]⟩

theorem encodeUtf8_handshakeBody (json : StructJson) (option : ServerOption) (sid : String) :
    encodeUtf8 (handshakeBody json option sid) =
      48 :: encodeUtf8 (json.toString (handshakePacket option ["websocket"] sid).fields).toList := by
  have hdigits : encodeUtf8 (digits PacketType.open_.toU8.toNat) = [48] := by decide +kernel
  rw [handshakeBody,encodeUtf8_append,hdigits]
  rfl

theorem receive_handshakeMessage (base64 : Base64Crate) (json : StructJson) (option : ServerOption) (sid : String) :
    WebsocketTransport.receive (.ok (handshakeMessage base64 json option sid)) =
      some (.ok (48 :: encodeUtf8 (json.toString (handshakePacket option [] sid).fields).toList)) := by
  have htype : PacketType.open_.toBytes = [48] := by decide +kernel
  rw [handshakeMessage,Packet.toBytes_text base64 (by exact nofun),htype]
  rfl

end RoundTrip

/-- On a websocket the client reads the session and the options that the server has announced. Of the answer to its
first GET it reads only the first chunk: it gets them if that is the whole body, and an error otherwise. -/
theorem handshake_fidelity (base64 : Base64Crate) (json : StructJson) (option : ServerOption) (sid : String)
    (chunks : List Bytes) (later : List (Except String (List (Except String Bytes))))
    (hfits : (handshakePacket option [] sid).Fits)
    (hwebsocket : json.Faithful (handshakePacket option [] sid).fields)
    (hpolling : json.Faithful (handshakePacket option ["websocket"] sid).fields)
    (hbody : chunks.flatten = encodeUtf8 (handshakeBody json option sid)) :
    readHandshake base64 json (WebsocketTransport.receive (.ok (handshakeMessage base64 json option sid))) =
        .ok (handshakePacket option [] sid) ∧
    (chunks.head? = some (encodeUtf8 (handshakeBody json option sid)) →
      readHandshake base64 json (ClientPollingTransport.stream (.ok (chunks.map .ok) :: later)).head? =
        .ok (handshakePacket option ["websocket"] sid)) ∧
    (chunks.head? ≠ some (encodeUtf8 (handshakeBody json option sid)) →
      ∃ e, readHandshake base64 json (ClientPollingTransport.stream (.ok (chunks.map .ok) :: later)).head? =
        .error e) := by
  refine ⟨?_,?_⟩
  · rw [receive_handshakeMessage]
    exact readHandshake_open hwebsocket hfits
  rw [encodeUtf8_handshakeBody] at hbody ⊢
  cases chunks with
  | nil => cases hbody
  | cons first rest =>
    have hhead : (ClientPollingTransport.stream (.ok ((first :: rest).map .ok) :: later)).head? = some (.ok first) := by
      simp [ClientPollingTransport.stream,Except.mapError,TryStream.yieldFrom]
    rw [hhead,List.head?_cons]
    constructor
    · intro hfirst
      rw [Option.some.inj hfirst]
      exact readHandshake_open hpolling hfits
    · intro hfirst
      have hpart : first <+: 48 :: encodeUtf8
          (json.toString (handshakePacket option ["websocket"] sid).fields).toList :=
        hbody ▸ List.prefix_append first rest.flatten
      exact readHandshake_broken hpolling hpart (fun h => hfirst (congrArg some h))

def sampleDocument (upgrades : String) : String :=
  "\x7b\"sid\":\"c2lk\",\"upgrades\":" ++ upgrades ++
    ",\"pingInterval\":20000,\"pingTimeout\":25000,\"maxPayload\":102400\x7d"

def sampleFields (upgrades : List String) : List (String × JsonValue) :=
  (handshakePacket default upgrades "c2lk").fields

def sampleSlice (bytes : Bytes) : Except String JsonDocument :=
  if bytes = encodeUtf8 (sampleDocument "[]").toList then .ok (.object (sampleFields []))
  else if bytes = encodeUtf8 (sampleDocument "[\"websocket\"]").toList then .ok (.object (sampleFields ["websocket"]))
  else .error "EOF while parsing an object"

def sampleJson : StructJson where
  toString
    | _ :: (_,.array []) :: _ => sampleDocument "[]"
    | _ => sampleDocument "[\"websocket\"]"
  fromSlice := sampleSlice

theorem sampleDocument_ne : encodeUtf8 (sampleDocument "[\"websocket\"]").toList ≠
    encodeUtf8 (sampleDocument "[]").toList := by decide +kernel

theorem sampleSlice_error {bytes : Bytes} (hwebsocket : bytes ≠ encodeUtf8 (sampleDocument "[]").toList)
    (hpolling : bytes ≠ encodeUtf8 (sampleDocument "[\"websocket\"]").toList) :
    sampleSlice bytes = .error "EOF while parsing an object" := by
  simp only [sampleSlice,hwebsocket,hpolling,↓reduceIte]

theorem sampleJson_websocket : sampleJson.Faithful (sampleFields []) where
  whole := by
    change sampleSlice (encodeUtf8 (sampleDocument "[]").toList) = _
    simp only [sampleSlice,↓reduceIte]
  broken part hpart hne := by
    refine ⟨_,sampleSlice_error hne ?_⟩
    rintro rfl
    exact absurd hpart (by decide +kernel)

theorem sampleJson_polling : sampleJson.Faithful (sampleFields ["websocket"]) where
  whole := by
    change sampleSlice (encodeUtf8 (sampleDocument "[\"websocket\"]").toList) = _
    simp only [sampleSlice,sampleDocument_ne,↓reduceIte]
  broken part hpart hne := by
    refine ⟨_,sampleSlice_error ?_ hne⟩
    rintro rfl
    exact absurd hpart (by decide +kernel)

theorem handshake_fidelity_cut :
    ∃ e, readHandshake rfc4648 sampleJson
      (ClientPollingTransport.stream [.ok ([[48],encodeUtf8 (sampleDocument "[\"websocket\"]").toList].map .ok)]).head? =
        .error e :=
  (handshake_fidelity rfc4648 sampleJson default "c2lk" [[48],encodeUtf8 (sampleDocument "[\"websocket\"]").toList] []
    (by decide) sampleJson_websocket sampleJson_polling (by decide +kernel)).2.2 (by decide +kernel)

end SocketIox.EngineIo
