import SocketIox.SocketIo.Reassembly

/-! # End-to-end fidelity of events and acks

Encoding numbers the binary parts in order, so that each placeholder finds its own
attachment again. Composed with the packet codec and the reassembly, the receiver
dispatches the event and the payload that were given to the sender.
-/
namespace SocketIox.SocketIo
open Wire

theorem Event.fromString_toString (s : String) : Event.fromString (Event.fromString s).toString = Event.fromString s := by
  by_cases hm : toLowercase s = "message"
  · have he : Event.fromString s = .message := by simp [Event.fromString,hm]
    rw [he]
    decide
  · by_cases he : toLowercase s = "error"
    · have hf : Event.fromString s = .error := by simp [Event.fromString,he]
      rw [hf]
      decide
    · by_cases ho : toLowercase s = "open"
      · have hf : Event.fromString s = .connect := by simp [Event.fromString,ho]
        rw [hf]
        decide
      · by_cases hc : toLowercase s = "close"
        · have hf : Event.fromString s = .close := by simp [Event.fromString,hc]
          rw [hf]
          decide
        · have hf : Event.fromString s = .custom s := by simp [Event.fromString,hm,he,ho,hc]
          rw [hf,Event.toString,hf]

section Parts

def Payload.parts : Payload → List RawPayload
  | .binary bin => [.binary bin]
  | .json value => [.json value]
  | .multi payloads => payloads

def RawPayload.bin : RawPayload → Option Bytes
  | .binary bin => some bin
  | .json _ => none

def binaries (parts : List RawPayload) : List Bytes := parts.filterMap RawPayload.bin

@[simp] theorem binaries_nil : binaries [] = [] := rfl

@[simp] theorem binaries_binary (bin : Bytes) (parts : List RawPayload) :
    binaries (.binary bin :: parts) = bin :: binaries parts := rfl

@[simp] theorem binaries_json (value : Value) (parts : List RawPayload) :
    binaries (.json value :: parts) = binaries parts := rfl

/-- The data array of some parts, the placeholders numbered from `k` on. -/
def values : ℕ → List RawPayload → List Value
  | _, [] => []
  | k, .binary _ :: parts => binaryPlaceHolder k :: values (k+1) parts
  | k, .json value :: parts => value :: values k parts

/-- A payload with one part is that part. -/
def Payload.normal (payload : Payload) : Payload :=
  match payload.parts with
  | [part] => part.toPayload
  | parts => .multi parts

/-- A binary payload has no JSON part that reads as a placeholder. -/
def Payload.Unmistakable (payload : Payload) : Prop :=
  binaries payload.parts ≠ [] → ∀ v, .json v ∈ payload.parts → v.get "_placeholder" = none

theorem processPayload_eq (draft : Draft) (payload : Payload) :
    processPayload draft payload = payload.parts.foldl processRaw draft := by
  cases payload <;> rfl

theorem foldl_processRaw (parts : List RawPayload) (data : List Value) (attachments : List Bytes) :
    parts.foldl processRaw (data,attachments) =
      (data ++ values attachments.length parts,attachments ++ binaries parts) := by
  induction parts generalizing data attachments with
  | nil => simp [values]
  | cons part parts ih =>
    cases part with
    | binary bin => simp [processRaw,processBinary,ih,values]
    | json value => simp [processRaw,ih,values]

theorem encodeData_eq (event : Option Event) (payload : Payload) :
    encodeData event payload =
      (.array ((event.map (fun e => .string e.toString)).toList ++ values 0 payload.parts),
        binaries payload.parts) := by
  cases event <;> simp [encodeData,processPayload_eq,foldl_processRaw]

theorem decode_binaryPlaceHolder {k : ℕ} (hk : k < 2^64) {attachments : List Bytes} {bin : Bytes}
    (h : attachments[k]? = some bin) :
    decodeBinaryPart (some attachments) (binaryPlaceHolder k) = .ok (.binary bin) := by
  have hn : (UInt64.ofNat k).toNat = k := UInt64.toNat_ofNat_of_lt' hk
  have hp : (binaryPlaceHolder k).get "_placeholder" = some (.bool true) := rfl
  have hi : ((binaryPlaceHolder k).get "num").bind Value.asU64 = some (UInt64.ofNat k) := rfl
  simp only [decodeBinaryPart,hp,hi,Option.isSome_some,↓reduceIte,hn,h]

theorem mapM_values (parts : List RawPayload) (before : List Bytes)
    (hlen : before.length+(binaries parts).length < 2^64)
    (hjson : ∀ v, .json v ∈ parts → v.get "_placeholder" = none) :
    (values before.length parts).mapM (decodeBinaryPart (some (before ++ binaries parts))) = .ok parts := by
  induction parts generalizing before with
  | nil => rfl
  | cons part parts ih =>
    have htail : ∀ v, .json v ∈ parts → v.get "_placeholder" = none :=
      fun v hv => hjson v (List.mem_cons_of_mem _ hv)
    cases part with
    | binary bin =>
      rw [binaries_binary,List.length_cons] at hlen
      have hget : (before ++ bin :: binaries parts)[before.length]? = some bin := by simp
      have hfirst := decode_binaryPlaceHolder (by omega) hget
      have hrest := ih (before ++ [bin]) (by rw [List.length_append,List.length_singleton]; omega) htail
      rw [List.length_append,List.length_singleton,List.append_assoc,List.singleton_append] at hrest
      simp only [values,binaries_binary,List.mapM_cons,hfirst,bind,Except.bind,hrest,pure,Except.pure]
    | json value =>
      have hv := hjson value List.mem_cons_self
      have hrest := ih before hlen htail
      have hfirst : decodeBinaryPart (some (before ++ binaries parts)) value = .ok (.json value) := by
        simp [decodeBinaryPart,hv]
      simp only [values,binaries_json,List.mapM_cons,hfirst,bind,Except.bind,hrest,pure,Except.pure]

theorem exists_json {parts : List RawPayload} (h : binaries parts = []) (k : ℕ) :
    ∃ vs, parts = vs.map .json ∧ values k parts = vs := by
  induction parts with
  | nil => exact ⟨[],rfl,rfl⟩
  | cons part parts ih =>
    cases part with
    | binary bin => simp at h
    | json value =>
      obtain ⟨vs,hparts,hvalues⟩ := ih h
      refine ⟨value :: vs,?_,?_⟩
      · rw [hparts,List.map_cons]
      · rw [values,hvalues]

theorem nonEmpty_values {parts : List RawPayload} (h : parts ≠ []) (k : ℕ) :
    (Value.array (values k parts)).nonEmpty = some (.array (values k parts)) := by
  cases parts with
  | nil => exact absurd rfl h
  | cons part parts => cases part <;> rfl

end Parts

section Build
variable {json : SerdeJson} {payload : Payload} {event : Option Event} {nsp : String}

theorem buildPacketForPayload_outgoing (id : Option UInt64) (isAck : Bool) :
    (buildPacketForPayload payload event nsp id isAck).outgoing = binaries payload.parts := by
  simp [buildPacketForPayload,Packet.outgoing,encodeData_eq]

theorem buildPacketForPayload_isBinary (id : Option UInt64) (isAck : Bool) :
    (buildPacketForPayload payload event nsp id isAck).ptype.isBinary = !(binaries payload.parts).isEmpty := by
  simp only [buildPacketForPayload,encodeData_eq]
  cases (binaries payload.parts).isEmpty <;> cases isAck <;> rfl

theorem buildPacketForPayload_sendable (hn : ValidNsp nsp) (hcount : (binaries payload.parts).length ≤ 255)
    (hjson : json.Faithful (encodeData event payload).1) (id : Option UInt64) (isAck : Bool) :
    (buildPacketForPayload payload event nsp id isAck).Sendable json where
  nsp := hn
  count := by
    rw [buildPacketForPayload_outgoing]
    have h := UInt8.toNat_ofNat_of_lt' (show (binaries payload.parts).length < 2^8 by omega)
    rw [← h]
    simp only [buildPacketForPayload,encodeData_eq]
  binary := by
    intro hb
    rw [buildPacketForPayload_isBinary] at hb
    have hnil : binaries payload.parts = [] := by simpa using hb
    simp [buildPacketForPayload,encodeData_eq,hnil]
  encodable := by
    right
    refine ⟨(encodeData event payload).1,rfl,?_,hjson⟩
    rw [encodeData_eq]
    exact fun h => h

end Build

section Decode
variable {payload : Payload}

theorem decodeBinary_values (hcount : (binaries payload.parts).length ≤ 255) (hp : payload.Unmistakable)
    (hb : binaries payload.parts ≠ []) {vec : List Value} {skipEvent : Bool}
    (hvec : (if skipEvent then vec.tail else vec) = values 0 payload.parts) :
    decodeBinary vec (some (binaries payload.parts)) skipEvent = .ok payload.normal := by
  have hm := mapM_values payload.parts [] (by rw [List.length_nil]; omega) (hp hb)
  rw [List.length_nil,List.nil_append] at hm
  unfold decodeBinary Payload.normal
  rw [hvec,hm]
  rcases payload.parts with _ | ⟨part,_ | ⟨part',parts⟩⟩ <;> rfl

theorem decodeEventPayload_event {p : Packet} {first : Value} (hb : binaries payload.parts = [])
    (hparts : payload.parts ≠ []) (hd : p.data = some (.array (first :: values 0 payload.parts))) :
    decodeEventPayload p true = some payload.normal := by
  obtain ⟨vs,hvs,hvalues⟩ := exists_json hb 0
  unfold decodeEventPayload Payload.normal
  rw [hd,hvalues,hvs]
  rcases vs with _ | ⟨v,_ | ⟨v',vs⟩⟩
  · exact absurd hvs hparts
  · rfl
  · rfl

theorem decodeEventPayload_ack {p : Packet} (hb : binaries payload.parts = [])
    (hd : p.data = (Value.array (values 0 payload.parts)).nonEmpty) :
    decodeEventPayload p false = if payload.parts = [] then none else some payload.normal := by
  obtain ⟨vs,hvs,hvalues⟩ := exists_json hb 0
  unfold decodeEventPayload Payload.normal
  rw [hd,hvalues,hvs]
  rcases vs with _ | ⟨v,_ | ⟨v',_ | ⟨v'',vs⟩⟩⟩ <;> rfl

end Decode

section EndToEnd
variable {json : SerdeJson} {payload : Payload} {nsp : String}

/-- What was put out for a packet, followed by `rest`, as the peer reassembles it. -/
def received (json : SerdeJson) (packet : Packet) (rest : List EngineItem) : Outcome Packet :=
  match (packet.sendCall json).packets with
  | [] => .panicked
  | first :: others => handleEngineioPacket json first (others.map .ok ++ rest)

theorem received_of_sendable {packet : Packet} (hs : packet.Sendable json) (rest : List EngineItem) :
    received json packet rest = .done packet.arrived rest := by
  unfold received
  rw [Packet.sendCall_packets]
  exact handleEngineioPacket_group hs rest

theorem arrived_text (event : Option Event) (id : Option UInt64) (isAck : Bool)
    (hb : binaries payload.parts = []) :
    (buildPacketForPayload payload event nsp id isAck).arrived =
      ⟨if isAck then .ack else .event,nsp,(encodeData event payload).1.nonEmpty,id,0,none⟩ := by
  cases isAck <;>
    simp [Packet.arrived,buildPacketForPayload,Packet.outgoing,encodeData_eq,hb]

theorem arrived_binary (event : Option Event) (id : Option UInt64) (isAck : Bool)
    (hb : binaries payload.parts ≠ []) :
    (buildPacketForPayload payload event nsp id isAck).arrived =
      ⟨if isAck then .binaryAck else .binaryEvent,nsp,(encodeData event payload).1.nonEmpty,id,
        UInt8.ofNat (binaries payload.parts).length,some (binaries payload.parts)⟩ := by
  obtain ⟨bin,bins,hbins⟩ := List.exists_cons_of_ne_nil hb
  cases isAck <;>
    simp [Packet.arrived,buildPacketForPayload,Packet.outgoing,encodeData_eq,hbins]

theorem eventArm_arrived (s : String) (id : Option UInt64) (hcount : (binaries payload.parts).length ≤ 255)
    (hp : payload.Unmistakable) (hparts : payload.parts ≠ []) :
    (buildPacketForPayload payload (some (Event.fromString s)) nsp id false).arrived.eventArm =
      some ⟨Event.fromString s,some payload.normal,id⟩ := by
  have hevent := Event.fromString_toString s
  have hdata : (encodeData (some (Event.fromString s)) payload).1.nonEmpty =
      some (.array (.string (Event.fromString s).toString :: values 0 payload.parts)) := by
    rw [encodeData_eq]
    rfl
  by_cases hb : binaries payload.parts = []
  · obtain ⟨vs,hvs,hvalues⟩ := exists_json hb 0
    rw [arrived_text _ _ _ hb,hdata]
    have hd := decodeEventPayload_event (p := ⟨.event,nsp,
      some (.array (.string (Event.fromString s).toString :: values 0 payload.parts)),id,0,none⟩) hb hparts rfl
    rw [hvalues] at hd ⊢
    cases vs with
    | nil => exact absurd hvs hparts
    | cons v vs => simp [Packet.eventArm,handleEvent,hevent,hd]
  · have hd := decodeBinary_values hcount hp hb (show (if true then
      (.string (Event.fromString s).toString :: values 0 payload.parts : List Value).tail else _) = _ from rfl)
    rw [arrived_binary _ _ _ hb,hdata]
    simp [Packet.eventArm,handleBinaryEvent,decodeBinaryPayload,hevent,hd]

theorem ackArm_arrived (id : Option UInt64) (hcount : (binaries payload.parts).length ≤ 255)
    (hp : payload.Unmistakable) :
    (buildPacketForPayload payload none nsp id true).arrived.ackArm =
      some (id,if payload.parts = [] then none else some payload.normal) := by
  have hdata : (encodeData none payload).1 = .array (values 0 payload.parts) := by
    rw [encodeData_eq]
    rfl
  by_cases hb : binaries payload.parts = []
  · rw [arrived_text _ _ _ hb,hdata]
    have hd := decodeEventPayload_ack
      (p := ⟨.ack,nsp,(Value.array (values 0 payload.parts)).nonEmpty,id,0,none⟩) hb rfl
    simp [Packet.ackArm,ackPayload,hd]
  · have hparts : payload.parts ≠ [] := fun h => hb (by rw [h]; rfl)
    have hd := decodeBinary_values hcount hp hb
      (show (if false then List.tail _ else values 0 payload.parts) = _ from rfl)
    rw [arrived_binary _ _ _ hb,hdata]
    simp [Packet.ackArm,ackPayload,decodeBinaryPayload,nonEmpty_values hparts,hd,hparts]

/-- Event, id and payload arrive as they were given to the sender, for events and for acks. -/
theorem message_fidelity (json : SerdeJson) (payload : Payload) (nsp : String) (id : Option UInt64)
    (rest : List EngineItem) (hn : ValidNsp nsp) (hcount : (binaries payload.parts).length ≤ 255)
    (hp : payload.Unmistakable) :
    (∀ s, payload.parts ≠ [] → json.Faithful (encodeData (some (Event.fromString s)) payload).1 →
      ∃ p, received json (buildPacketForPayload payload (some (Event.fromString s)) nsp id false) rest =
          .done p rest ∧
        p.eventArm = some ⟨Event.fromString s,some payload.normal,id⟩) ∧
    (json.Faithful (encodeData none payload).1 →
      ∃ p, received json (buildPacketForPayload payload none nsp id true) rest = .done p rest ∧
        p.ackArm = some (id,if payload.parts = [] then none else some payload.normal)) := by
  constructor
  · intro s hparts hjson
    have hs := buildPacketForPayload_sendable hn hcount hjson id false
    exact ⟨_,received_of_sendable hs rest,eventArm_arrived s id hcount hp hparts⟩
  · intro hjson
    have hs := buildPacketForPayload_sendable hn hcount hjson id true
    exact ⟨_,received_of_sendable hs rest,ackArm_arrived id hcount hp⟩

theorem message_fidelity_mixed :
    (∃ p, received (sampleJson [.array [.string "foo",binaryPlaceHolder 0,.number (.posInt 3)]])
          (buildPacketForPayload (.multi [.binary [1,0x1e],.json (.number (.posInt 3))])
            (some (Event.fromString "foo")) "/admin" (some 7) false) [] = .done p [] ∧
        p.eventArm = some ⟨Event.fromString "foo",
          some (.multi [.binary [1,0x1e],.json (.number (.posInt 3))]),some 7⟩) ∧
    (∃ p, received (sampleJson [.array [binaryPlaceHolder 0,.number (.posInt 3)]])
          (buildPacketForPayload (.multi [.binary [1,0x1e],.json (.number (.posInt 3))])
            none "/" (some 7) true) [] = .done p [] ∧
        p.ackArm = some (some 7,some (.multi [.binary [1,0x1e],.json (.number (.posInt 3))]))) := by
  have hp : (Payload.multi [.binary [1,0x1e],.json (.number (.posInt 3))]).Unmistakable := by
    intro _ v hv
    simp only [Payload.parts,List.mem_cons,reduceCtorEq,false_or,RawPayload.json.injEq,
      List.not_mem_nil,or_false] at hv
    rw [hv]
    rfl
  refine ⟨?_,?_⟩
  · apply (message_fidelity _ _ "/admin" (some 7) [] ⟨by decide,by decide⟩ (by decide) hp).1 "foo" (by decide)
    exact sampleJson_faithful _
  · apply (message_fidelity _ _ "/" (some 7) [] ⟨by decide,by decide⟩ (by decide) hp).2
    exact sampleJson_faithful _

end EndToEnd

end SocketIox.SocketIo
