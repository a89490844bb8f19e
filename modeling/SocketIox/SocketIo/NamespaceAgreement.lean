import SocketIox.SocketIo.MessageFidelity
import SocketIox.SocketIo.PacketFields
import SocketIox.SocketIo.PollPacket
import SocketIox.SocketIo.Registration

/-! # The namespaces of client and server

The builder of a client puts a slash in front of a namespace that has none, the encoder
leaves the default namespace out and the decoder puts it back. The builder of a server
takes the name as it is, so that no client finds the handlers of a name without a slash.
-/
namespace SocketIox.SocketIo
open Store

def ClientBuilder.nameSpace (nsp : NameSpace) : NameSpace :=
  if nsp.toList.head? = some '/' then nsp else "/" ++ nsp

/-- The packets that a socket sends in its namespace. -/
inductive Socket.Sends (nsp : NameSpace) : Packet → Prop where
  | connect : Sends nsp ⟨.connect,nsp,none,none,0,none⟩
  | disconnect : Sends nsp ⟨.disconnect,nsp,none,none,0,none⟩
  | handshake (sid : Sid) : Sends nsp ⟨.connect,nsp,some (.object [("sid",.string sid)]),none,0,none⟩
  | emit (event : Event) (payload : Payload) : Sends nsp (buildPacketForPayload payload (some event) nsp none false)
  | emitWithAck (event : Event) (payload : Payload) (id : UInt64) :
      Sends nsp (buildPacketForPayload payload (some event) nsp (some id) false)
  | ack (id : UInt64) (payload : Payload) : Sends nsp (buildPacketForPayload payload none nsp (some id) true)

section Sends
variable {json : SerdeJson} {nsp : NameSpace} {packet : Packet}

theorem Socket.Sends.nsp_eq (h : Socket.Sends nsp packet) : packet.nsp = nsp := by
  cases h <;> rfl

theorem buildPacketForPayload_count {payload : Payload} {event : Option Event} {id : Option UInt64} {isAck : Bool}
    (h : (buildPacketForPayload payload event nsp id isAck).ptype.isBinary = false) :
    (buildPacketForPayload payload event nsp id isAck).attachmentCount = 0 := by
  rw [buildPacketForPayload_isBinary] at h
  have hnil : binaries payload.parts = [] := by simpa using h
  simp [buildPacketForPayload,encodeData_eq,hnil]

theorem Socket.Sends.count (h : Socket.Sends nsp packet) :
    packet.ptype.isBinary = false → packet.attachmentCount = 0 := by
  cases h with
  | connect | disconnect | handshake => exact fun _ => rfl
  | emit | emitWithAck | ack => exact buildPacketForPayload_count

theorem buildPacketForPayload_data (payload : Payload) (event : Option Event) (nsp : NameSpace) (id : Option UInt64)
    (isAck : Bool) : ∃ vec, (buildPacketForPayload payload event nsp id isAck).data = some (.array vec) := by
  simp only [buildPacketForPayload,encodeData_eq]
  exact ⟨_,rfl⟩

theorem Socket.Sends.encodable (h : Socket.Sends nsp packet) (hjson : ∀ v, packet.data = some v → json.Faithful v) :
    packet.Encodable json := by
  cases h with
  | connect | disconnect => exact Or.inl ⟨rfl,rfl⟩
  | handshake => exact Or.inr ⟨_,rfl,id,hjson _ rfl⟩
  | emit event payload =>
    obtain ⟨vec,hvec⟩ := buildPacketForPayload_data payload (some event) nsp none false
    exact Or.inr ⟨_,hvec,id,hjson _ hvec⟩
  | emitWithAck event payload i =>
    obtain ⟨vec,hvec⟩ := buildPacketForPayload_data payload (some event) nsp (some i) false
    exact Or.inr ⟨_,hvec,id,hjson _ hvec⟩
  | ack i payload =>
    obtain ⟨vec,hvec⟩ := buildPacketForPayload_data payload none nsp (some i) true
    exact Or.inr ⟨_,hvec,id,hjson _ hvec⟩

theorem Socket.Sends.arrives (hn : ValidNsp nsp) (h : Socket.Sends nsp packet)
    (hjson : ∀ v, packet.data = some v → json.Faithful v) :
    ∃ arrived, Packet.tryFrom json (packet.toBytes json) = .ok arrived ∧
      arrived.ptype = packet.ptype ∧ arrived.nsp = nsp :=
  ⟨_,tryFrom_toBytes_eq (h.nsp_eq.symm ▸ hn) h.count (h.encodable hjson),rfl,h.nsp_eq⟩

end Sends

section Names
variable {nsp : NameSpace}

theorem nameSpace_of_slash (h : nsp.toList.head? = some '/') : ClientBuilder.nameSpace nsp = nsp := if_pos h

theorem nameSpace_ne (h : nsp.toList.head? ≠ some '/') : ClientBuilder.nameSpace nsp ≠ nsp := by
  intro he
  have hhead : (ClientBuilder.nameSpace nsp).toList.head? = some '/' := by
    rw [ClientBuilder.nameSpace,if_neg h,String.toList_append]
    rfl
  rw [he] at hhead
  exact h hhead

theorem validNsp_nameSpace (h : ',' ∉ nsp.toList) : ValidNsp (ClientBuilder.nameSpace nsp) := by
  unfold ClientBuilder.nameSpace
  split
  · rename_i hslash
    exact ⟨hslash,h⟩
  · constructor
    · rw [String.toList_append]
      rfl
    · rw [String.toList_append,List.mem_append]
      rintro (hslash | hmem)
      · exact absurd hslash (by decide)
      · exact h hmem

end Names

/-- A packet that one end sends, as far as the JSON crate reads its data back, passes the comparison of
namespaces of the other end. -/
def Passes (json : SerdeJson) (sender receiver : NameSpace) : Prop :=
  ∀ packet, Socket.Sends sender packet → (∀ v, packet.data = some v → json.Faithful v) →
    ∃ arrived, Packet.tryFrom json (packet.toBytes json) = .ok arrived ∧ isOwn receiver (.ok arrived) = true

/-- `insert_clients` finds the callbacks that were given for `given` when it looks for `nsp`, and enters
the client. -/
def Registers (calls : List ((NameSpace × Event) × ℕ)) (given nsp : NameSpace) : Prop :=
  (∃ callbacks, (ServerBuilder.build calls).lookup nsp = some callbacks ∧
    ∀ event, callbacks.lookup event = lastValue (given,event) calls) ∧
  ∀ (server : Server) (socket : ℕ) (esid : EngineSid) (sid : Sid), server.on = (ServerBuilder.build calls).keys →
    (server.insertClients socket nsp esid sid).clients.get esid sid nsp = some ⟨socket,nsp,sid⟩

/-- The Connect packet of a client built for `given` is decoded, its namespace is that of the callbacks
for `given`, and later packets are taken by the other end, both ways. -/
def Agrees (json : SerdeJson) (calls : List ((NameSpace × Event) × ℕ)) (given : NameSpace) : Prop :=
  ∃ packet, Packet.tryFrom json
      (Packet.toBytes json ⟨.connect,ClientBuilder.nameSpace given,none,none,0,none⟩) = .ok packet ∧
    packet.ptype = .connect ∧ Registers calls given packet.nsp ∧
    Passes json (ClientBuilder.nameSpace given) packet.nsp ∧ Passes json packet.nsp (ClientBuilder.nameSpace given)

section Agreement
variable {json : SerdeJson} {chain : List (NameSpace × Event)} {given nsp : NameSpace}

theorem passes_self (hn : ValidNsp nsp) : Passes json nsp nsp := by
  intro packet hsends hjson
  obtain ⟨arrived,harrived,-,hnsp⟩ := hsends.arrives hn hjson
  exact ⟨arrived,harrived,decide_eq_true hnsp⟩

theorem connect_arrives (json : SerdeJson) (hn : ValidNsp nsp) : ∃ packet,
    Packet.tryFrom json (Packet.toBytes json ⟨.connect,nsp,none,none,0,none⟩) = .ok packet ∧
      packet.ptype = .connect ∧ packet.nsp = nsp :=
  Socket.Sends.connect.arrives hn (fun v hv => by cases hv)

theorem registers_self {event : Event} (h : (nsp,event) ∈ chain) : Registers chain.zipIdx nsp nsp := by
  have hr := ServerBuilder.registered_build chain.zipIdx
  obtain ⟨i,hi⟩ := List.getElem?_of_mem h
  have hmem : nsp ∈ ServerBuilder.build chain.zipIdx :=
    (hr.mem_iff nsp).mpr ⟨((nsp,event),i),List.mem_zipIdx_iff_getElem?.mpr hi,rfl⟩
  constructor
  · obtain ⟨callbacks,hcallbacks⟩ := Option.isSome_iff_exists.mp (AList.lookup_isSome.mpr hmem)
    exact ⟨callbacks,hcallbacks,hr.filled nsp callbacks hcallbacks⟩
  · intro server socket esid sid hon
    have hon : nsp ∈ server.on := by
      rw [hon]
      exact hmem
    rw [Server.insertClients,if_pos hon,Clients.get_put,if_pos ⟨rfl,rfl,rfl⟩]

theorem eq_of_registers {event : Event} (h : (given,event) ∈ chain) (hr : Registers chain.zipIdx given nsp) :
    nsp = given := by
  obtain ⟨⟨callbacks,hcallbacks,hgiven⟩,-⟩ := hr
  obtain ⟨i,hi⟩ := List.getElem?_of_mem h
  obtain ⟨callback,hlast⟩ := exists_lastValue (List.mem_zipIdx_iff_getElem?.mpr hi)
  have hnsp := (ServerBuilder.registered_build chain.zipIdx).filled nsp callbacks hcallbacks event
  rw [hgiven event,hlast] at hnsp
  have hcall := List.mem_zipIdx_iff_getElem?.mp (mem_of_lastValue hlast)
  have hcall' := List.mem_zipIdx_iff_getElem?.mp (mem_of_lastValue hnsp.symm)
  have hpair := Option.some_inj.mp (hcall'.symm.trans hcall)
  exact (Prod.mk.inj hpair).1

theorem Agrees.slash (hcomma : ',' ∉ given.toList) {event : Event} (h : (given,event) ∈ chain)
    (ha : Agrees json chain.zipIdx given) : given.toList.head? = some '/' := by
  obtain ⟨packet,hpacket,-,hregisters,-,-⟩ := ha
  obtain ⟨arrived,harrived,-,hnsp⟩ := connect_arrives json (validNsp_nameSpace hcomma)
  cases hpacket.symm.trans harrived
  by_contra hslash
  exact nameSpace_ne hslash (hnsp.symm.trans (eq_of_registers h hregisters))

theorem agrees_of_slash (hcomma : ',' ∉ given.toList) {event : Event} (h : (given,event) ∈ chain)
    (hslash : given.toList.head? = some '/') : Agrees json chain.zipIdx given := by
  obtain ⟨packet,hpacket,htype,hnsp⟩ := connect_arrives json (validNsp_nameSpace hcomma)
  have hsame := nameSpace_of_slash hslash
  rw [hsame] at hnsp
  refine ⟨packet,hpacket,htype,?_,?_,?_⟩
  · rw [hnsp]
    exact registers_self h
  · rw [hnsp,hsame]
    exact passes_self ⟨hslash,hcomma⟩
  · rw [hnsp,hsame]
    exact passes_self ⟨hslash,hcomma⟩

end Agreement

/-- Client and server agree on a namespace that has handlers exactly if it starts with a slash. -/
theorem namespaces_agree_iff (json : SerdeJson) (chain : List (NameSpace × Event)) (given : NameSpace)
    (hcomma : ',' ∉ given.toList) (hgiven : ∃ event, (given,event) ∈ chain) :
    Agrees json chain.zipIdx given ↔ given.toList.head? = some '/' := by
  obtain ⟨event,hevent⟩ := hgiven
  exact ⟨Agrees.slash hcomma hevent,agrees_of_slash hcomma hevent⟩

theorem namespaces_agree_admin : Agrees sampleDocument [("/admin",.custom "echo"),("/",.connect)].zipIdx "/admin" :=
  (namespaces_agree_iff sampleDocument [("/admin",.custom "echo"),("/",.connect)] "/admin" (by decide)
    ⟨.custom "echo",by decide⟩).mpr rfl

/-- The handlers for `admin` are not found by a client that was built for `admin`. -/
theorem namespaces_disagree :
    ClientBuilder.nameSpace "admin" = "/admin" ∧
    (ServerBuilder.build [("admin",.custom "echo")].zipIdx).lookup "/admin" = none ∧
    ¬ Agrees sampleDocument [("admin",.custom "echo")].zipIdx "admin" := by
  refine ⟨by decide,by decide,?_⟩
  intro h
  have hslash := h.slash (by decide) List.mem_cons_self
  exact absurd hslash (by decide)

end SocketIox.SocketIo
