import SocketIox.SocketIo.PacketCodec
import SocketIox.SocketIo.RawSocket

/-! # Groups of engine packets

A packet that can be sent is its header followed by as many messages as the header
counts. The receiver takes precisely this group from its engine stream.
-/
namespace SocketIox.SocketIo
open Wire

section Stream
variable {json : SerdeJson} {m : EngineIo.Packet}

theorem stream_skip (h : isMessage m.ptype = false) (client : List EngineItem) :
    RawSocket.stream json (.ok m :: client) = RawSocket.stream json client := by
  rw [RawSocket.stream]
  simp [h]

theorem stream_message (h : isMessage m.ptype = true) (client : List EngineItem) :
    RawSocket.stream json (.ok m :: client) =
      match handleEngineioPacket json m client with
      | .done result rest => (RawSocket.stream json rest).cons (.ok result)
      | .failed e _ => ⟨[.error e],false⟩
      | .panicked => ⟨[],true⟩ := by
  rw [RawSocket.stream]
  simp only [h,↓reduceIte]
  split <;> rename_i heq <;> rw [heq]

end Stream

theorem takeAttachments_append {messages : List EngineIo.Packet}
    (hm : ∀ m ∈ messages, isMessage m.ptype = true) (acc : List Bytes) (rest : List EngineItem) :
    takeAttachments messages.length acc (messages.map .ok ++ rest) =
      .done (acc ++ messages.map (·.data)) rest := by
  induction messages generalizing acc with
  | nil => simp [takeAttachments]
  | cons m messages ih =>
    have hr := ih (fun m' h' => hm m' (List.mem_cons_of_mem _ h')) (acc ++ [m.data])
    simp only [List.length_cons,List.map_cons,List.cons_append,takeAttachments,
      hm m List.mem_cons_self,↓reduceIte,hr,List.append_assoc,List.nil_append]

namespace Packet
variable (json : SerdeJson) (packet : Packet)

def outgoing : List Bytes := packet.attachments.getD []

def attachmentPackets : List EngineIo.Packet := packet.outgoing.map (fun a => ⟨.messageBinary,a⟩)

/-- The header counts the attachments, and the text format can carry the rest. -/
structure Sendable : Prop where
  nsp : ValidNsp packet.nsp
  count : packet.attachmentCount.toNat = packet.outgoing.length
  binary : packet.ptype.isBinary = false → packet.attachmentCount = 0
  encodable : packet.Encodable json

/-- A sent packet as the receiver reports it. -/
def arrived : Packet :=
  { packet with
    data := packet.data.bind Value.nonEmpty
    attachments := if packet.outgoing = [] then none else some packet.outgoing }

theorem sendCall_packets :
    (packet.sendCall json).packets = packet.header json :: packet.attachmentPackets := by
  unfold sendCall attachmentPackets outgoing
  cases packet.attachments with
  | none => rfl
  | some attachments =>
    cases attachments with
    | nil => rfl
    | cons a rest => rfl

theorem attachmentPackets_isMessage : ∀ m ∈ packet.attachmentPackets, isMessage m.ptype = true := by
  intro m hm
  obtain ⟨a,-,rfl⟩ := List.mem_map.mp hm
  rfl

theorem attachmentPackets_data : packet.attachmentPackets.map (·.data) = packet.outgoing := by
  simp [attachmentPackets,Function.comp_def]

end Packet

/-- The receiver takes the whole group of a packet and nothing more. -/
theorem handleEngineioPacket_group {json : SerdeJson} {packet : Packet} (hs : packet.Sendable json)
    (rest : List EngineItem) :
    handleEngineioPacket json (packet.header json) (packet.attachmentPackets.map .ok ++ rest) =
      .done packet.arrived rest := by
  have hdecode := tryFrom_toBytes_eq hs.nsp hs.binary hs.encodable
  have hlength : packet.attachmentPackets.length = packet.attachmentCount.toNat := by
    rw [hs.count,Packet.attachmentPackets,List.length_map]
  have htake := takeAttachments_append packet.attachmentPackets_isMessage [] rest
  rw [hlength,List.nil_append,Packet.attachmentPackets_data] at htake
  unfold handleEngineioPacket Packet.header
  simp only [hdecode,htake]
  by_cases hz : packet.attachmentCount = 0
  · have hnil : packet.outgoing = [] := by
      apply List.length_eq_zero_iff.mp
      rw [← hs.count,hz]
      rfl
    have hmap : packet.attachmentPackets = [] := by simp [Packet.attachmentPackets,hnil]
    simp [hz,hmap,Packet.arrived,hnil]
  · have hcons : packet.outgoing ≠ [] := by
      intro hnil
      apply hz
      apply UInt8.toNat_inj.mp
      rw [hs.count,hnil]
      rfl
    simp [hz,Packet.arrived,hcons]

end SocketIox.SocketIo
