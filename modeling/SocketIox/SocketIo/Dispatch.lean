import SocketIox.SocketIo.GroupDelivery
import SocketIox.SocketIo.PollPacket
import SocketIox.SocketIo.Server

/-! # Handling the packets of a socket

`poll_packet` skips the packets of other namespaces and hands those of its own to
`handle_socketio_packet`, which calls back, looks for acks, and keeps the flag that emits
and acks check. What other namespaces send over the same connection leaves no trace,
wherever their groups stand between those of the socket.
-/
namespace SocketIox.SocketIo
open Wire

abbrev RawItem := Except Error Packet

/-- The `Display` of an error and the `Debug` of the data of a packet. -/
structure Texts where
  error : Error → String
  debug : Option Value → String

/-- `spawned` are the calls of `callback`, `acked` the ids and payloads that `handle_ack` was given. -/
structure Endpoint where
  nsp : NameSpace
  isConnected : Bool
  spawned : List Dispatch
  acked : List (Option UInt64 × Option Payload)

namespace Endpoint

def new (nsp : NameSpace) : Endpoint := ⟨nsp,true,[],[]⟩

def callback (s : Endpoint) (event : Event) (payload : Option Payload) (needAck : Option UInt64) : Endpoint :=
  { s with spawned := s.spawned ++ [⟨event,payload,needAck⟩] }

/-- `From<Option<Value>> for Payload`. -/
def connectPayload (data : Option Value) : Payload := .json (data.getD .null)

def handleConnect (s : Endpoint) (packet : Option Packet) : Endpoint :=
  { s with isConnected := true }.callback .connect (packet.map (fun p : Packet => connectPayload p.data)) none

section Handle
variable (texts : Texts)

/-- The handlers of events and acks do not fail, so that the branches for their errors are not taken. -/
def handleSocketioPacket (s : Endpoint) (packet : Packet) : Endpoint :=
  if packet.nsp = s.nsp then
    match packet.ptype with
    | .ack | .binaryAck => { s with acked := s.acked ++ packet.ackArm.toList }
    | .event | .binaryEvent => { s with spawned := s.spawned ++ packet.eventArm.toList }
    | .connect => s.handleConnect (some packet)
    | .disconnect => { s with isConnected := false }.callback .close none none
    | .connectError => { s with isConnected := false }.callback .error
        (some (.json (.string ("Received an ConnectError frame: " ++ texts.debug packet.data)))) none
  else s

def pollItem (s : Endpoint) : RawItem → Endpoint
  | .error e => s.callback .error (some (.json (.string (texts.error e)))) none
  | .ok packet => s.handleSocketioPacket texts packet

/-- A loop over `poll_packet` until the raw stream ends. -/
def poll (s : Endpoint) (items : List RawItem) : Endpoint := items.foldl (pollItem texts) s

end Handle

section Poll
variable {texts : Texts} {s : Endpoint} {packet : Packet}

@[simp] theorem poll_nil (texts : Texts) (s : Endpoint) : s.poll texts [] = s := rfl

@[simp] theorem poll_cons (texts : Texts) (s : Endpoint) (item : RawItem) (items : List RawItem) :
    s.poll texts (item :: items) = (s.pollItem texts item).poll texts items := rfl

@[simp] theorem handleSocketioPacket_nsp : (s.handleSocketioPacket texts packet).nsp = s.nsp := by
  unfold handleSocketioPacket
  split
  · cases packet.ptype <;> rfl
  · rfl

@[simp] theorem pollItem_nsp (item : RawItem) : (s.pollItem texts item).nsp = s.nsp := by
  cases item with
  | error e => rfl
  | ok packet => exact handleSocketioPacket_nsp

theorem handleSocketioPacket_foreign (h : packet.nsp ≠ s.nsp) : s.handleSocketioPacket texts packet = s := if_neg h

theorem handleSocketioPacket_event (hn : packet.nsp = s.nsp) {dispatch : Dispatch}
    (h : packet.eventArm = some dispatch) :
    s.handleSocketioPacket texts packet = { s with spawned := s.spawned ++ [dispatch] } := by
  unfold handleSocketioPacket
  rw [if_pos hn,h]
  unfold Packet.eventArm at h
  cases ht : packet.ptype <;> simp only [ht] at h <;> first | rfl | cases h

theorem handleSocketioPacket_ack (hn : packet.nsp = s.nsp) {ack : Option UInt64 × Option Payload}
    (h : packet.ackArm = some ack) :
    s.handleSocketioPacket texts packet = { s with acked := s.acked ++ [ack] } := by
  unfold handleSocketioPacket
  rw [if_pos hn,h]
  unfold Packet.ackArm at h
  cases ht : packet.ptype <;> simp only [ht] at h <;> first | rfl | cases h

theorem poll_own (items : List RawItem) : s.poll texts items = s.poll texts (items.filter (isOwn s.nsp)) := by
  induction items generalizing s with
  | nil => rfl
  | cons item items ih =>
    have hrest := @ih (s.pollItem texts item)
    rw [pollItem_nsp] at hrest
    by_cases hown : isOwn s.nsp item = true
    · rw [List.filter_cons_of_pos hown,poll_cons,poll_cons,hrest]
    · rw [List.filter_cons_of_neg hown]
      cases item with
      | error e => exact absurd rfl hown
      | ok packet =>
        have hforeign : packet.nsp ≠ s.nsp := by simpa [isOwn] using hown
        have hsame : s.pollItem texts (.ok packet) = s := handleSocketioPacket_foreign hforeign
        rw [poll_cons,hsame,← ih]

end Poll

end Endpoint

section Isolation
variable {json : SerdeJson}

def groups (json : SerdeJson) (packets : List Packet) : List EngineItem :=
  (packets.flatMap (fun packet => (packet.sendCall json).packets)).map .ok

theorem stream_groups {packets : List Packet} (h : ∀ packet ∈ packets, packet.Sendable json) :
    RawSocket.stream json (groups json packets) = ⟨packets.map (fun packet => .ok packet.arrived),false⟩ := by
  induction packets with
  | nil => simp [groups,RawSocket.stream]
  | cons packet packets ih =>
    have hsplit : groups json (packet :: packets) =
        (packet.sendCall json).packets.map .ok ++ groups json packets := by simp [groups]
    rw [hsplit,stream_group (h packet List.mem_cons_self),ih (fun p hp => h p (List.mem_cons_of_mem _ hp))]
    rfl

/-- Groups of other namespaces on the wire make no difference to a socket, wherever they stand between its own. -/
theorem foreign_groups_invisible (json : SerdeJson) (texts : Texts) (s : Endpoint) (packets : List Packet)
    (h : ∀ packet ∈ packets, packet.Sendable json) :
    s.poll texts (RawSocket.stream json (groups json packets)).items =
      s.poll texts (RawSocket.stream json (groups json (packets.filter (fun p => p.nsp = s.nsp)))).items := by
  have hown : ∀ packet ∈ packets.filter (fun p => p.nsp = s.nsp), packet.Sendable json :=
    fun packet hm => h packet (List.mem_of_mem_filter hm)
  rw [stream_groups h,stream_groups hown,Endpoint.poll_own,List.filter_map]
  rfl

theorem bare_sendable {nsp : NameSpace} (hn : ValidNsp nsp) (ptype : PacketType) :
    Packet.Sendable json ⟨ptype,nsp,none,none,0,none⟩ where
  nsp := hn
  count := rfl
  binary _ := rfl
  encodable := Or.inl ⟨rfl,rfl⟩

def threePackets : List Packet :=
  [⟨.connect,"/admin",none,none,0,none⟩,⟨.disconnect,"/",none,none,0,none⟩,⟨.disconnect,"/admin",none,none,0,none⟩]

theorem foreign_groups_invisible_three : (Endpoint.new "/").poll ⟨fun _ => "",fun _ => ""⟩
    (RawSocket.stream (sampleJson []) (groups (sampleJson []) threePackets)).items =
      (Endpoint.new "/").poll ⟨fun _ => "",fun _ => ""⟩
        (RawSocket.stream (sampleJson []) (groups (sampleJson []) [⟨.disconnect,"/",none,none,0,none⟩])).items := by
  refine foreign_groups_invisible (sampleJson []) ⟨fun _ => "",fun _ => ""⟩ (.new "/") threePackets ?_
  intro packet hm
  have hroot : ValidNsp "/" := ⟨rfl,by decide⟩
  have hadmin : ValidNsp "/admin" := ⟨rfl,by decide⟩
  simp only [threePackets,List.mem_cons,List.not_mem_nil,or_false] at hm
  rcases hm with rfl | rfl | rfl
  · exact bare_sendable hadmin _
  · exact bare_sendable hroot _
  · exact bare_sendable hadmin _

end Isolation

end SocketIox.SocketIo
