import SocketIox.EngineIo.PacketCodec

/-! # Delivery through a polling GET

The transport queues one byte string per packet and the GET joins the queue into
one body. Both layers encode binary data: the transport turns it into a base-64
segment, and the joining loop encodes that segment once more.
-/
namespace SocketIox.EngineIo
open Wire Proc.TryStream
variable (base64 : Base64Crate)

def pollingSegment (bytes : Bytes) : Bytes :=
  if bytes.head? = some 98 then base64.encode bytes else bytes

def Queueable (bytes : Bytes) : Prop :=
  bytes ≠ [] ∧ (bytes.head? = some 98 ∨ (decodeUtf8 bytes).isSome = true)

theorem buildPollingPayloadLoop_eq {queue : List Bytes} (hq : ∀ bytes ∈ queue, Queueable bytes)
    (payload : Bytes) : buildPollingPayloadLoop base64 queue payload =
      some (payload ++ [separator].intercalate (queue.map (pollingSegment base64))) := by
  induction queue generalizing payload with
  | nil => simp [buildPollingPayloadLoop]
  | cons bytes rest ih =>
    obtain ⟨hne,hread⟩ := hq bytes List.mem_cons_self
    have hi := ih (fun b hb => hq b (List.mem_cons_of_mem _ hb))
    cases bytes with
    | nil => exact absurd rfl hne
    | cons first tail =>
      have hstep : (if first = 98 then payload ++ base64.encode (first :: tail)
          else if (decodeUtf8 (first :: tail)).isSome then payload ++ first :: tail else payload) =
          payload ++ pollingSegment base64 (first :: tail) := by
        unfold pollingSegment
        by_cases hf : first = 98
        · simp [hf]
        · have hu : (decodeUtf8 (first :: tail)).isSome = true := by
            rcases hread with h | h
            · exact absurd (Option.some.inj h) hf
            · exact h
          simp [hf,hu]
      simp only [buildPollingPayloadLoop,hstep,hi]
      cases rest with
      | nil => simp
      | cons second others => simp [List.intercalate_cons_cons]

def Packet.toQueued (packet : Packet) : Bytes := pollingBody base64 (packet.toData base64)

theorem toQueued_eq (packet : Packet) : packet.toQueued base64 = packet.toBytes base64 := pollingBody_toData base64 packet

theorem emit_queue : Logs base64 ServerPollingTransport.queue (pollingBody base64) := by
  intro transport data next h
  simp only [Transport.emit,ServerPollingTransport.emit] at h
  split at h
  · cases h
  · cases h
    simp

theorem emits_queue {socket : Socket ServerPollingTransport} {packets : List Packet}
    (h : ∀ result ∈ (socket.calls base64 (packets.map .emit)).1, result = .ok ()) :
    (socket.calls base64 (packets.map .emit)).2.transport.queue =
      socket.transport.queue ++ packets.map (Packet.toQueued base64) := by
  have hpackets : (packets.map EmitCall.emit).flatMap EmitCall.packets = packets := by
    simp [List.flatMap_map,EmitCall.packets]
  rw [Socket.calls_log (emit_queue base64) h,hpackets]
  unfold Packet.toQueued
  rfl

theorem queueable_toQueued {packet : Packet} (hs : packet.Sendable) : Queueable (packet.toQueued base64) := by
  by_cases hp : packet.ptype = .messageBinary
  · rw [toQueued_eq,Packet.toBytes_binary base64 hp]
    exact ⟨List.cons_ne_nil _ _,Or.inl rfl⟩
  · rw [toQueued_eq]
    refine ⟨?_,Or.inr (Packet.decodeUtf8_toBytes base64 hp hs)⟩
    obtain ⟨b,c,hb,-⟩ := PacketType.toBytes_text hp
    simp [Packet.toBytes,hb]

def Packet.toSegment (packet : Packet) : Bytes := pollingSegment base64 (packet.toQueued base64)

theorem toSegment_text {packet : Packet} (hp : packet.ptype ≠ .messageBinary) :
    packet.toSegment base64 = packet.toBytes base64 := by
  obtain ⟨b,c,hb,-,hne,-,-⟩ := PacketType.toBytes_text hp
  have hhead : (packet.toBytes base64).head? = some b := by simp [Packet.toBytes,hb]
  simp [Packet.toSegment,toQueued_eq,pollingSegment,hhead,hne]

theorem toSegment_binary {packet : Packet} (hp : packet.ptype = .messageBinary) :
    packet.toSegment base64 = base64.encode (98 :: base64.encode packet.data) := by
  simp [Packet.toSegment,toQueued_eq,Packet.toBytes_binary base64 hp,pollingSegment]

section Standard
variable {base64} (hb : base64.Standard)
include hb

theorem separator_not_mem_toSegment {packet : Packet} (hs : packet.Sendable) :
    separator ∉ packet.toSegment base64 := by
  by_cases hp : packet.ptype = .messageBinary
  · rw [toSegment_binary base64 hp]
    exact separator_not_mem_encode hb _
  · rw [toSegment_text base64 hp]
    exact Packet.separator_not_mem_toBytes base64 hp hs.separable

/-- A twice encoded segment starts with the letter `Y`, which is no packet type. -/
theorem tryFrom_toSegment_binary {packet : Packet} (hp : packet.ptype = .messageBinary) :
    Packet.tryFrom base64 (packet.toSegment base64) = .error (.invalidPacketType 89) := by
  have hh := hb.head_encode 98 (base64.encode packet.data)
  obtain ⟨tail,ht⟩ := List.head?_eq_some_iff.mp hh
  rw [toSegment_binary base64 hp,ht]
  rfl

theorem tryFrom_intercalate_iff {packets : List Packet} (hne : packets ≠ [])
    (hs : ∀ packet ∈ packets, packet.Sendable) :
    Payload.tryFrom base64 ([separator].intercalate (packets.map (Packet.toSegment base64))) = .ok packets ↔
      ∀ packet ∈ packets, packet.ptype ≠ .messageBinary := by
  rw [Payload.tryFrom_intercalate_iff base64 hne (fun packet hp => separator_not_mem_toSegment hb (hs packet hp))]
  constructor
  · intro h packet hp ht
    have he := h packet hp
    rw [tryFrom_toSegment_binary hb ht] at he
    cases he
  · intro h packet hp
    rw [toSegment_text base64 (h packet hp)]
    exact Packet.tryFrom_toBytes_text base64 (h packet hp) (hs packet hp).separable

end Standard

theorem pollingGet_body {transport : ServerPollingTransport} {packets : List Packet}
    (hs : ∀ packet ∈ packets, packet.Sendable)
    (hq : transport.queue = packets.map (Packet.toQueued base64)) :
    (pollingGet base64 transport).1 =
      if [separator].intercalate (packets.map (Packet.toSegment base64)) = [] then none
      else some ([separator].intercalate (packets.map (Packet.toSegment base64))) := by
  have hqueue : ∀ bytes ∈ packets.map (Packet.toQueued base64), Queueable bytes := by
    intro bytes h
    obtain ⟨packet,hp,rfl⟩ := List.mem_map.mp h
    exact queueable_toQueued base64 (hs packet hp)
  have hl := buildPollingPayloadLoop_eq base64 hqueue []
  rw [List.map_map,List.nil_append] at hl
  simp only [pollingGet,buildPollingPayload,hq,hl,Option.bind_eq_bind,Option.bind_some]
  rfl

/-- Server-to-client delivery of a whole sequence of emits by one GET. -/
theorem polling_delivery_iff (hb : base64.Standard) (socket : Socket ServerPollingTransport)
    (packets : List Packet) (hne : packets ≠ []) (hfresh : socket.transport.queue = [])
    (hsent : ∀ result ∈ (socket.calls base64 (packets.map .emit)).1, result = .ok ())
    (hs : ∀ packet ∈ packets, packet.Sendable) :
    (∃ body, (pollingGet base64 (socket.calls base64 (packets.map .emit)).2.transport).1 = some body ∧
        Payload.tryFrom base64 body = .ok packets) ↔
      ∀ packet ∈ packets, packet.ptype ≠ .messageBinary := by
  have hq := emits_queue base64 hsent
  rw [hfresh,List.nil_append] at hq
  rw [pollingGet_body base64 hs hq,← tryFrom_intercalate_iff hb hne hs]
  constructor
  · rintro ⟨body,hbody,hd⟩
    split at hbody
    · cases hbody
    · cases hbody
      exact hd
  · intro hd
    refine ⟨_,if_neg ?_,hd⟩
    intro hnil
    rw [hnil] at hd
    cases hd

def freshPollingSocket : Socket ServerPollingTransport where
  transport := ⟨[],false⟩
  connected := true
  sid := "MA=="
  hasEventTx := true
  shouldPong := false
  events := []

theorem polling_delivery_texts :
    ∃ body, (pollingGet rfc4648 (freshPollingSocket.calls rfc4648
        [.emit ⟨.message,[104,105]⟩,.emit ⟨.ping,[]⟩]).2.transport).1 = some body ∧
      Payload.tryFrom rfc4648 body = .ok [⟨.message,[104,105]⟩,⟨.ping,[]⟩] :=
  (polling_delivery_iff rfc4648 rfc4648_standard freshPollingSocket [⟨.message,[104,105]⟩,⟨.ping,[]⟩]
    (by decide) rfl (by decide +kernel)
    (by
      intro packet hp
      simp only [List.mem_cons,List.not_mem_nil,or_false] at hp
      rcases hp with rfl | rfl <;> exact fun _ => ⟨by decide +kernel,by decide,by decide⟩)).mpr (by decide)

/-- The binary message `Hello` is queued as `bSGVsbG8=` and its GET is unreadable. -/
theorem polling_delivery_broken :
    Packet.Sendable ⟨.messageBinary,[72,101,108,108,111]⟩ ∧
    (freshPollingSocket.calls rfc4648 [.emit ⟨.messageBinary,[72,101,108,108,111]⟩]).1 = [.ok ()] ∧
    ∃ body, (pollingGet rfc4648 (freshPollingSocket.calls rfc4648
        [.emit ⟨.messageBinary,[72,101,108,108,111]⟩]).2.transport).1 = some body ∧
      Payload.tryFrom rfc4648 body = .error (.invalidPacketType 89) := by
  refine ⟨fun h => absurd rfl h,rfl,_,rfl,?_⟩
  rfl

end SocketIox.EngineIo
