import SocketIox.EngineIo.PacketCodec

/-! # Delivery over a websocket

Every accepted packet becomes one websocket message. A text message comes back as
the bytes of its packet; a binary message comes back behind a raw type byte and is
then split at separators, so its fate depends on its content.
-/
namespace SocketIox.EngineIo
open Wire Proc.TryStream
variable (base64 : Base64Crate)

def Packet.toMessage (packet : Packet) : Message :=
  match packet.toData base64 with
  | .text data => .text data
  | .binary data => .binary data

/-- The bytes the peer's transport yields for a packet. -/
def Packet.toFrame (packet : Packet) : Bytes :=
  match packet.ptype with
  | .messageBinary => messageDiscriminant :: packet.data
  | _ => packet.toBytes base64

def Data.toMessage : Data → Message
  | .text data => .text data
  | .binary data => .binary data

theorem emit_sent : Logs base64 WebsocketTransport.sent Data.toMessage := by
  intro transport data next h
  simp only [Transport.emit,WebsocketTransport.emit] at h
  cases data with
  | text data =>
    simp only [Message.tryFrom] at h
    by_cases hu : (decodeUtf8 data).isSome = true
    · simp only [hu,↓reduceIte] at h
      split at h
      · cases h
      · cases h
        simp [Data.toMessage]
    · simp [hu] at h
  | binary data =>
    simp only [Message.tryFrom] at h
    split at h
    · cases h
    · cases h
      simp [Data.toMessage]

theorem toMessage_toData (packet : Packet) : (packet.toData base64).toMessage = packet.toMessage base64 := by
  unfold Packet.toMessage
  cases packet.toData base64 <;> rfl

theorem calls_sent {socket : Socket WebsocketTransport} {cs : List EmitCall}
    (h : ∀ result ∈ (socket.calls base64 cs).1, result = .ok ()) :
    (socket.calls base64 cs).2.transport.sent =
      socket.transport.sent ++ (cs.flatMap EmitCall.packets).map (Packet.toMessage base64) := by
  rw [Socket.calls_log (emit_sent base64) h,funext (toMessage_toData base64)]

theorem receive_toMessage (packet : Packet) :
    WebsocketTransport.receive (.ok (packet.toMessage base64)) = some (.ok (packet.toFrame base64)) := by
  rcases packet with ⟨ptype,data⟩
  cases ptype <;> rfl

theorem stream_filter_isData (incoming : List Message) :
    WebsocketTransport.stream (incoming.map .ok) =
      WebsocketTransport.stream ((incoming.filter Message.isData).map .ok) := by
  induction incoming with
  | nil => rfl
  | cons message rest ih =>
    unfold WebsocketTransport.stream at ih ⊢
    cases message with
    | text str => exact congrArg (List.cons (Except.ok str)) ih
    | binary data => exact congrArg (List.cons (Except.ok (messageDiscriminant :: data))) ih
    | ping data => exact ih
    | pong data => exact ih
    | close => exact ih

theorem stream_toMessage (packets : List Packet) :
    WebsocketTransport.stream ((packets.map (Packet.toMessage base64)).map .ok) =
      (packets.map (Packet.toFrame base64)).map .ok := by
  induction packets with
  | nil => rfl
  | cons packet rest ih =>
    unfold WebsocketTransport.stream at ih ⊢
    simp only [List.map_cons,List.filterMap_cons,receive_toMessage,ih]

/-- A packet arrives with its data and type, except that a binary message may come
as a plain one. -/
def Arrives (packet : Packet) (item : Except Error Packet) : Prop :=
  ∃ received, item = .ok received ∧ received.data = packet.data ∧
    (received.ptype = packet.ptype ∨ packet.ptype = .messageBinary ∧ received.ptype = .message)

/-- The content of a binary message survives the splitting at separators. -/
def FrameSafe (packet : Packet) : Prop :=
  packet.ptype = .messageBinary → packet.data ≠ [] ∧ separator ∉ packet.data

theorem arrives_refusesErrors : RefusesErrors Arrives := by
  rintro packet e ⟨received,h,-⟩
  cases h

theorem tryFrom_toFrame {packet : Packet} (hs : packet.Sendable) (hf : FrameSafe packet) :
    ∃ received, Payload.tryFrom base64 (packet.toFrame base64) = .ok [received] ∧
      Arrives packet (.ok received) := by
  by_cases hp : packet.ptype = .messageBinary
  · obtain ⟨hne,hsep⟩ := hf hp
    have hm : messageDiscriminant ≠ separator := by decide
    refine ⟨⟨.message,packet.data⟩,?_,_,rfl,rfl,Or.inr ⟨hp,rfl⟩⟩
    have hframe : packet.toFrame base64 = messageDiscriminant :: packet.data := by
      simp [Packet.toFrame,hp]
    rw [hframe]
    apply Payload.tryFrom_single
    · simp only [List.mem_cons,not_or]
      exact ⟨hm.symm,hsep⟩
    · exact Packet.tryFrom_cons base64 (by decide) rfl (fun _ => hne)
  · have hframe : packet.toFrame base64 = packet.toBytes base64 := by
      unfold Packet.toFrame
      split
      · contradiction
      · rfl
    refine ⟨packet,?_,packet,rfl,rfl,Or.inl rfl⟩
    rw [hframe]
    exact Payload.tryFrom_single base64 (Packet.separator_not_mem_toBytes base64 hp hs.separable)
      (Packet.tryFrom_toBytes_text base64 hp hs.separable)

theorem tryFrom_toFrame_ne {packet : Packet} (hf : ¬ FrameSafe packet) (received : Packet) :
    Payload.tryFrom base64 (packet.toFrame base64) ≠ .ok [received] := by
  intro h
  obtain ⟨hp,hd⟩ := Classical.not_imp.mp hf
  have hframe : packet.toFrame base64 = messageDiscriminant :: packet.data := by
    simp [Packet.toFrame,hp]
  rw [hframe] at h
  by_cases hne : packet.data = []
  · rw [hne] at h
    have hs : ([messageDiscriminant] : Bytes).splitOn separator = [[messageDiscriminant]] := rfl
    rw [Payload.tryFrom_eq_mapM,hs] at h
    cases h
  · have hl := Payload.tryFrom_length base64 h
    have hsep : separator ∈ packet.data := not_not.mp (fun h => hd ⟨hne,h⟩)
    have h2 := two_le_splitOn (List.mem_cons_of_mem messageDiscriminant hsep)
    simp only [List.length_singleton] at hl
    omega

theorem stream_toFrame_iff {packets : List Packet} (hs : ∀ packet ∈ packets, packet.Sendable) :
    List.Forall₂ Arrives packets (stream base64 ((packets.map (Packet.toFrame base64)).map .ok)) ↔
      ∀ packet ∈ packets, FrameSafe packet := by
  induction packets with
  | nil => simp [stream]
  | cons packet rest ih =>
    have hrest := ih (fun p hp => hs p (List.mem_cons_of_mem _ hp))
    simp only [List.map_cons,stream,parsePayload,List.mem_cons,forall_eq_or_imp]
    constructor
    · intro h
      cases ht : Payload.tryFrom base64 (packet.toFrame base64) with
      | error e =>
        simp only [ht,yieldFrom_error] at h
        cases h with
        | cons ha _ => exact absurd ha (arrives_refusesErrors packet e)
      | ok received =>
        simp only [ht,yieldFrom_map_ok] at h
        obtain ⟨xs,hxs⟩ := exists_values arrives_refusesErrors h
        obtain ⟨first,others,hsplit,hfirst,hothers⟩ := List.map_eq_append_iff.mp hxs.symm
        have hlen := h.length_eq
        have hle := length_le_stream base64 hothers.symm
        have ho : others.length =
            (stream base64 ((rest.map (Packet.toFrame base64)).map .ok)).length := by
          simpa using congrArg List.length hothers
        -- one packet per frame leaves no room for a second one out of this frame
        have hone : received.length = 1 := by
          have hpos := List.length_pos_of_ne_nil (Payload.tryFrom_ne_nil base64 ht)
          simp only [List.length_cons,List.length_append,List.length_map] at hlen hle
          omega
        obtain ⟨q,rfl⟩ := List.length_eq_one_iff.mp hone
        simp only [List.map_cons,List.map_nil,List.singleton_append,List.forall₂_cons] at h
        refine ⟨?_,hrest.mp h.2⟩
        by_contra hunsafe
        exact tryFrom_toFrame_ne base64 hunsafe q ht
    · rintro ⟨hf,hr⟩
      obtain ⟨received,ht,ha⟩ := tryFrom_toFrame base64 (hs packet List.mem_cons_self) hf
      simp only [ht,List.map_cons,List.map_nil]
      exact .cons ha (hrest.mpr hr)

/-- Frame-exact delivery of a whole sequence of emit calls. -/
theorem websocket_delivery_iff (socket : Socket WebsocketTransport) (cs : List EmitCall)
    (incoming : List Message) (hfresh : socket.transport.sent = [])
    (hsent : ∀ result ∈ (socket.calls base64 cs).1, result = .ok ())
    (hs : ∀ packet ∈ cs.flatMap EmitCall.packets, packet.Sendable)
    (hdelivered : incoming.filter Message.isData = (socket.calls base64 cs).2.transport.sent) :
    List.Forall₂ Arrives (cs.flatMap EmitCall.packets)
        (stream base64 (WebsocketTransport.stream (incoming.map .ok))) ↔
      ∀ packet ∈ cs.flatMap EmitCall.packets, packet.ptype = .messageBinary →
        packet.data ≠ [] ∧ separator ∉ packet.data := by
  have hwire := calls_sent base64 hsent
  rw [hfresh,List.nil_append] at hwire
  rw [stream_filter_isData,hdelivered,hwire,stream_toMessage]
  exact stream_toFrame_iff base64 hs

def freshWebsocketSocket : Socket WebsocketTransport where
  transport := ⟨[],0,fun _ => none⟩
  connected := true
  sid := "MA=="
  hasEventTx := false
  shouldPong := true
  events := []

theorem websocket_delivery_text_and_binary :
    List.Forall₂ Arrives [⟨.message,[104,105]⟩,⟨.messageBinary,[1,2,3]⟩,⟨.ping,[]⟩]
      (stream rfc4648 (WebsocketTransport.stream (([.text [52,104,105],.ping [],.binary [1,2,3],
        .text [50]] : List Message).map .ok))) :=
  (websocket_delivery_iff rfc4648 freshWebsocketSocket
    [.emitMulti [⟨.message,[104,105]⟩,⟨.messageBinary,[1,2,3]⟩],.emit ⟨.ping,[]⟩]
    [.text [52,104,105],.ping [],.binary [1,2,3],.text [50]] rfl (by decide +kernel)
    (by
      intro packet hp
      simp only [List.flatMap_cons,List.flatMap_nil,EmitCall.packets,List.cons_append,List.nil_append,
        List.mem_cons,List.not_mem_nil,or_false] at hp
      rcases hp with rfl | rfl | rfl
      · exact fun _ => ⟨by decide +kernel,by decide,by decide⟩
      · exact fun h => absurd rfl h
      · exact fun _ => ⟨by decide +kernel,by decide,by decide⟩)
    (by decide +kernel)).mpr (by decide)

/-- An attachment that is sent without error and does not arrive as it was. -/
def Broken (attachment : Packet) : Prop :=
  attachment.Sendable ∧
  (freshWebsocketSocket.calls rfc4648 [.emit attachment]).1 = [.ok ()] ∧
  (freshWebsocketSocket.calls rfc4648 [.emit attachment]).2.transport.sent = [.binary attachment.data] ∧
  ¬ List.Forall₂ Arrives [attachment] (stream rfc4648 (WebsocketTransport.stream [.ok (.binary attachment.data)]))

theorem broken_of_not_safe {data : Bytes} (h : ¬ (data ≠ [] ∧ separator ∉ data)) :
    Broken ⟨.messageBinary,data⟩ := by
  have hs : Packet.Sendable ⟨.messageBinary,data⟩ := fun h => absurd rfl h
  refine ⟨hs,rfl,rfl,?_⟩
  intro hd
  have hi := stream_toFrame_iff rfc4648 (List.forall_mem_singleton.mpr hs)
  exact h (hi.mp hd _ List.mem_cons_self rfl)

theorem websocket_delivery_broken :
    Broken ⟨.messageBinary,[]⟩ ∧ Broken ⟨.messageBinary,[7,0x1e,52,65]⟩ :=
  ⟨broken_of_not_safe (by decide),broken_of_not_safe (by decide)⟩

end SocketIox.EngineIo
