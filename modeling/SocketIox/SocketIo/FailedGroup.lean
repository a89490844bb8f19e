import Mathlib.Algebra.GroupWithZero.Nat
import SocketIox.EngineIo.AcceptedPackets
import SocketIox.SocketIo.GroupDelivery

/-! # Sends that fail inside a group

`emit_multi` hands a group to the transport packet by packet and gives up at the first one
that is refused. The packets before it are out, and the receiver counts on the rest of the
group: it takes whatever comes next for it. The peer reads as many messages as its packets
count, so nothing of a failed send may have gone out if the later ones are to arrive.
-/
namespace SocketIox.SocketIo
open Wire

/-- A send, its result, and the engine packets of it that went out. -/
structure Sent where
  packet : Packet
  result : Except Error Unit
  accepted : List EngineIo.Packet

def Sent.succeeded (sent : Sent) : Bool :=
  match sent.result with
  | .ok _ => true
  | .error _ => false

def RawSocket.sendAll {τ : Type} [EngineIo.Transport τ] (json : SerdeJson) (base64 : EngineIo.Base64Crate)
    (engineClient : EngineIo.Socket τ) : List Packet → List Sent
  | [] => []
  | packet :: rest =>
    let (result,next) := RawSocket.send json base64 engineClient packet
    ⟨packet,result,engineClient.acceptedCall base64 (packet.sendCall json)⟩ :: sendAll json base64 next rest

/-- What the peer's engine stream yields for some sends. -/
def wire (sends : List Sent) : List EngineItem := (sends.flatMap Sent.accepted).map .ok

/-- The peer reads precisely the packets whose sends have succeeded. -/
def Intact (json : SerdeJson) (sends : List Sent) : Prop :=
  RawSocket.stream json (wire sends) =
    ⟨(sends.filter Sent.succeeded).map (fun sent => .ok sent.packet.arrived),false⟩

/-- A part of the group is out, and all of it if the send has succeeded. -/
structure Sent.Genuine (json : SerdeJson) (sent : Sent) : Prop where
  part : sent.accepted <+: (sent.packet.sendCall json).packets
  whole : sent.succeeded = true → sent.accepted = (sent.packet.sendCall json).packets

section Sends
variable {τ : Type} [EngineIo.Transport τ] {json : SerdeJson} {base64 : EngineIo.Base64Crate}

theorem acceptedCall_of_send {engineClient next : EngineIo.Socket τ} {packet : Packet}
    (h : RawSocket.send json base64 engineClient packet = (.ok (),next)) :
    engineClient.acceptedCall base64 (packet.sendCall json) = (packet.sendCall json).packets := by
  unfold RawSocket.send at h
  split at h
  · cases h
  · cases hcall : engineClient.call base64 (packet.sendCall json) with
    | mk result after =>
      cases result with
      | ok _ => exact EngineIo.Socket.acceptedCall_of_ok hcall
      | error e =>
        rw [hcall] at h
        cases h

theorem send_sent (json : SerdeJson) (base64 : EngineIo.Base64Crate)
    (engineClient : EngineIo.Socket EngineIo.WebsocketTransport) (packet : Packet) :
    (RawSocket.send json base64 engineClient packet).2.transport.sent =
      engineClient.transport.sent ++
        (engineClient.acceptedCall base64 (packet.sendCall json)).map (EngineIo.Packet.toMessage base64) := by
  by_cases hc : engineClient.connected = true
  · have hopen : ¬ engineClient.connected = false := by simp [hc]
    have hcall := EngineIo.Socket.call_accepted (EngineIo.emit_sent base64) (EngineIo.websocket_refuses base64) engineClient
      (packet.sendCall json)
    rw [RawSocket.send,if_neg hopen]
    split <;> rename_i h <;> rw [h] at hcall <;> exact hcall
  · rw [RawSocket.send,if_pos (Bool.of_not_eq_true hc),EngineIo.Socket.acceptedCall,if_neg hc,List.map_nil,
      List.append_nil]

theorem sendAll_genuine (json : SerdeJson) (base64 : EngineIo.Base64Crate) (engineClient : EngineIo.Socket τ)
    (packets : List Packet) :
    ∀ sent ∈ RawSocket.sendAll json base64 engineClient packets, sent.Genuine json ∧ sent.packet ∈ packets := by
  induction packets generalizing engineClient with
  | nil =>
    intro sent hsent
    cases hsent
  | cons packet rest ih =>
    intro sent hsent
    cases hsend : RawSocket.send json base64 engineClient packet with
    | mk result next =>
      simp only [RawSocket.sendAll,hsend] at hsent
      rcases List.mem_cons.mp hsent with rfl | hrest
      · refine ⟨⟨engineClient.acceptedCall_isPrefix base64 _,?_⟩,List.mem_cons_self⟩
        intro hok
        cases result with
        | ok _ => exact acceptedCall_of_send hsend
        | error e => cases hok
      · obtain ⟨hg,hp⟩ := ih next sent hrest
        exact ⟨hg,List.mem_cons_of_mem _ hp⟩

end Sends

section Count
variable {json : SerdeJson}

/-- The engine messages that a packet takes up. -/
def Packet.size (packet : Packet) : ℕ := packet.attachmentCount.toNat+1

def MessagesOnly (items : List EngineItem) : Prop := ∀ item ∈ items, ∃ m, item = .ok m ∧ isMessage m.ptype = true

theorem takeAttachments_count {left : ℕ} {acc attachments : List Bytes} {client rest : List EngineItem}
    (h : takeAttachments left acc client = .done attachments rest) :
    client.length = left+rest.length ∧ rest <:+ client := by
  induction left generalizing acc client with
  | zero =>
    cases h
    exact ⟨(Nat.zero_add _).symm,List.suffix_refl _⟩
  | succ left ih =>
    cases client with
    | nil => cases h
    | cons item client =>
      cases item with
      | error e => cases h
      | ok packet =>
        rw [takeAttachments] at h
        split at h
        · obtain ⟨hlen,hsuffix⟩ := ih h
          refine ⟨?_,hsuffix.trans (List.suffix_cons _ _)⟩
          rw [List.length_cons,hlen]
          omega
        · cases h

theorem handleEngineioPacket_count {m : EngineIo.Packet} {packet : Packet} {client rest : List EngineItem}
    (h : handleEngineioPacket json m client = .done packet rest) :
    client.length+1 = packet.size+rest.length ∧ rest <:+ client := by
  unfold handleEngineioPacket at h
  cases hdecode : Packet.tryFrom json m.data with
  | error e => simp [hdecode] at h
  | ok header =>
    simp only [hdecode] at h
    split at h
    · rename_i hzero
      cases h
      refine ⟨?_,List.suffix_refl _⟩
      rw [Packet.size,hzero]
      exact Nat.add_comm _ _
    · cases htake : takeAttachments header.attachmentCount.toNat [] client with
      | done attachments remaining =>
        simp only [htake] at h
        cases h
        obtain ⟨hlen,hsuffix⟩ := takeAttachments_count htake
        refine ⟨?_,hsuffix⟩
        simp only [Packet.size]
        omega
      | failed e remaining => simp [htake] at h
      | panicked => simp [htake] at h

theorem stream_count {items : List EngineItem} (hm : MessagesOnly items) {packets : List Packet}
    (h : RawSocket.stream json items = ⟨packets.map .ok,false⟩) : items.length = (packets.map Packet.size).sum := by
  induction hn : items.length using Nat.strong_induction_on generalizing items packets with
  | _ n ih =>
    subst hn
    cases items with
    | nil =>
      have hnil : packets = [] := by simpa [RawSocket.stream] using (congrArg Yielded.items h).symm
      simp [hnil]
    | cons item client =>
      obtain ⟨m,rfl,hmessage⟩ := hm _ List.mem_cons_self
      rw [stream_message hmessage] at h
      cases hhandle : handleEngineioPacket json m client with
      | failed e rest => cases packets <;> simp [hhandle] at h
      | panicked => simp [hhandle] at h
      | done packet rest =>
        obtain ⟨hlen,hsuffix⟩ := handleEngineioPacket_count hhandle
        simp only [hhandle,Yielded.cons,Yielded.mk.injEq] at h
        cases packets with
        | nil => simp at h
        | cons first packets =>
          simp only [List.map_cons,List.cons.injEq,Except.ok.injEq] at h
          obtain ⟨⟨rfl,hitems⟩,hend⟩ := h
          have hrest : RawSocket.stream json rest = ⟨packets.map .ok,false⟩ := by
            rw [← hitems,← hend]
          have hshort : rest.length < client.length+1 := Nat.lt_succ_of_le hsuffix.length_le
          have hmessages : MessagesOnly rest := fun i hi => hm i (List.mem_cons_of_mem _ (hsuffix.subset hi))
          have hcount := ih rest.length hshort hmessages hrest rfl
          rw [List.length_cons,hlen,hcount,List.map_cons,List.sum_cons]

theorem sendCall_packets_length {packet : Packet} (hs : packet.Sendable json) :
    (packet.sendCall json).packets.length = packet.size := by
  rw [Packet.sendCall_packets,List.length_cons,Packet.attachmentPackets,List.length_map,← hs.count,Packet.size]

theorem wire_messagesOnly {sends : List Sent} (hg : ∀ sent ∈ sends, sent.Genuine json) :
    MessagesOnly (wire sends) := by
  intro item hitem
  obtain ⟨m,hm,rfl⟩ := List.mem_map.mp hitem
  obtain ⟨sent,hsent,haccepted⟩ := List.mem_flatMap.mp hm
  have hmem := (hg sent hsent).part.subset haccepted
  rw [Packet.sendCall_packets] at hmem
  refine ⟨m,rfl,?_⟩
  rcases List.mem_cons.mp hmem with rfl | hattachment
  · rfl
  · exact sent.packet.attachmentPackets_isMessage m hattachment

end Count

section Intact
variable {json : SerdeJson} {sends : List Sent}

theorem wire_length (hg : ∀ sent ∈ sends, sent.Genuine json) (hs : ∀ sent ∈ sends, sent.packet.Sendable json) :
    (wire sends).length = ((sends.filter Sent.succeeded).map (fun sent => sent.packet.size)).sum +
      ((sends.filter (fun sent => !sent.succeeded)).map (fun sent => sent.accepted.length)).sum := by
  induction sends with
  | nil => rfl
  | cons sent sends ih =>
    have hrest := ih (fun s h => hg s (List.mem_cons_of_mem _ h)) (fun s h => hs s (List.mem_cons_of_mem _ h))
    have hlength : (wire (sent :: sends)).length = sent.accepted.length+(wire sends).length := by simp [wire]
    rw [hlength,hrest]
    cases hok : sent.succeeded with
    | true =>
      have hsize : sent.accepted.length = sent.packet.size := by
        rw [(hg sent List.mem_cons_self).whole hok,sendCall_packets_length (hs sent List.mem_cons_self)]
      simp [hok,hsize,Nat.add_assoc]
    | false =>
      simp only [List.filter_cons,hok,Bool.not_false,Bool.false_eq_true,↓reduceIte,List.map_cons,List.sum_cons]
      omega

theorem intact_of_rejected (hg : ∀ sent ∈ sends, sent.Genuine json) (hs : ∀ sent ∈ sends, sent.packet.Sendable json)
    (h : ∀ sent ∈ sends, sent.succeeded = false → sent.accepted = []) : Intact json sends := by
  induction sends with
  | nil => simp [Intact,wire,RawSocket.stream]
  | cons sent sends ih =>
    have hrest : Intact json sends := ih (fun s hm => hg s (List.mem_cons_of_mem _ hm))
      (fun s hm => hs s (List.mem_cons_of_mem _ hm)) (fun s hm => h s (List.mem_cons_of_mem _ hm))
    have hwire : wire (sent :: sends) = sent.accepted.map .ok ++ wire sends := by simp [wire]
    unfold Intact at hrest ⊢
    rw [hwire]
    cases hok : sent.succeeded with
    | true =>
      rw [(hg sent List.mem_cons_self).whole hok,stream_group (hs sent List.mem_cons_self),hrest]
      simp [hok,Yielded.cons]
    | false =>
      rw [h sent List.mem_cons_self hok,List.map_nil,List.nil_append,hrest]
      simp [hok]

theorem rejected_of_intact (hg : ∀ sent ∈ sends, sent.Genuine json) (hs : ∀ sent ∈ sends, sent.packet.Sendable json)
    (h : Intact json sends) : ∀ sent ∈ sends, sent.succeeded = false → sent.accepted = [] := by
  have hpackets : RawSocket.stream json (wire sends) =
      ⟨((sends.filter Sent.succeeded).map (fun sent => sent.packet.arrived)).map .ok,false⟩ := by
    rw [List.map_map]
    exact h
  have hcount := stream_count (wire_messagesOnly hg) hpackets
  have hsizes : ((sends.filter Sent.succeeded).map (fun sent => sent.packet.arrived)).map Packet.size =
      (sends.filter Sent.succeeded).map (fun sent => sent.packet.size) := by
    rw [List.map_map]
    rfl
  rw [hsizes,wire_length hg hs] at hcount
  intro sent hsent hfailed
  have hmem : sent.accepted.length ∈
      (sends.filter (fun sent => !sent.succeeded)).map (fun sent => sent.accepted.length) := by
    apply List.mem_map_of_mem
    simp [hsent,hfailed]
  exact List.length_eq_zero_iff.mp (List.sum_eq_zero_iff_forall_eq_nat.mp (Nat.add_eq_left.mp hcount) _ hmem)

/-- Whenever a send has just succeeded, the peer has read precisely what was sent with success. -/
def FailuresHarmless (json : SerdeJson) (sends : List Sent) : Prop :=
  ∀ earlier sent later, sends = earlier ++ sent :: later → sent.succeeded = true → Intact json (earlier ++ [sent])

/-- Nothing of a failed send is out when a later one succeeds. -/
def RejectedAtHeader (sends : List Sent) : Prop :=
  ∀ earlier failed between sent later, sends = earlier ++ failed :: between ++ sent :: later →
    failed.succeeded = false → sent.succeeded = true → failed.accepted = []

theorem rejectedAtHeader_of_harmless (hg : ∀ sent ∈ sends, sent.Genuine json)
    (hs : ∀ sent ∈ sends, sent.packet.Sendable json) (h : FailuresHarmless json sends) : RejectedAtHeader sends := by
  rintro earlier failed between sent later hsends hfailed hsent
  have hsub : ∀ s ∈ earlier ++ failed :: between ++ [sent], s ∈ sends := by
    intro s hm
    rw [hsends,List.append_cons,List.mem_append]
    exact Or.inl hm
  exact rejected_of_intact (fun s hm => hg s (hsub s hm)) (fun s hm => hs s (hsub s hm)) (h _ _ _ hsends hsent) failed
    (by simp) hfailed

theorem harmless_of_rejectedAtHeader (hg : ∀ sent ∈ sends, sent.Genuine json)
    (hs : ∀ sent ∈ sends, sent.packet.Sendable json) (h : RejectedAtHeader sends) : FailuresHarmless json sends := by
  intro earlier sent later hsends hsent
  have hsub : ∀ s ∈ earlier ++ [sent], s ∈ sends := by
    intro s hm
    rw [hsends,List.append_cons,List.mem_append]
    exact Or.inl hm
  apply intact_of_rejected (fun s hm => hg s (hsub s hm)) (fun s hm => hs s (hsub s hm))
  intro failed hmem hfailed
  rcases List.mem_append.mp hmem with hearlier | hlast
  · obtain ⟨first,between,rfl⟩ := List.append_of_mem hearlier
    exact h first failed between sent later hsends hfailed hsent
  · rw [List.mem_singleton.mp hlast,hsent] at hfailed
    cases hfailed

end Intact

/-- Failed sends do no harm to later ones if and only if the transport has refused them at their header. -/
theorem failed_sends_harmless_iff {τ : Type} [EngineIo.Transport τ] (json : SerdeJson) (base64 : EngineIo.Base64Crate)
    (engineClient : EngineIo.Socket τ) (packets : List Packet) (hs : ∀ packet ∈ packets, packet.Sendable json) :
    FailuresHarmless json (RawSocket.sendAll json base64 engineClient packets) ↔
      RejectedAtHeader (RawSocket.sendAll json base64 engineClient packets) := by
  have hsent := sendAll_genuine json base64 engineClient packets
  have hgenuine := fun sent h => (hsent sent h).1
  have hsendable := fun sent h => hs _ (hsent sent h).2
  exact ⟨rejectedAtHeader_of_harmless hgenuine hsendable,harmless_of_rejectedAtHeader hgenuine hsendable⟩

def fooWithAttachment : Packet := buildPacketForPayload (.binary [7]) (some (.custom "foo")) "/" none false

abbrev fooJson : SerdeJson := sampleJson [.array [.string "foo",binaryPlaceHolder 0]]

theorem fooWithAttachment_sendable : fooWithAttachment.Sendable fooJson := by
  apply buildPacketForPayload_sendable ⟨by decide,by decide⟩ (by decide)
  rw [encodeData_eq]
  exact sampleJson_faithful _

def flakyClient (k : ℕ) : EngineIo.Socket EngineIo.ClientPollingTransport :=
  ⟨⟨[],0,fun n => .ok (if n = k then 500 else 200)⟩,true,"MA==",true,true,[]⟩

theorem twice_sendable : ∀ packet ∈ [fooWithAttachment,fooWithAttachment], packet.Sendable fooJson := by
  intro packet hp
  simp only [List.mem_cons,List.not_mem_nil,or_false,or_self] at hp
  exact hp ▸ fooWithAttachment_sendable

theorem failed_sends_harmless_retry :
    FailuresHarmless fooJson
      (RawSocket.sendAll fooJson EngineIo.rfc4648 (flakyClient 0) [fooWithAttachment,fooWithAttachment]) := by
  apply (failed_sends_harmless_iff fooJson EngineIo.rfc4648 (flakyClient 0) _ twice_sendable).mpr
  have hsends : RawSocket.sendAll fooJson EngineIo.rfc4648 (flakyClient 0) [fooWithAttachment,fooWithAttachment] =
      [⟨fooWithAttachment,.error (.incompleteResponseFromEngineIo (.invalidHttpResponseStatus 500)),[]⟩,
        ⟨fooWithAttachment,.ok (),(fooWithAttachment.sendCall fooJson).packets⟩] := rfl
  intro earlier failed between sent later hcut hfailed hsent
  have hmem : failed ∈ earlier ++ failed :: between ++ sent :: later := by simp
  rw [← hcut,hsends] at hmem
  simp only [List.mem_cons,List.not_mem_nil,or_false] at hmem
  rcases hmem with rfl | rfl
  · rfl
  · cases hfailed

/-- The attachment of the first send is refused, and the header of the retry is read in its place. -/
theorem failed_sends_harm_retry :
    ¬ FailuresHarmless fooJson
      (RawSocket.sendAll fooJson EngineIo.rfc4648 (flakyClient 1) [fooWithAttachment,fooWithAttachment]) := by
  have hsends : RawSocket.sendAll fooJson EngineIo.rfc4648 (flakyClient 1) [fooWithAttachment,fooWithAttachment] =
      [⟨fooWithAttachment,.error (.incompleteResponseFromEngineIo (.invalidHttpResponseStatus 500)),
          [fooWithAttachment.header fooJson]⟩,
        ⟨fooWithAttachment,.ok (),(fooWithAttachment.sendCall fooJson).packets⟩] := rfl
  intro h
  have hsent := sendAll_genuine fooJson EngineIo.rfc4648 (flakyClient 1) [fooWithAttachment,fooWithAttachment]
  have hrejected := rejectedAtHeader_of_harmless (fun sent hm => (hsent sent hm).1)
    (fun sent hm => twice_sendable _ (hsent sent hm).2) h
  cases hrejected [] _ [] _ [] hsends rfl rfl

end SocketIox.SocketIo
