import SocketIox.EngineIo.PacketCodec

/-! # Delivery through polling POSTs

The client posts one body per packet. The server hands the bodies of a session to
the inbox of its socket, whose stream reads every body as a payload. Binary data has
two encoders, the packet codec and the transport, which agree.
-/
namespace SocketIox.EngineIo
open Wire Proc.TryStream
variable {base64 : Base64Crate}

theorem emit_posted : Logs base64 ClientPollingTransport.posted (pollingBody base64) := by
  intro transport data next h
  simp only [Transport.emit,ClientPollingTransport.emit] at h
  split at h
  · cases h
  · split at h
    · cases h
      simp
    · cases h

def bodiesOf (sid : String) (requests : List (String × Bytes)) : List Bytes :=
  (requests.filter (fun request => request.1 = sid)).map Prod.snd

def pollingPosts (handles : PollingHandles) (requests : List (String × Bytes)) : PollingHandles :=
  requests.foldl (fun handles request => pollingPost handles request.1 request.2) handles

theorem lookup_pollingPost_ne {handles : PollingHandles} {sid other : String} (h : sid ≠ other) (data : Bytes) :
    (pollingPost handles other data).lookup sid = handles.lookup sid := by
  unfold pollingPost
  split
  · rfl
  · split
    · rfl
    · exact AList.lookup_insert_ne h

theorem lookup_pollingPosts {handles : PollingHandles} {sid : String} {received : List Bytes}
    (h : handles.lookup sid = some ⟨received,false⟩) (requests : List (String × Bytes)) :
    (pollingPosts handles requests).lookup sid = some ⟨received ++ bodiesOf sid requests,false⟩ := by
  induction requests generalizing handles received with
  | nil => simpa [pollingPosts,bodiesOf] using h
  | cons request rest ih =>
    obtain ⟨other,data⟩ := request
    by_cases hs : other = sid
    · subst hs
      have hpost := lookup_pollingPost_self h data
      simpa [pollingPosts,bodiesOf] using ih hpost
    · have hpost : (pollingPost handles other data).lookup sid = some ⟨received,false⟩ := by
        rw [lookup_pollingPost_ne (fun he => hs he.symm),h]
      simpa [pollingPosts,bodiesOf,hs] using ih hpost

theorem stream_toBytes (hb : base64.Standard) {packets : List Packet}
    (hs : ∀ packet ∈ packets, packet.Separable) :
    stream base64 ((packets.map (Packet.toBytes base64)).map .ok) = packets.map .ok := by
  induction packets with
  | nil => simp [stream]
  | cons packet rest ih =>
    have hp := hs packet List.mem_cons_self
    have hread := Payload.tryFrom_single base64 (Packet.separator_not_mem hb hp) (Packet.tryFrom_toBytes hb hp)
    have hrest := ih (fun p h => hs p (List.mem_cons_of_mem packet h))
    simp only [List.map_cons,stream,parsePayload,hread,hrest]
    exact yieldFrom_map_ok [packet] _

/-- Client-to-server delivery of a whole sequence of emit calls, among the requests of
any other sessions. -/
theorem post_delivery (base64 : Base64Crate) (hb : base64.Standard) (client : Socket ClientPollingTransport)
    (cs : List EmitCall) (handles : PollingHandles) (sid : String) (requests : List (String × Bytes))
    (hfresh : client.transport.posted = []) (hhandle : handles.lookup sid = some ⟨[],false⟩)
    (hsent : ∀ result ∈ (client.calls base64 cs).1, result = .ok ())
    (hs : ∀ packet ∈ cs.flatMap EmitCall.packets, packet.Separable)
    (hdelivered : bodiesOf sid requests = (client.calls base64 cs).2.transport.posted) :
    (∃ inbox, (pollingPosts handles requests).lookup sid = some inbox ∧
      stream base64 (ServerPollingTransport.stream inbox) = (cs.flatMap EmitCall.packets).map .ok) ∧
    ∀ data, pollingBody base64 (.binary data) = Packet.toBytes base64 ⟨.messageBinary,data⟩ := by
  have hposted := Socket.calls_log emit_posted hsent
  rw [hfresh,List.nil_append,funext (pollingBody_toData base64)] at hposted
  constructor
  · refine ⟨_,lookup_pollingPosts hhandle requests,?_⟩
    rw [ServerPollingTransport.stream,List.nil_append,hdelivered,hposted]
    exact stream_toBytes hb hs
  · intro data
    exact pollingBody_toData base64 ⟨.messageBinary,data⟩

def freshClientSocket : Socket ClientPollingTransport where
  transport := ⟨[],0,fun _ => .ok 200⟩
  connected := true
  sid := "MA=="
  hasEventTx := false
  shouldPong := true
  events := []

theorem post_delivery_mixed :
    (∃ inbox, (pollingPosts (AList.singleton "MA==" ⟨[],false⟩)
          [("MA==",[52,104,105]),("MQ==",[50]),("MA==",[98,66,120,52,61]),("MA==",[50])]).lookup "MA==" =
        some inbox ∧
      stream rfc4648 (ServerPollingTransport.stream inbox) =
        [.ok ⟨.message,[104,105]⟩,.ok ⟨.messageBinary,[7,0x1e]⟩,.ok ⟨.ping,[]⟩]) ∧
    ∀ data, pollingBody rfc4648 (.binary data) = Packet.toBytes rfc4648 ⟨.messageBinary,data⟩ :=
  post_delivery rfc4648 rfc4648_standard freshClientSocket
    [.emitMulti [⟨.message,[104,105]⟩,⟨.messageBinary,[7,0x1e]⟩],.emit ⟨.ping,[]⟩]
    (AList.singleton "MA==" ⟨[],false⟩) "MA=="
    [("MA==",[52,104,105]),("MQ==",[50]),("MA==",[98,66,120,52,61]),("MA==",[50])] rfl rfl
    (by decide +kernel)
    (by
      intro packet hp
      simp only [List.flatMap_cons,List.flatMap_nil,EmitCall.packets,List.cons_append,List.nil_append,
        List.mem_cons,List.not_mem_nil,or_false] at hp
      rcases hp with rfl | rfl | rfl <;> unfold Packet.Separable <;> decide)
    (by decide +kernel)

end SocketIox.EngineIo
