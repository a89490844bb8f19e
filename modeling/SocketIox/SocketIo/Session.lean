import SocketIox.EngineIo.PollNext
import SocketIox.EngineIo.PostDelivery
import SocketIox.SocketIo.Dispatch
import SocketIox.SocketIo.NamespaceAgreement

/-! # A session from the connect packet on

The server takes the connect packet from the raw stream, makes a socket for its namespace
and polls that socket to the end of the stream. Whatever a client sends after its connect
packet is dispatched there, each event with its payload and its id, in the order in which it
was sent, if the payloads can be carried and the engine's socket loses no packet while it is
polled.
-/
namespace SocketIox.SocketIo
open Wire Proc

/-- The loop of `do_handle_connect`: the namespace of the first connect packet, and what is left of the raw stream. -/
def awaitConnect : List RawItem → Option (NameSpace × List RawItem)
  | [] => none
  | .error _ :: _ => none
  | .ok packet :: rest => if packet.ptype = .connect then some (packet.nsp,rest) else awaitConnect rest

/-- `do_handle_connect` and `insert_clients` up to the end of the poll loop that they spawn. -/
def serve (texts : Texts) (on : List NameSpace) (items : List RawItem) : Option Endpoint := do
  let (nsp,rest) ← awaitConnect items
  if nsp ∈ on then some (((Endpoint.new nsp).handleConnect none).poll texts rest) else none

section Plain
variable {json : SerdeJson}

def plainPacket (packet : EngineIo.Packet) : EngineIo.Packet :=
  if packet.ptype = .messageBinary then ⟨.message,packet.data⟩ else packet

def plain (item : EngineItem) : EngineItem := item.map plainPacket

def Outcome.plain {α : Type} : Outcome α → Outcome α
  | .done value rest => .done value (rest.map SocketIo.plain)
  | .failed e rest => .failed e (rest.map SocketIo.plain)
  | .panicked => .panicked

theorem plainPacket_eq (packet : EngineIo.Packet) : (plainPacket packet).data = packet.data ∧
    isMessage (plainPacket packet).ptype = isMessage packet.ptype ∧
    (plainPacket packet).ptype.toU8 = packet.ptype.toU8 := by
  unfold plainPacket
  split
  · rename_i h
    rw [h]
    exact ⟨rfl,rfl,rfl⟩
  · exact ⟨rfl,rfl,rfl⟩

theorem takeAttachments_plain (left : ℕ) (acc : List Bytes) (items : List EngineItem) :
    takeAttachments left acc (items.map plain) = (takeAttachments left acc items).plain := by
  induction left generalizing items acc with
  | zero => rfl
  | succ left ih =>
    cases items with
    | nil => rfl
    | cons item items =>
      cases item with
      | error e => rfl
      | ok packet =>
        obtain ⟨hdata,hmessage,htype⟩ := plainPacket_eq packet
        simp only [List.map_cons,plain,Except.map,takeAttachments,hdata,hmessage,htype]
        by_cases hm : isMessage packet.ptype = true
        · rw [if_pos hm,if_pos hm]
          exact ih _ _
        · rw [if_neg hm,if_neg hm]
          rfl

theorem handleEngineioPacket_plain (packet : EngineIo.Packet) (items : List EngineItem) :
    handleEngineioPacket json (plainPacket packet) (items.map plain) =
      (handleEngineioPacket json packet items).plain := by
  unfold handleEngineioPacket
  rw [(plainPacket_eq packet).1]
  cases Packet.tryFrom json packet.data with
  | error e => rfl
  | ok header =>
    by_cases hz : header.attachmentCount = 0
    · simp only [hz,↓reduceIte]
      rfl
    · simp only [hz,↓reduceIte,takeAttachments_plain]
      cases takeAttachments header.attachmentCount.toNat [] items <;> rfl

theorem stream_plain (items : List EngineItem) :
    RawSocket.stream json (items.map plain) = RawSocket.stream json items := by
  induction hn : items.length using Nat.strong_induction_on generalizing items with
  | _ n ih =>
    subst hn
    cases items with
    | nil => rfl
    | cons item items =>
      cases item with
      | error e => simp [plain,Except.map,RawSocket.stream]
      | ok packet =>
        obtain ⟨-,hmessage,-⟩ := plainPacket_eq packet
        have hcons : (Except.ok packet :: items).map plain = .ok (plainPacket packet) :: items.map plain := rfl
        rw [hcons]
        by_cases hm : isMessage packet.ptype = true
        · rw [stream_message (hmessage.trans hm),stream_message hm,handleEngineioPacket_plain]
          cases hhandle : handleEngineioPacket json packet items with
          | done result rest =>
            have hshort : rest.length < (Except.ok packet :: items : List EngineItem).length :=
              Nat.lt_succ_of_le (handleEngineioPacket_rest hhandle)
            simp only [Outcome.plain,ih rest.length hshort rest rfl]
          | failed e rest => rfl
          | panicked => rfl
        · replace hm := Bool.of_not_eq_true hm
          rw [stream_skip (hmessage.trans hm),stream_skip hm]
          exact ih items.length (Nat.lt_succ_self _) items rfl

theorem plain_of_arrives {packet : EngineIo.Packet} {item : EngineItem} (h : EngineIo.Arrives packet item) :
    plain item = plain (.ok packet) := by
  obtain ⟨⟨ptype,data⟩,rfl,rfl,rfl | ⟨hbinary,rfl⟩⟩ := h
  · rfl
  · simp [plain,Except.map,plainPacket,hbinary]

theorem stream_arrives {packets : List EngineIo.Packet} {items : List EngineItem}
    (h : List.Forall₂ EngineIo.Arrives packets items) :
    RawSocket.stream json items = RawSocket.stream json (packets.map .ok) := by
  have hplain : items.map plain = (packets.map .ok).map plain := by
    induction h with
    | nil => rfl
    | cons hp _ ih => rw [List.map_cons,List.map_cons,List.map_cons,ih,plain_of_arrives hp]
  rw [← stream_plain items,hplain,stream_plain]

end Plain

namespace Call

def dispatch : Call → Option Dispatch
  | .emit event payload => some ⟨event,some payload.normal,none⟩
  | .emitWithAck event payload id => some ⟨event,some payload.normal,some id⟩
  | .ack _ _ | .engine _ _ => none

def acked : Call → Option (Option UInt64 × Option Payload)
  | .ack id payload => some (some id,if payload.parts = [] then none else some payload.normal)
  | .emit _ _ | .emitWithAck _ _ _ | .engine _ _ => none

/-- An event that is the one its name reads as, with a payload that has a part, and no JSON that passes for a
placeholder. -/
structure Legible (call : Call) : Prop where
  unmistakable : ∀ m, call.message = some m → m.2.Unmistakable
  event : ∀ event payload, call.message = some (some event,payload) →
    Event.fromString event.toString = event ∧ payload.parts ≠ []

end Call

section Deliveries
variable {json : SerdeJson} {texts : Texts} {nsp : NameSpace} {call : Call}

theorem eventArm_of_legible {event : Event} {payload : Payload} (id : Option UInt64)
    (hcount : (binaries payload.parts).length ≤ 255) (hp : payload.Unmistakable)
    (he : Event.fromString event.toString = event ∧ payload.parts ≠ []) :
    (buildPacketForPayload payload (some event) nsp id false).arrived.eventArm =
      some ⟨event,some payload.normal,id⟩ := by
  have harm := @eventArm_arrived payload nsp event.toString id hcount hp he.2
  rwa [he.1] at harm

theorem poll_call (s : Endpoint) (hc : call.Admissible json) (hl : call.Legible) {packet : Packet}
    (h : call.packet s.nsp = some packet) : s.pollItem texts (.ok packet.arrived) = { s with
      spawned := s.spawned ++ call.dispatch.toList
      acked := s.acked ++ call.acked.toList } := by
  cases call with
  | emit event payload =>
    cases h
    have harm := @eventArm_of_legible s.nsp event payload none (hc.count _ rfl) (hl.unmistakable _ rfl) (hl.event _ _ rfl)
    rw [Endpoint.pollItem,Endpoint.handleSocketioPacket_event rfl harm]
    simp [Call.dispatch,Call.acked]
  | ack id payload =>
    cases h
    have harm := @ackArm_arrived payload s.nsp (some id) (hc.count _ rfl) (hl.unmistakable _ rfl)
    rw [Endpoint.pollItem,Endpoint.handleSocketioPacket_ack rfl harm]
    simp [Call.dispatch,Call.acked]
  | emitWithAck event payload id =>
    cases h
    have harm := @eventArm_of_legible s.nsp event payload (some id) (hc.count _ rfl) (hl.unmistakable _ rfl)
      (hl.event _ _ rfl)
    rw [Endpoint.pollItem,Endpoint.handleSocketioPacket_event rfl harm]
    simp [Call.dispatch,Call.acked]
  | engine keepalive data => cases h

theorem poll_calls (s : Endpoint) (calls : List Call) (hc : ∀ call ∈ calls, call.Admissible json ∧ call.Legible) :
    s.poll texts ((calls.filterMap (Call.packet s.nsp)).map (fun packet => .ok packet.arrived)) = { s with
      spawned := s.spawned ++ calls.filterMap Call.dispatch
      acked := s.acked ++ calls.filterMap Call.acked } := by
  induction calls generalizing s with
  | nil => simp
  | cons call calls ih =>
    have hrest : ∀ c ∈ calls, c.Admissible json ∧ c.Legible := fun c hm => hc c (List.mem_cons_of_mem _ hm)
    obtain ⟨hadmissible,hlegible⟩ := hc call List.mem_cons_self
    cases hp : call.packet s.nsp with
    | none =>
      have hnone : call.dispatch = none ∧ call.acked = none := by
        cases call with
        | engine keepalive data => exact ⟨rfl,rfl⟩
        | emit event payload | ack id payload | emitWithAck event payload id => cases hp
      rw [List.filterMap_cons_none hp,ih s hrest,List.filterMap_cons_none hnone.1,List.filterMap_cons_none hnone.2]
    | some packet =>
      have hnext := ih { s with
        spawned := s.spawned ++ call.dispatch.toList
        acked := s.acked ++ call.acked.toList } hrest
      have htail : ∀ {α : Type} (f : Call → Option α),
          (call :: calls).filterMap f = (f call).toList ++ calls.filterMap f := by
        intro α f
        cases hf : f call <;> simp [hf]
      rw [List.filterMap_cons_some hp,List.map_cons,Endpoint.poll_cons,poll_call s hadmissible hlegible hp,hnext]
      simp only [htail,List.append_assoc]

/-- The packet that `Socket::connect` sends. -/
def connectPacket (nsp : NameSpace) : Packet := ⟨.connect,nsp,none,none,0,none⟩

/-- The calls to the engine socket of a client that connects and goes on from there. -/
def sessionCalls (json : SerdeJson) (nsp : NameSpace) (calls : List Call) : List EngineIo.EmitCall :=
  (connectPacket nsp).sendCall json :: calls.map (Call.emitCall json nsp)

theorem stream_sessionCalls (hn : ValidNsp nsp) (calls : List Call) (hc : ∀ call ∈ calls, call.Admissible json) :
    RawSocket.stream json (((sessionCalls json nsp calls).flatMap EngineIo.EmitCall.packets).map .ok) =
      ⟨.ok (connectPacket nsp).arrived ::
        (calls.filterMap (Call.packet nsp)).map (fun packet => .ok packet.arrived),false⟩ := by
  have hpackets : ((sessionCalls json nsp calls).flatMap EngineIo.EmitCall.packets).map Except.ok =
      ((connectPacket nsp).sendCall json).packets.map (Except.ok : EngineIo.Packet → EngineItem) ++
        (calls.flatMap (Call.group json nsp)).map .ok := by
    simp only [sessionCalls,List.flatMap_cons,List.flatMap_map,List.map_append]
    rfl
  have hconnect : (connectPacket nsp).Sendable json := bare_sendable hn _
  rw [hpackets,stream_group hconnect,stream_calls hn calls hc]
  rfl

theorem serve_sessionCalls (texts : Texts) {on : List NameSpace} (hn : ValidNsp nsp) (hon : nsp ∈ on)
    (calls : List Call) (hc : ∀ call ∈ calls, call.Admissible json ∧ call.Legible) :
    serve texts on (RawSocket.stream json
        (((sessionCalls json nsp calls).flatMap EngineIo.EmitCall.packets).map .ok)).items =
      some ⟨nsp,true,⟨.connect,none,none⟩ :: calls.filterMap Call.dispatch,calls.filterMap Call.acked⟩ := by
  have hitems := stream_sessionCalls hn calls (fun call hm => (hc call hm).1)
  have hconnect : awaitConnect (.ok (connectPacket nsp).arrived ::
      (calls.filterMap (Call.packet nsp)).map (fun packet => .ok packet.arrived)) =
      some (nsp,(calls.filterMap (Call.packet nsp)).map (fun packet => .ok packet.arrived)) := rfl
  have hpoll := @poll_calls json texts ((Endpoint.new nsp).handleConnect none) calls hc
  simp only [serve,hitems,hconnect,Option.bind_eq_bind,Option.bind_some,hon,↓reduceIte]
  exact congrArg some hpoll

end Deliveries

/-- A client connects over a websocket and sends events and acks, pings and pongs between them. If the transport has
taken everything, no attachment is broken up and no handler of the server's socket is caught pending, the server opens
the namespace of the client and dispatches its events and acks, all of them, in their order. -/
theorem session_dispatch (json : SerdeJson) (base64 : EngineIo.Base64Crate) (texts : Texts) (on : List NameSpace)
    (client server : EngineIo.Socket EngineIo.WebsocketTransport) (nsp : NameSpace) (calls : List Call)
    (incoming : List EngineIo.Message) (ticks : List EngineIo.Tick) (hn : ValidNsp nsp) (hon : nsp ∈ on)
    (hc : ∀ call ∈ calls, call.Admissible json ∧ call.Legible) (hfresh : client.transport.sent = [])
    (hsent : ∀ result ∈ (client.calls base64 (sessionCalls json nsp calls)).1, result = .ok ())
    (hs : ∀ packet ∈ (sessionCalls json nsp calls).flatMap EngineIo.EmitCall.packets,
      packet.Sendable ∧ EngineIo.FrameSafe packet)
    (hdelivered : incoming.filter EngineIo.Message.isData =
      (client.calls base64 (sessionCalls json nsp calls)).2.transport.sent)
    (hoffered : EngineIo.offered ticks =
      EngineIo.stream base64 (EngineIo.WebsocketTransport.stream (incoming.map .ok)))
    (hready : EngineIo.AllReady base64 server ticks) :
    serve texts on (RawSocket.stream json (EngineIo.items (server.pollAll base64 ticks))).items =
      some ⟨nsp,true,⟨.connect,none,none⟩ :: calls.filterMap Call.dispatch,calls.filterMap Call.acked⟩ := by
  have hwire := EngineIo.calls_sent base64 hsent
  rw [hfresh,List.nil_append] at hwire
  have harrives : List.Forall₂ EngineIo.Arrives ((sessionCalls json nsp calls).flatMap EngineIo.EmitCall.packets)
      (EngineIo.stream base64 (EngineIo.WebsocketTransport.stream (incoming.map .ok))) := by
    rw [EngineIo.stream_filter_isData,hdelivered,hwire,EngineIo.stream_toMessage]
    exact (EngineIo.stream_toFrame_iff base64 (fun packet hm => (hs packet hm).1)).mpr (fun packet hm => (hs packet hm).2)
  rw [EngineIo.items_pollAll hready,hoffered,stream_arrives harrives]
  exact serve_sessionCalls texts hn hon calls hc

/-- The same over polling, where every packet is a POST of its own among the requests of other sessions; attachments
are not broken up there. -/
theorem session_dispatch_posted (json : SerdeJson) (base64 : EngineIo.Base64Crate) (hb : base64.Standard)
    (texts : Texts) (on : List NameSpace) (client : EngineIo.Socket EngineIo.ClientPollingTransport)
    (server : EngineIo.Socket EngineIo.ServerPollingTransport) (nsp : NameSpace) (calls : List Call)
    (handles : EngineIo.PollingHandles) (sid : String) (requests : List (String × Bytes)) (hn : ValidNsp nsp)
    (hon : nsp ∈ on)
    (hc : ∀ call ∈ calls, call.Admissible json ∧ call.Legible) (hfresh : client.transport.posted = [])
    (hhandle : handles.lookup sid = some ⟨[],false⟩)
    (hsent : ∀ result ∈ (client.calls base64 (sessionCalls json nsp calls)).1, result = .ok ())
    (hs : ∀ packet ∈ (sessionCalls json nsp calls).flatMap EngineIo.EmitCall.packets, packet.Separable)
    (hdelivered : EngineIo.bodiesOf sid requests =
      (client.calls base64 (sessionCalls json nsp calls)).2.transport.posted) :
    ∃ inbox, (EngineIo.pollingPosts handles requests).lookup sid = some inbox ∧
      ∀ ticks, EngineIo.offered ticks = EngineIo.stream base64 (EngineIo.ServerPollingTransport.stream inbox) →
        EngineIo.AllReady base64 server ticks →
        serve texts on (RawSocket.stream json (EngineIo.items (server.pollAll base64 ticks))).items =
        some ⟨nsp,true,⟨.connect,none,none⟩ :: calls.filterMap Call.dispatch,calls.filterMap Call.acked⟩ := by
  have hposted := EngineIo.Socket.calls_log EngineIo.emit_posted hsent
  rw [hfresh,List.nil_append,funext (EngineIo.pollingBody_toData base64)] at hposted
  refine ⟨_,EngineIo.lookup_pollingPosts hhandle requests,?_⟩
  intro ticks hoffered hready
  rw [EngineIo.items_pollAll hready,hoffered,EngineIo.ServerPollingTransport.stream,List.nil_append,hdelivered,hposted,
    EngineIo.stream_toBytes hb hs]
  exact serve_sessionCalls texts hn hon calls hc

section Example

def samplePayload : Payload := .multi [.binary [1,2],.json (.number (.posInt 3))]

def sampleCalls : List Call := [.emitWithAck (.custom "foo") samplePayload 7,.engine .ping []]

def sampleEncoder : SerdeJson := sampleJson [.array [.string "foo",binaryPlaceHolder 0,.number (.posInt 3)]]

theorem sampleCalls_fit : ∀ call ∈ sampleCalls, call.Admissible sampleEncoder ∧ call.Legible := by
  intro call hcall
  rcases List.mem_cons.mp hcall with rfl | hcall
  · refine ⟨⟨?_,?_⟩,?_,?_⟩
    · rintro m ⟨⟩
      decide
    · rintro m ⟨⟩
      exact sampleJson_faithful _
    · rintro m ⟨⟩ - v hv
      simp only [samplePayload,Payload.parts,List.mem_cons,reduceCtorEq,false_or,RawPayload.json.injEq,
        List.not_mem_nil,or_false] at hv
      rw [hv]
      rfl
    · rintro event payload ⟨⟩
      exact ⟨by decide +kernel,by decide⟩
  · cases List.mem_singleton.mp hcall
    exact ⟨⟨by rintro m ⟨⟩,by rintro m ⟨⟩⟩,by rintro m ⟨⟩,by rintro event payload ⟨⟩⟩

instance (packet : EngineIo.Packet) : Decidable packet.Sendable := inferInstanceAs (Decidable (_ → _))

instance (packet : EngineIo.Packet) : Decidable (EngineIo.FrameSafe packet) := inferInstanceAs (Decidable (_ → _))

def sampleMessages : List EngineIo.Message :=
  ((sessionCalls sampleEncoder "/admin" sampleCalls).flatMap EngineIo.EmitCall.packets).map
    (EngineIo.Packet.toMessage EngineIo.rfc4648)

def sampleTicks : List EngineIo.Tick := EngineIo.ticksOf
  (EngineIo.stream EngineIo.rfc4648 (EngineIo.WebsocketTransport.stream (sampleMessages.map .ok)))

theorem session_dispatch_sample : serve ⟨fun _ => "",fun _ => ""⟩ ["/admin"]
    (RawSocket.stream sampleEncoder (EngineIo.items
      (EngineIo.freshWebsocketSocket.pollAll EngineIo.rfc4648 sampleTicks))).items =
    some ⟨"/admin",true,[⟨.connect,none,none⟩,⟨.custom "foo",some samplePayload,some 7⟩],[]⟩ :=
  session_dispatch sampleEncoder EngineIo.rfc4648 ⟨fun _ => "",fun _ => ""⟩ ["/admin"] EngineIo.freshWebsocketSocket
    EngineIo.freshWebsocketSocket "/admin" sampleCalls sampleMessages sampleTicks ⟨by decide,by decide⟩ (by decide)
    sampleCalls_fit rfl (by decide +kernel) (by decide +kernel) (by decide +kernel) (EngineIo.offered_ticksOf _)
    (EngineIo.allReady_ticksOf _ _ _)

instance (packet : EngineIo.Packet) : Decidable packet.Separable := inferInstanceAs (Decidable (_ → _))

def sampleRequests : List (String × Bytes) :=
  ((sessionCalls sampleEncoder "/admin" sampleCalls).flatMap EngineIo.EmitCall.packets).flatMap
    (fun packet => [("MQ==",[50]),("MA==",packet.toBytes EngineIo.rfc4648)])

def pollingServer : EngineIo.Socket EngineIo.ServerPollingTransport := ⟨⟨[],false⟩,true,"MA==",true,false,[]⟩

theorem session_dispatch_posted_sample :
    ∃ inbox, (EngineIo.pollingPosts (AList.singleton "MA==" ⟨[],false⟩) sampleRequests).lookup "MA==" = some inbox ∧
      serve ⟨fun _ => "",fun _ => ""⟩ ["/admin"] (RawSocket.stream sampleEncoder (EngineIo.items
          (pollingServer.pollAll EngineIo.rfc4648 (EngineIo.ticksOf
            (EngineIo.stream EngineIo.rfc4648 (EngineIo.ServerPollingTransport.stream inbox)))))).items =
        some ⟨"/admin",true,[⟨.connect,none,none⟩,⟨.custom "foo",some samplePayload,some 7⟩],[]⟩ := by
  obtain ⟨inbox,hinbox,hserve⟩ := session_dispatch_posted sampleEncoder EngineIo.rfc4648 EngineIo.rfc4648_standard
    ⟨fun _ => "",fun _ => ""⟩ ["/admin"] EngineIo.freshClientSocket pollingServer "/admin" sampleCalls
    (AList.singleton "MA==" ⟨[],false⟩) "MA==" sampleRequests ⟨by decide,by decide⟩ (by decide) sampleCalls_fit rfl rfl
    (by decide +kernel) (by decide +kernel) (by decide +kernel)
  exact ⟨inbox,hinbox,hserve _ (EngineIo.offered_ticksOf _) (EngineIo.allReady_ticksOf _ _ _)⟩

end Example

end SocketIox.SocketIo
