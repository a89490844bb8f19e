import SocketIox.EngineIo.PolledStream
import SocketIox.SocketIo.Session

/-! # A session from the server's side

The server answers the connect packet with the session id and sends events and acks, while the
client gets them by polling. Whenever it polls, its socket calls back the answer and then the
events, and takes up the acks, in the order in which they were sent.
-/
namespace SocketIox.SocketIo
open Wire Proc

/-- What `insert_clients` passes to `handshake`. -/
def handshakeData (sid : Sid) : Value := .object [("sid",.string sid)]

def handshakeReply (nsp : NameSpace) (sid : Sid) : Packet := ⟨.connect,nsp,some (handshakeData sid),none,0,none⟩

/-- The calls to the engine socket of a server's client, from the handshake on. -/
def replyCalls (json : SerdeJson) (nsp : NameSpace) (sid : Sid) (calls : List Call) : List EngineIo.EmitCall :=
  (handshakeReply nsp sid).sendCall json :: calls.map (Call.emitCall json nsp)

section Replies
variable {json : SerdeJson} {nsp : NameSpace} {sid : Sid}

theorem handshakeReply_sendable (hn : ValidNsp nsp) (hjson : json.Faithful (handshakeData sid)) :
    (handshakeReply nsp sid).Sendable json where
  nsp := hn
  count := rfl
  binary _ := rfl
  encodable := Or.inr ⟨handshakeData sid,rfl,id,hjson⟩

theorem stream_replyCalls (hn : ValidNsp nsp) (hjson : json.Faithful (handshakeData sid)) (calls : List Call)
    (hc : ∀ call ∈ calls, call.Admissible json) :
    RawSocket.stream json (((replyCalls json nsp sid calls).flatMap EngineIo.EmitCall.packets).map .ok) =
      ⟨.ok (handshakeReply nsp sid).arrived ::
        (calls.filterMap (Call.packet nsp)).map (fun packet => .ok packet.arrived),false⟩ := by
  have hpackets : ((replyCalls json nsp sid calls).flatMap EngineIo.EmitCall.packets).map Except.ok =
      ((handshakeReply nsp sid).sendCall json).packets.map (Except.ok : EngineIo.Packet → EngineItem) ++
        (calls.flatMap (Call.group json nsp)).map .ok := by
    simp only [replyCalls,List.flatMap_cons,List.flatMap_map,List.map_append]
    rfl
  rw [hpackets,stream_group (handshakeReply_sendable hn hjson),stream_calls hn calls hc]
  rfl

theorem poll_handshakeReply (texts : Texts) (nsp : NameSpace) (sid : Sid) :
    (Endpoint.new nsp).pollItem texts (.ok (handshakeReply nsp sid).arrived) =
      ⟨nsp,true,[⟨.connect,some (.json (handshakeData sid)),none⟩],[]⟩ := by
  simp only [Endpoint.pollItem,Endpoint.handleSocketioPacket]
  exact if_pos rfl

end Replies

/-- The client polls a socket whose server answers and sends texts. However emits and GETs take turns, if the client
has got everything in the end, every body in one chunk, and no handler of its socket is caught pending, its socket has
called back the handshake and all events, and has taken up all acks, in their order. -/
theorem reply_dispatch_polled (json : SerdeJson) (base64 : EngineIo.Base64Crate) (hb : base64.Standard) (texts : Texts)
    (nsp : NameSpace) (sid : Sid) (calls : List Call) (acts : List EngineIo.PolledAct) (s t : EngineIo.Polled)
    (client : EngineIo.Socket EngineIo.ClientPollingTransport) (responses : List (List Bytes))
    (ticks : List EngineIo.Tick) (hn : ValidNsp nsp) (hjson : json.Faithful (handshakeData sid))
    (hc : ∀ call ∈ calls, call.Admissible json ∧ call.Legible) (hfresh : s.socket.transport.queue = [])
    (hnew : s.emitted = [] ∧ s.bodies = []) (hrun : run (EngineIo.Polled.step base64) s acts = some t)
    (htexts : Along (EngineIo.Polled.step base64) EngineIo.Polled.Readable s acts)
    (hemitted : t.emitted = (replyCalls json nsp sid calls).flatMap EngineIo.EmitCall.packets)
    (hdrained : t.socket.transport.queue = []) (harrives : t.Arrives responses)
    (hone : ∀ chunks ∈ responses, chunks.length = 1)
    (hoffered : EngineIo.offered ticks =
      EngineIo.stream base64 (EngineIo.ClientPollingTransport.stream (EngineIo.arriving responses)))
    (hready : EngineIo.AllReady base64 client ticks) :
    (Endpoint.new nsp).poll texts (RawSocket.stream json (EngineIo.items (client.pollAll base64 ticks))).items =
      ⟨nsp,true,⟨.connect,some (.json (handshakeData sid)),none⟩ :: calls.filterMap Call.dispatch,
        calls.filterMap Call.acked⟩ := by
  obtain ⟨delivered,rest,hstream,hqueue,hall⟩ :=
    EngineIo.Polled.polled_stream hb hfresh hnew htexts hrun harrives hone
  have hrest : rest = [] := by
    rw [hdrained] at hqueue
    exact List.map_eq_nil_iff.mp hqueue.symm
  rw [hrest,List.append_nil,hemitted] at hall
  have hitems := stream_replyCalls hn hjson calls (fun call hm => (hc call hm).1)
  rw [EngineIo.items_pollAll hready,hoffered,hstream,hall,hitems,Endpoint.poll_cons,poll_handshakeReply]
  exact @poll_calls json texts ⟨nsp,true,[⟨.connect,some (.json (handshakeData sid)),none⟩],[]⟩ calls hc

section Example

def sampleReplies : List Call := [.emit (.custom "foo") (.json (.number (.posInt 3))),.engine .ping []]

def replyEncoder : SerdeJson :=
  sampleJson [handshakeData "TUE9PS0w",.array [.string "foo",.number (.posInt 3)]]

theorem replyEncoder_faithful : replyEncoder.Faithful (handshakeData "TUE9PS0w") ∧
    replyEncoder.Faithful (.array [.string "foo",.number (.posInt 3)]) :=
  ⟨⟨by rfl,'{',_,by rfl,rfl⟩,⟨by rfl,'[',_,by rfl,rfl⟩⟩

theorem sampleReplies_fit : ∀ call ∈ sampleReplies, call.Admissible replyEncoder ∧ call.Legible := by
  intro call hcall
  rcases List.mem_cons.mp hcall with rfl | hcall
  · refine ⟨⟨?_,?_⟩,?_,?_⟩
    · rintro m ⟨⟩
      decide
    · rintro m ⟨⟩
      exact replyEncoder_faithful.2
    · rintro m ⟨⟩ hbinary
      exact absurd rfl hbinary
    · rintro event payload ⟨⟩
      exact ⟨by decide +kernel,by decide⟩
  · cases List.mem_singleton.mp hcall
    exact ⟨⟨by rintro m ⟨⟩,by rintro m ⟨⟩⟩,by rintro m ⟨⟩,by rintro event payload ⟨⟩⟩

def replyActs : List EngineIo.PolledAct :=
  match replyCalls replyEncoder "/admin" "TUE9PS0w" sampleReplies with
  | first :: rest => .call first :: .get :: rest.map .call ++ [.get]
  | [] => []

instance (s : EngineIo.Polled) (act : EngineIo.PolledAct) : Decidable (s.Readable act) :=
  match act with
  | .call c => inferInstanceAs (Decidable (∀ packet ∈ c.packets, packet.Sendable ∧ packet.ptype ≠ .messageBinary))
  | .get => isTrue trivial

theorem reply_dispatch_polled_sample : ∃ t responses,
    run (EngineIo.Polled.step EngineIo.rfc4648) ⟨EngineIo.freshPollingSocket,[],[]⟩ replyActs = some t ∧
      t.Arrives responses ∧ responses.length = 2 ∧ (Endpoint.new "/admin").poll ⟨fun _ => "",fun _ => ""⟩
          (RawSocket.stream replyEncoder (EngineIo.items (EngineIo.freshClientSocket.pollAll EngineIo.rfc4648
            (EngineIo.ticksOf (EngineIo.stream EngineIo.rfc4648
              (EngineIo.ClientPollingTransport.stream (EngineIo.arriving responses))))))).items =
        ⟨"/admin",true,[⟨.connect,some (.json (handshakeData "TUE9PS0w")),none⟩,
          ⟨.custom "foo",some (.json (.number (.posInt 3))),none⟩],[]⟩ := by
  obtain ⟨t,ht⟩ : ∃ t, run (EngineIo.Polled.step EngineIo.rfc4648) ⟨EngineIo.freshPollingSocket,[],[]⟩ replyActs =
      some t := ⟨_,rfl⟩
  have harrives : t.Arrives (t.bodies.map (fun body => [body.getD []])) := by
    cases ht
    rfl
  refine ⟨t,_,ht,harrives,?_,?_⟩
  · cases ht
    rfl
  · refine reply_dispatch_polled replyEncoder EngineIo.rfc4648 EngineIo.rfc4648_standard ⟨fun _ => "",fun _ => ""⟩
      "/admin" "TUE9PS0w" sampleReplies replyActs ⟨EngineIo.freshPollingSocket,[],[]⟩ t EngineIo.freshClientSocket _ _
      ⟨by decide,by decide⟩ replyEncoder_faithful.1 sampleReplies_fit rfl ⟨rfl,rfl⟩ ht (by decide +kernel) ?_ ?_ harrives
      ?_ (EngineIo.offered_ticksOf _) (EngineIo.allReady_ticksOf _ _ _)
    · cases ht
      decide +kernel
    · cases ht
      decide +kernel
    · intro chunks hm
      obtain ⟨body,-,rfl⟩ := List.mem_map.mp hm
      rfl

end Example

end SocketIox.SocketIo
