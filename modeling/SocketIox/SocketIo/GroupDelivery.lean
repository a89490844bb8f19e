import SocketIox.EngineIo.WebsocketDelivery
import SocketIox.Proc.Exclusive
import SocketIox.SocketIo.MessageFidelity

/-! # Concurrent sends on one socket

Tasks send packets and engine-level keepalives through one transport lock. Since
the lock is held for a whole group, the peer's stream finds every header followed
by its own attachments, whatever the interleaving.
-/
namespace SocketIox.SocketIo
open Wire Proc Proc.Exclusive

inductive Keepalive where
  | ping
  | pong
  | noop
  deriving DecidableEq, Repr

def Keepalive.ptype : Keepalive → EngineIo.PacketType
  | .ping => .ping
  | .pong => .pong
  | .noop => .noop

/-- A send, or an emit on the engine socket below. The id of `emitWithAck` is the
one its generator gave. -/
inductive Call where
  | emit (event : Event) (payload : Payload)
  | ack (id : UInt64) (payload : Payload)
  | emitWithAck (event : Event) (payload : Payload) (id : UInt64)
  | engine (keepalive : Keepalive) (data : Bytes)

namespace Call

def message : Call → Option (Option Event × Payload)
  | .emit event payload => some (some event,payload)
  | .ack _ payload => some (none,payload)
  | .emitWithAck event payload _ => some (some event,payload)
  | .engine _ _ => none

def packet (nsp : String) : Call → Option Packet
  | .emit event payload => some (buildPacketForPayload payload (some event) nsp none false)
  | .ack id payload => some (buildPacketForPayload payload none nsp (some id) true)
  | .emitWithAck event payload id => some (buildPacketForPayload payload (some event) nsp (some id) false)
  | .engine _ _ => none

/-- The call to the engine socket, which takes the transport lock once. -/
def emitCall (json : SerdeJson) (nsp : String) : Call → EngineIo.EmitCall
  | .emit event payload => (buildPacketForPayload payload (some event) nsp none false).sendCall json
  | .ack id payload => (buildPacketForPayload payload none nsp (some id) true).sendCall json
  | .emitWithAck event payload id =>
    (buildPacketForPayload payload (some event) nsp (some id) false).sendCall json
  | .engine keepalive data => .emit ⟨keepalive.ptype,data⟩

def group (json : SerdeJson) (nsp : String) (call : Call) : List EngineIo.Packet :=
  (call.emitCall json nsp).packets

/-- At most 255 attachments, and a serializer that is faithful on the data. -/
structure Admissible (json : SerdeJson) (call : Call) : Prop where
  count : ∀ m, call.message = some m → (binaries m.2.parts).length ≤ 255
  json : ∀ m, call.message = some m → json.Faithful (encodeData m.1 m.2).1

theorem packet_sendable {json : SerdeJson} {nsp : String} {call : Call} (hc : call.Admissible json)
    (hn : ValidNsp nsp) {packet : Packet} (hp : call.packet nsp = some packet) : packet.Sendable json := by
  cases call with
  | emit event payload =>
    cases hp
    exact buildPacketForPayload_sendable hn (hc.count _ rfl) (hc.json _ rfl) none false
  | ack id payload =>
    cases hp
    exact buildPacketForPayload_sendable hn (hc.count _ rfl) (hc.json _ rfl) (some id) true
  | emitWithAck event payload id =>
    cases hp
    exact buildPacketForPayload_sendable hn (hc.count _ rfl) (hc.json _ rfl) (some id) false
  | engine keepalive data => cases hp

end Call

section Stream
variable {json : SerdeJson}

theorem stream_group {packet : Packet} (hs : packet.Sendable json) (rest : List EngineItem) :
    RawSocket.stream json ((packet.sendCall json).packets.map .ok ++ rest) =
      (RawSocket.stream json rest).cons (.ok packet.arrived) := by
  have hheader : isMessage (packet.header json).ptype = true := rfl
  rw [Packet.sendCall_packets,List.map_cons,List.cons_append,stream_message hheader,
    handleEngineioPacket_group hs]

theorem stream_call {nsp : String} (hn : ValidNsp nsp) {call : Call} (hc : call.Admissible json)
    (rest : List EngineItem) :
    RawSocket.stream json ((call.group json nsp).map .ok ++ rest) =
      match call.packet nsp with
      | some packet => (RawSocket.stream json rest).cons (.ok packet.arrived)
      | none => RawSocket.stream json rest := by
  cases call with
  | emit event payload => exact stream_group (Call.packet_sendable hc hn rfl) rest
  | ack id payload => exact stream_group (Call.packet_sendable hc hn rfl) rest
  | emitWithAck event payload id => exact stream_group (Call.packet_sendable hc hn rfl) rest
  | engine keepalive data =>
    apply stream_skip
    cases keepalive <;> rfl

theorem stream_calls {nsp : String} (hn : ValidNsp nsp) (calls : List Call)
    (hc : ∀ call ∈ calls, call.Admissible json) :
    RawSocket.stream json ((calls.flatMap (Call.group json nsp)).map .ok) =
      ⟨(calls.filterMap (Call.packet nsp)).map (fun packet => .ok packet.arrived),false⟩ := by
  induction calls with
  | nil => simp [RawSocket.stream]
  | cons call calls ih =>
    have hr := ih (fun c h => hc c (List.mem_cons_of_mem _ h))
    rw [List.flatMap_cons,List.map_append,stream_call hn (hc call List.mem_cons_self),hr]
    cases hp : call.packet nsp with
    | none => simp [hp]
    | some packet => simp [hp,Yielded.cons]

end Stream

section Concurrent
variable {ι : Type} [DecidableEq ι]

theorem calls_sent_log {json : SerdeJson} {nsp : String} {programs : ι → List Call} {acts : List (Act ι)}
    {s : State ι Call EngineIo.Packet}
    (hrun : run (step (Call.group json nsp)) (initial programs) acts = some s) (hf : Finished s) :
    ∃ order : List (ι × Call), (∀ i, jobsOf i order = programs i) ∧
      ∀ (base64 : EngineIo.Base64Crate) (socket : EngineIo.Socket EngineIo.WebsocketTransport),
        (∀ result ∈ (socket.calls base64 (order.map (fun job => job.2.emitCall json nsp))).1, result = .ok ()) →
        (socket.calls base64 (order.map (fun job => job.2.emitCall json nsp))).2.transport.sent =
          socket.transport.sent ++ s.log.map (EngineIo.Packet.toMessage base64) := by
  obtain ⟨order,hlog,horder⟩ := log_of_finished _ programs hrun hf
  refine ⟨order,horder,?_⟩
  intro base64 socket hsent
  rw [EngineIo.calls_sent base64 hsent,hlog,List.flatMap_map]
  rfl

theorem mem_programs {programs : ι → List Call} {order : List (ι × Call)}
    (h : ∀ i, jobsOf i order = programs i) {job : ι × Call} (hj : job ∈ order) : job.2 ∈ programs job.1 := by
  rw [← h job.1]
  apply List.mem_map.mpr
  exact ⟨job,List.mem_filter.mpr ⟨hj,by simp⟩,rfl⟩

/-- After any run in which all sends are done, the peer's stream yields the sent packets,
those of each task in the task's order, and nothing else. -/
def ArriveWhole (json : SerdeJson) (nsp : String) (programs : ι → List Call) : Prop :=
  ∀ acts s, run (step (Call.group json nsp)) (initial programs) acts = some s → Finished s →
    ∃ order : List (ι × Call), (∀ i, jobsOf i order = programs i) ∧
      RawSocket.stream json (s.log.map .ok) =
        ⟨(order.filterMap (fun job => job.2.packet nsp)).map (fun packet => .ok packet.arrived),false⟩

theorem sends_arrive_whole (json : SerdeJson) (nsp : String) (hn : ValidNsp nsp) (programs : ι → List Call)
    (hc : ∀ i, ∀ call ∈ programs i, call.Admissible json) : ArriveWhole json nsp programs := by
  intro acts s hrun hfinished
  obtain ⟨order,hlog,horder⟩ := log_of_finished _ programs hrun hfinished
  refine ⟨order,horder,?_⟩
  have hcalls : ∀ call ∈ order.map Prod.snd, call.Admissible json := by
    intro call hcall
    obtain ⟨job,hjob,rfl⟩ := List.mem_map.mp hcall
    exact hc job.1 job.2 (mem_programs horder hjob)
  have hstream := stream_calls hn _ hcalls
  rw [List.flatMap_map,List.filterMap_map] at hstream
  rw [hlog]
  exact hstream

end Concurrent

def ackAndPing : Bool → List Call
  | true => [.ack 5 (.multi [.binary [1],.binary [2]])]
  | false => [.engine .ping []]

theorem sends_arrive_whole_ackAndPing :
    ArriveWhole (sampleJson [.array [binaryPlaceHolder 0,binaryPlaceHolder 1]]) "/" ackAndPing ∧
    ∃ s, run (step (Call.group (sampleJson [.array [binaryPlaceHolder 0,binaryPlaceHolder 1]]) "/"))
        (initial ackAndPing) [.acquire true,.write,.write,.write,.release,.acquire false,.write,.release] =
          some s ∧ Finished s := by
  constructor
  · apply sends_arrive_whole _ _ ⟨by decide,by decide⟩
    intro i call hcall
    cases i with
    | true =>
      cases List.mem_singleton.mp hcall
      refine ⟨?_,?_⟩
      · rintro m ⟨⟩
        decide
      · rintro m ⟨⟩
        exact sampleJson_faithful _
    | false =>
      cases List.mem_singleton.mp hcall
      exact ⟨by rintro m ⟨⟩,by rintro m ⟨⟩⟩
  · refine ⟨_,rfl,rfl,?_⟩
    intro i
    cases i <;> rfl

/-- A namespace with a comma is cut at it, and its rest is no JSON. -/
theorem sends_broken_by_comma :
    ¬ ArriveWhole (sampleJson [.array [.string "foo",.null]]) "/a,b"
      (fun _ : Unit => [.emit (.custom "foo") (.json .null)]) := by
  intro h
  obtain ⟨order,-,hstream⟩ := h [.acquire (),.write,.release] _ rfl ⟨rfl,fun _ => rfl⟩
  have hdecode : Packet.tryFrom (sampleJson [.array [.string "foo",.null]])
      (Packet.toBytes (sampleJson [.array [.string "foo",.null]])
        (buildPacketForPayload (.json .null) (some (.custom "foo")) "/a,b" none false)) =
      .error (.invalidJson "expected value") := rfl
  have hmalformed := (stream_message (m := ⟨.message,_⟩) rfl []).trans (by rw [handleEngineioPacket,hdecode])
  have hitems := congrArg Yielded.items (hmalformed.symm.trans hstream)
  cases ho : order.filterMap (fun job => job.2.packet "/a,b") with
  | nil => simp [ho] at hitems
  | cons packet packets => simp [ho] at hitems

end SocketIox.SocketIo
