import SocketIox.SocketIo.Acks
import SocketIox.SocketIo.FailedGroup

/-! # Registering an ack and sending its message

`emit_with_ack` takes an id, pushes the entry and only then sends the packet. The entry of a
message that could not be sent stays among the outstanding ones.
-/
namespace SocketIox.SocketIo
open Wire

/-- The engine socket is open and its transport takes all packets of the group. -/
def Carries {τ : Type} [EngineIo.Transport τ] (json : SerdeJson) (base64 : EngineIo.Base64Crate)
    (engineClient : EngineIo.Socket τ) (packet : Packet) : Prop :=
  engineClient.connected = true ∧
    engineClient.accepted base64 (packet.sendCall json).packets = (packet.sendCall json).packets

structure AckSocket (τ : Type) where
  acks : AckState
  isConnected : Bool
  socket : EngineIo.Socket τ

section Emit
variable {τ : Type} [EngineIo.Transport τ] (json : SerdeJson) (base64 : EngineIo.Base64Crate)

theorem send_ok_iff (engineClient : EngineIo.Socket τ) (packet : Packet) :
    (RawSocket.send json base64 engineClient packet).1 = .ok () ↔ Carries json base64 engineClient packet := by
  constructor
  · intro h
    cases hsend : RawSocket.send json base64 engineClient packet with
    | mk result next =>
      rw [hsend] at h
      cases h
      have haccepted := acceptedCall_of_send hsend
      by_cases hc : engineClient.connected = true
      · rw [EngineIo.Socket.acceptedCall,if_pos hc] at haccepted
        exact ⟨hc,haccepted⟩
      · rw [RawSocket.send,if_pos (Bool.of_not_eq_true hc)] at hsend
        cases hsend
  · rintro ⟨hc,haccepted⟩
    obtain ⟨next,hnext⟩ := EngineIo.Socket.call_of_accepted hc haccepted
    have hopen : ¬ engineClient.connected = false := by simp [hc]
    rw [RawSocket.send,if_neg hopen,hnext]

def AckSocket.packetFor (s : AckSocket τ) (event : Event) (payload : Payload) : Packet :=
  buildPacketForPayload payload (some event) s.acks.nsp (some s.acks.seq) false

def AckSocket.emitWithAck (s : AckSocket τ) (event : Event) (payload : Payload) (timeout : ℕ) :
    Except Error Unit × AckSocket τ :=
  if s.isConnected then
    let packet := s.packetFor event payload
    let call : InFlight := ⟨s.acks.seq,timeout,s.acks.now,s.acks.calls⟩
    let acks := (s.acks.generate timeout).push s.acks.inFlight.length call s.acks.now
    let (result,socket) := RawSocket.send json base64 s.socket packet
    (result,{ s with acks := acks, socket := socket })
  else (.error .illegalActionBeforeOpen,s)

variable {json base64} {s : AckSocket τ} {event : Event} {payload : Payload} {timeout : ℕ}

theorem AckSocket.emitWithAck_outstanding (h : s.isConnected = true) :
    (s.emitWithAck json base64 event payload timeout).2.acks.outstanding =
      s.acks.outstanding ++ [⟨s.acks.seq,timeout,s.acks.now,s.acks.calls⟩] := by
  simp [AckSocket.emitWithAck,h,AckState.push,AckState.generate]

/-- The call is the two steps of the ack machine, with nothing in between. -/
theorem AckSocket.emitWithAck_steps (h : s.isConnected = true) :
    Proc.run AckState.step s.acks [.generate timeout,.push s.acks.inFlight.length s.acks.now] =
      some (s.emitWithAck json base64 event payload timeout).2.acks := by
  simp [Proc.run,AckState.step,AckSocket.emitWithAck,h,AckState.generate]

theorem AckSocket.emitWithAck_result (h : s.isConnected = true) :
    (s.emitWithAck json base64 event payload timeout).1 =
      (RawSocket.send json base64 s.socket (s.packetFor event payload)).1 := by
  simp [AckSocket.emitWithAck,h]

end Emit

/-- An error leaves the outstanding acks as they were if and only if the socket was not connected or the
message can be sent. -/
theorem emit_with_ack_atomic_iff {τ : Type} [EngineIo.Transport τ] (json : SerdeJson) (base64 : EngineIo.Base64Crate)
    (s : AckSocket τ) (event : Event) (payload : Payload) (timeout : ℕ) :
    (∀ e, (s.emitWithAck json base64 event payload timeout).1 = .error e →
      (s.emitWithAck json base64 event payload timeout).2.acks.outstanding = s.acks.outstanding) ↔
    s.isConnected = false ∨ Carries json base64 s.socket (s.packetFor event payload) := by
  cases hc : s.isConnected with
  | false => simp [AckSocket.emitWithAck,hc]
  | true =>
    simp only [AckSocket.emitWithAck_outstanding hc,AckSocket.emitWithAck_result hc,← send_ok_iff,
      List.append_right_eq_self,List.cons_ne_nil,reduceCtorEq,false_or,imp_false]
    cases (RawSocket.send json base64 s.socket (s.packetFor event payload)).1 with
    | ok _ => simp
    | error e => simp

/-- Connected, but the engine socket below has been closed. -/
def closedBelow : AckSocket EngineIo.ClientPollingTransport :=
  ⟨.fresh "/" 0,true,{ flakyClient 0 with connected := false }⟩

theorem emit_with_ack_leaves_entry :
    ¬ ∀ e, (closedBelow.emitWithAck fooJson EngineIo.rfc4648 (.custom "foo") (.binary [7]) 2000).1 = .error e →
      (closedBelow.emitWithAck fooJson EngineIo.rfc4648 (.custom "foo") (.binary [7]) 2000).2.acks.outstanding =
        closedBelow.acks.outstanding := by
  intro h
  have hentry := h .illegalActionBeforeOpen rfl
  rw [AckSocket.emitWithAck_outstanding rfl] at hentry
  cases hentry

end SocketIox.SocketIo
