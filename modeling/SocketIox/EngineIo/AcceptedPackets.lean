import SocketIox.EngineIo.WebsocketDelivery

/-! # What a call brings out

A call of `emit` or `emit_multi` hands its packets to the transport one by one and stops at
the first one that is refused. What was accepted before that is a beginning of the packets
of the call, and all of them if and only if the call succeeds.
-/
namespace SocketIox.EngineIo
variable {τ : Type} [Transport τ]

/-- The packets that the transport takes before it refuses one. -/
def Socket.accepted (base64 : Base64Crate) (socket : Socket τ) : List Packet → List Packet
  | [] => []
  | packet :: rest =>
    match socket.transmit base64 packet with
    | (.ok _,next) => packet :: next.accepted base64 rest
    | (.error _,_) => []

def Socket.acceptedCall (base64 : Base64Crate) (socket : Socket τ) (call : EmitCall) : List Packet :=
  if socket.connected then socket.accepted base64 call.packets else []

variable {base64 : Base64Crate} {socket next : Socket τ}

theorem Socket.accepted_isPrefix (base64 : Base64Crate) (socket : Socket τ) (packets : List Packet) :
    socket.accepted base64 packets <+: packets := by
  induction packets generalizing socket with
  | nil => exact List.nil_prefix
  | cons packet rest ih =>
    rw [Socket.accepted]
    split
    · rename_i next _
      exact List.cons_prefix_cons.mpr ⟨rfl,ih next⟩
    · exact List.nil_prefix

theorem Socket.acceptedCall_isPrefix (base64 : Base64Crate) (socket : Socket τ) (call : EmitCall) :
    socket.acceptedCall base64 call <+: call.packets := by
  unfold Socket.acceptedCall
  split
  · exact Socket.accepted_isPrefix base64 socket call.packets
  · exact List.nil_prefix

theorem Socket.accepted_of_ok {packets : List Packet} (h : socket.emitMultiLoop base64 packets = (.ok (),next)) :
    socket.accepted base64 packets = packets := by
  induction packets generalizing socket with
  | nil => rfl
  | cons packet rest ih =>
    rw [Socket.emitMultiLoop] at h
    rw [Socket.accepted]
    cases ht : socket.transmit base64 packet with
    | mk result middle =>
      rw [ht] at h
      cases result with
      | error e => cases h
      | ok _ => exact congrArg (packet :: ·) (ih h)

theorem Socket.emitMultiLoop_of_accepted {packets : List Packet} (h : socket.accepted base64 packets = packets) :
    ∃ next, socket.emitMultiLoop base64 packets = (.ok (),next) := by
  induction packets generalizing socket with
  | nil => exact ⟨socket,rfl⟩
  | cons packet rest ih =>
    rw [Socket.accepted] at h
    rw [Socket.emitMultiLoop]
    cases ht : socket.transmit base64 packet with
    | mk result middle =>
      rw [ht] at h
      cases result with
      | error e => cases h
      | ok _ => exact ih (List.cons.inj h).2

theorem Socket.acceptedCall_of_ok {call : EmitCall} (h : socket.call base64 call = (.ok (),next)) :
    socket.acceptedCall base64 call = call.packets := by
  by_cases hc : socket.connected = true
  · rw [Socket.call_of_connected hc] at h
    rw [Socket.acceptedCall,if_pos hc]
    exact Socket.accepted_of_ok h
  · rw [Socket.call_of_closed hc] at h
    cases h

theorem Socket.call_of_accepted {call : EmitCall} (hc : socket.connected = true)
    (h : socket.accepted base64 call.packets = call.packets) :
    ∃ next, socket.call base64 call = (.ok (),next) := by
  rw [Socket.call_of_connected hc]
  exact Socket.emitMultiLoop_of_accepted h

section Log
variable {α : Type} {log : τ → List α} {item : Data → α}

/-- A transport that records nothing of what it refuses. -/
def Refuses (base64 : Base64Crate) (log : τ → List α) : Prop :=
  ∀ transport data e next, Transport.emit base64 transport data = (.error e,next) → log next = log transport

theorem Socket.transmit_error_log (hr : Refuses base64 log) {packet : Packet} {e : Error}
    (h : socket.transmit base64 packet = (.error e,next)) : log next.transport = log socket.transport := by
  unfold Socket.transmit at h
  split at h
  · cases h
  · rename_i he
    cases h
    rw [Socket.onError,Socket.publish]
    split <;> exact hr _ _ _ _ he

theorem Socket.emitMultiLoop_accepted (hl : Logs base64 log item) (hr : Refuses base64 log) (socket : Socket τ)
    (packets : List Packet) :
    log (socket.emitMultiLoop base64 packets).2.transport =
      log socket.transport ++ (socket.accepted base64 packets).map (fun packet => item (packet.toData base64)) := by
  induction packets generalizing socket with
  | nil => simp [Socket.emitMultiLoop,Socket.accepted]
  | cons packet rest ih =>
    rw [Socket.emitMultiLoop,Socket.accepted]
    cases ht : socket.transmit base64 packet with
    | mk result next =>
      cases result with
      | ok _ =>
        rw [ih next,Socket.transmit_log hl ht]
        simp
      | error e =>
        rw [Socket.transmit_error_log hr ht]
        simp

/-- A transport that refuses cleanly has recorded the accepted packets of a call, also of a failed one. -/
theorem Socket.call_accepted (hl : Logs base64 log item) (hr : Refuses base64 log) (socket : Socket τ)
    (call : EmitCall) :
    log (socket.call base64 call).2.transport =
      log socket.transport ++ (socket.acceptedCall base64 call).map (fun packet => item (packet.toData base64)) := by
  by_cases hc : socket.connected = true
  · rw [Socket.acceptedCall,if_pos hc,Socket.call_of_connected hc]
    exact Socket.emitMultiLoop_accepted hl hr socket call.packets
  · rw [Socket.acceptedCall,if_neg hc,Socket.call_of_closed hc,Socket.onError,Socket.publish]
    split <;> simp

theorem websocket_refuses (base64 : Base64Crate) : Refuses base64 WebsocketTransport.sent := by
  intro transport data e next h
  simp only [Transport.emit,WebsocketTransport.emit] at h
  split at h
  · cases h
    rfl
  · split at h
    · cases h
      rfl
    · cases h

end Log

end SocketIox.EngineIo
