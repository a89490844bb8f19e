import SocketIox.EngineIo.Transport
import SocketIox.Proc.TryStream

/-! # The engine.io socket

Emitting through the transport, publishing events, and the stream of packets
read from the transport. A `try_stream!` is the list of the items it yields: it
stops after its first error.
-/
namespace SocketIox.EngineIo
open Wire Proc.TryStream

/-- Published events; `onError` holds the error whose text the source sends. -/
inductive Event where
  | onOpen (sid : String)
  | onClose (sid : String)
  | onData (sid : String) (data : Bytes)
  | onPacket (sid : String) (packet : Packet)
  | onError (sid : String) (error : Error)
  deriving DecidableEq, Repr

/-- `hasEventTx` says whether an event channel is attached. -/
structure Socket (τ : Type) where
  transport : τ
  connected : Bool
  sid : String
  hasEventTx : Bool
  shouldPong : Bool
  events : List Event

section Emit
variable {τ : Type} [Transport τ] (base64 : Base64Crate)

def Socket.publish (socket : Socket τ) (event : Event) : Socket τ :=
  if socket.hasEventTx then { socket with events := socket.events ++ [event] } else socket

def Socket.onError (socket : Socket τ) (error : Error) : Socket τ :=
  socket.publish (.onError socket.sid error)

/-- How `emit` and `emit_multi` hand a packet to the transport. -/
def Packet.toData (packet : Packet) : Data :=
  match packet.ptype with
  | .messageBinary => .binary packet.data
  | _ => .text (packet.toBytes base64)

/-- The body shared by `emit` and the loop of `emit_multi`. -/
def Socket.transmit (socket : Socket τ) (packet : Packet) : Except Error Unit × Socket τ :=
  match Transport.emit base64 socket.transport (packet.toData base64) with
  | (.ok _,transport) => (.ok (),{ socket with transport := transport })
  | (.error e,transport) => (.error e,({ socket with transport := transport }).onError e)

def Socket.emit (socket : Socket τ) (packet : Packet) : Except Error Unit × Socket τ :=
  if socket.connected then socket.transmit base64 packet
  else (.error .illegalActionBeforeOpen,socket.onError .illegalActionBeforeOpen)

def Socket.emitMultiLoop (socket : Socket τ) : List Packet → Except Error Unit × Socket τ
  | [] => (.ok (),socket)
  | packet :: rest =>
    match socket.transmit base64 packet with
    | (.ok _,next) => next.emitMultiLoop rest
    | (.error e,next) => (.error e,next)

def Socket.emitMulti (socket : Socket τ) (packets : List Packet) : Except Error Unit × Socket τ :=
  if socket.connected then socket.emitMultiLoop base64 packets
  else (.error .illegalActionBeforeOpen,socket.onError .illegalActionBeforeOpen)

inductive EmitCall where
  | emit (packet : Packet)
  | emitMulti (packets : List Packet)
  deriving DecidableEq, Repr

def EmitCall.packets : EmitCall → List Packet
  | .emit packet => [packet]
  | .emitMulti packets => packets

def Socket.call (socket : Socket τ) : EmitCall → Except Error Unit × Socket τ
  | .emit packet => socket.emit base64 packet
  | .emitMulti packets => socket.emitMulti base64 packets

def Socket.calls (socket : Socket τ) : List EmitCall → List (Except Error Unit) × Socket τ
  | [] => ([],socket)
  | c :: rest =>
    let (result,next) := socket.call base64 c
    let (results,last) := next.calls rest
    (result :: results,last)

variable {base64} {socket : Socket τ}

theorem Socket.call_of_connected (hc : socket.connected = true) (call : EmitCall) :
    socket.call base64 call = socket.emitMultiLoop base64 call.packets := by
  cases call with
  | emit packet =>
    rw [Socket.call,Socket.emit,if_pos hc,EmitCall.packets,Socket.emitMultiLoop]
    cases ht : socket.transmit base64 packet with
    | mk result middle => cases result <;> rfl
  | emitMulti packets =>
    rw [Socket.call,Socket.emitMulti,if_pos hc]
    rfl

theorem Socket.call_of_closed (hc : ¬ socket.connected = true) (call : EmitCall) :
    socket.call base64 call = (.error .illegalActionBeforeOpen,socket.onError .illegalActionBeforeOpen) := by
  cases call with
  | emit packet => rw [Socket.call,Socket.emit,if_neg hc]
  | emitMulti packets => rw [Socket.call,Socket.emitMulti,if_neg hc]

end Emit

section Log
variable {τ α : Type} [Transport τ] {base64 : Base64Crate} {log : τ → List α} {item : Data → α}

/-- A transport that records one item for everything it accepts. -/
def Logs (base64 : Base64Crate) (log : τ → List α) (item : Data → α) : Prop :=
  ∀ transport data next, Transport.emit base64 transport data = (.ok (),next) →
    log next = log transport ++ [item data]

theorem Socket.transmit_log (hl : Logs base64 log item) {socket next : Socket τ} {packet : Packet}
    (h : socket.transmit base64 packet = (.ok (),next)) :
    log next.transport = log socket.transport ++ [item (packet.toData base64)] := by
  unfold Socket.transmit at h
  split at h
  · rename_i transport he
    cases h
    exact hl _ _ _ he
  · cases h

theorem Socket.emitMultiLoop_log (hl : Logs base64 log item) {socket next : Socket τ} {packets : List Packet}
    (h : socket.emitMultiLoop base64 packets = (.ok (),next)) :
    log next.transport =
      log socket.transport ++ packets.map (fun packet => item (packet.toData base64)) := by
  induction packets generalizing socket with
  | nil =>
    cases h
    simp
  | cons packet rest ih =>
    unfold Socket.emitMultiLoop at h
    split at h
    · rename_i middle ht
      rw [ih h,Socket.transmit_log hl ht]
      simp
    · cases h

theorem Socket.call_log (hl : Logs base64 log item) {socket next : Socket τ} {c : EmitCall}
    (h : socket.call base64 c = (.ok (),next)) :
    log next.transport =
      log socket.transport ++ c.packets.map (fun packet => item (packet.toData base64)) := by
  by_cases hc : socket.connected = true
  · rw [Socket.call_of_connected hc] at h
    exact Socket.emitMultiLoop_log hl h
  · rw [Socket.call_of_closed hc] at h
    cases h

theorem Socket.calls_log (hl : Logs base64 log item) {socket : Socket τ} {cs : List EmitCall}
    (h : ∀ result ∈ (socket.calls base64 cs).1, result = .ok ()) :
    log (socket.calls base64 cs).2.transport =
      log socket.transport ++ (cs.flatMap EmitCall.packets).map (fun packet => item (packet.toData base64)) := by
  induction cs generalizing socket with
  | nil => simp [Socket.calls]
  | cons c rest ih =>
    cases hc : socket.call base64 c with
    | mk result next =>
      simp only [Socket.calls,hc,List.mem_cons,forall_eq_or_imp] at h
      obtain ⟨rfl,hr⟩ := h
      simp only [Socket.calls,hc,ih hr,Socket.call_log hl hc]
      simp

end Log

section Stream
variable (base64 : Base64Crate)

def parsePayload (bytes : Bytes) : List (Except Error Packet) :=
  match Payload.tryFrom base64 bytes with
  | .error e => [.error e]
  | .ok packets => packets.map .ok

def stream : List (Except Error Bytes) → List (Except Error Packet)
  | [] => []
  | .error e :: _ => [.error e]
  | .ok bytes :: rest => yieldFrom (parsePayload base64 bytes) (stream rest)

end Stream

end SocketIox.EngineIo
