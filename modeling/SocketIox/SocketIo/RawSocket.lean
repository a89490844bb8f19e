import SocketIox.EngineIo.Socket
import SocketIox.SocketIo.Payload

/-! # The raw socket

A packet goes out as one engine.io message followed by one binary message for
each attachment, in one call to the engine socket. The receiver reads the count
from the text and takes that many further messages from the same engine stream.
-/
namespace SocketIox.SocketIo
open Wire

section Send
variable (json : SerdeJson)

def Packet.header (packet : Packet) : EngineIo.Packet := ⟨.message,packet.toBytes json⟩

/-- The call to the engine socket that `RawSocket::send` makes. -/
def Packet.sendCall (packet : Packet) : EngineIo.EmitCall :=
  match packet.attachments with
  | none => .emit (packet.header json)
  | some [] => .emit (packet.header json)
  | some attachments => .emitMulti (packet.header json :: attachments.map (fun a => ⟨.messageBinary,a⟩))

def RawSocket.send {τ : Type} [EngineIo.Transport τ] (base64 : EngineIo.Base64Crate)
    (engineClient : EngineIo.Socket τ) (packet : Packet) : Except Error Unit × EngineIo.Socket τ :=
  if engineClient.connected = false then (.error .illegalActionBeforeOpen,engineClient)
  else
    match engineClient.call base64 (packet.sendCall json) with
    | (.ok _,next) => (.ok (),next)
    | (.error e,next) => (.error (.incompleteResponseFromEngineIo e),next)

end Send

section Receive

abbrev EngineItem := Except EngineIo.Error EngineIo.Packet

/-- What a step of the receiver comes to, with the engine items left over. It panics
when the engine stream ends inside a group. -/
inductive Outcome (α : Type) where
  | done (value : α) (rest : List EngineItem)
  | failed (error : Error) (rest : List EngineItem)
  | panicked

def isMessage (ptype : EngineIo.PacketType) : Bool :=
  ptype = .message || ptype = .messageBinary

/-- The `while` loop of `handle_engineio_packet`. -/
def takeAttachments : ℕ → List Bytes → List EngineItem → Outcome (List Bytes)
  | 0, attachments, client => .done attachments client
  | _ + 1, _, [] => .panicked
  | _ + 1, _, .error e :: rest => .failed (.incompleteResponseFromEngineIo e) rest
  | left + 1, attachments, .ok packet :: rest =>
    if isMessage packet.ptype then takeAttachments left (attachments ++ [packet.data]) rest
    else .failed (.invalidAttachmentPacketType packet.ptype.toU8) rest

def handleEngineioPacket (json : SerdeJson) (packet : EngineIo.Packet) (client : List EngineItem) :
    Outcome Packet :=
  match Packet.tryFrom json packet.data with
  | .error e => .failed e client
  | .ok packet =>
    if packet.attachmentCount = 0 then .done packet client
    else
      match takeAttachments packet.attachmentCount.toNat [] client with
      | .done attachments rest => .done { packet with attachments := some attachments } rest
      | .failed e rest => .failed e rest
      | .panicked => .panicked

/-- What a finished stream yielded, and whether it ended in a panic. -/
structure Yielded where
  items : List (Except Error Packet)
  panicked : Bool

def Yielded.cons (item : Except Error Packet) (y : Yielded) : Yielded := { y with items := item :: y.items }

theorem takeAttachments_rest {left : ℕ} {acc attachments : List Bytes} {client rest : List EngineItem}
    (h : takeAttachments left acc client = .done attachments rest) : rest.length ≤ client.length := by
  induction left generalizing acc client with
  | zero =>
    cases h
    exact Nat.le_refl _
  | succ left ih =>
    cases client with
    | nil => cases h
    | cons item client =>
      cases item with
      | error e => cases h
      | ok packet =>
        unfold takeAttachments at h
        split at h
        · have hr := ih h
          simp only [List.length_cons]
          omega
        · cases h

theorem handleEngineioPacket_rest {json : SerdeJson} {packet : EngineIo.Packet} {result : Packet}
    {client rest : List EngineItem} (h : handleEngineioPacket json packet client = .done result rest) :
    rest.length ≤ client.length := by
  unfold handleEngineioPacket at h
  cases ht : Packet.tryFrom json packet.data with
  | error e => simp [ht] at h
  | ok header =>
    simp only [ht] at h
    split at h
    · cases h
      exact Nat.le_refl _
    · cases hr : takeAttachments header.attachmentCount.toNat [] client with
      | done attachments remaining =>
        simp only [hr] at h
        cases h
        exact takeAttachments_rest hr
      | failed e remaining => simp [hr] at h
      | panicked => simp [hr] at h

def RawSocket.stream (json : SerdeJson) : List EngineItem → Yielded
  | [] => ⟨[],false⟩
  | .error e :: _ => ⟨[.error (.incompleteResponseFromEngineIo e)],false⟩
  | .ok packet :: client =>
    if isMessage packet.ptype then
      match _h : handleEngineioPacket json packet client with
      | .done result rest => (RawSocket.stream json rest).cons (.ok result)
      | .failed e _ => ⟨[.error e],false⟩
      | .panicked => ⟨[],true⟩
    else RawSocket.stream json client
termination_by client => client.length
decreasing_by
  · have hr := handleEngineioPacket_rest _h
    simp only [List.length_cons]
    omega
  · simp

end Receive

end SocketIox.SocketIo
