import SocketIox.Proc.Runs
import SocketIox.EngineIo.ChunkedPolling
import SocketIox.EngineIo.PollingDelivery

/-! # What a polling client reads of a whole session

Emits and GETs take turns in any order. A GET takes everything that has been queued since the
last one, so that the order decides how the packets are cut into bodies. What the client reads
of the bodies does not depend on it, if the HTTP layer hands on each body in one chunk.
-/
namespace SocketIox.EngineIo
open Wire Proc

/-- `emitted` are the packets of the calls that succeeded, `bodies` the answers to the GETs. -/
structure Polled where
  socket : Socket ServerPollingTransport
  emitted : List Packet
  bodies : List (Option Bytes)

inductive PolledAct where
  | call (c : EmitCall)
  | get

namespace Polled
variable (base64 : Base64Crate)

/-- A GET waits while nothing is queued. -/
def step (s : Polled) : PolledAct → Option Polled
  | .call c =>
    match s.socket.call base64 c with
    | (.ok _,socket) => some { s with socket := socket, emitted := s.emitted ++ c.packets }
    | (.error _,socket) => some { s with socket := socket }
  | .get =>
    if s.socket.transport.queue = [] then none
    else
      let (body,transport) := pollingGet base64 s.socket.transport
      some { s with socket.transport := transport, bodies := s.bodies ++ [body] }

def Readable (_ : Polled) : PolledAct → Prop
  | .call c => ∀ packet ∈ c.packets, packet.Sendable ∧ packet.ptype ≠ .messageBinary
  | .get => True

def Arrives (s : Polled) (responses : List (List Bytes)) : Prop :=
  s.bodies = responses.map (fun chunks => some chunks.flatten)

variable {base64} {s t : Polled} {act : PolledAct}

section Emit
variable {socket next : Socket ServerPollingTransport}

theorem transmit_error {packet : Packet} {e : Error} (h : socket.transmit base64 packet = (.error e,next)) :
    socket.transport.closed = true ∧ next.transport = socket.transport := by
  unfold Socket.transmit at h
  split at h
  · cases h
  · rename_i transport hemit
    simp only [Transport.emit,ServerPollingTransport.emit] at hemit
    split at hemit
    · rename_i hclosed
      cases hemit
      cases h
      refine ⟨hclosed,?_⟩
      unfold Socket.onError Socket.publish
      split <;> rfl
    · cases hemit

theorem transmit_ok {packet : Packet} (h : socket.transmit base64 packet = (.ok (),next)) :
    socket.transport.closed = false ∧ next.transport.closed = false := by
  unfold Socket.transmit at h
  split at h
  · rename_i transport hemit
    simp only [Transport.emit,ServerPollingTransport.emit] at hemit
    split at hemit
    · cases hemit
    · rename_i hclosed
      cases hemit
      cases h
      exact ⟨Bool.of_not_eq_true hclosed,Bool.of_not_eq_true hclosed⟩
  · cases h

theorem emitMultiLoop_error {packets : List Packet} {e : Error}
    (h : socket.emitMultiLoop base64 packets = (.error e,next)) :
    socket.transport.closed = true ∧ next.transport = socket.transport := by
  induction packets generalizing socket with
  | nil => cases h
  | cons packet rest ih =>
    unfold Socket.emitMultiLoop at h
    split at h
    · rename_i middle ht
      have hopen := transmit_ok ht
      rw [(ih h).1] at hopen
      cases hopen.2
    · rename_i e' middle ht
      cases h
      exact transmit_error ht

theorem call_error {c : EmitCall} {e : Error} (h : socket.call base64 c = (.error e,next)) :
    next.transport = socket.transport := by
  by_cases hc : socket.connected = true
  · rw [Socket.call_of_connected hc] at h
    exact (emitMultiLoop_error h).2
  · rw [Socket.call_of_closed hc] at h
    cases h
    unfold Socket.onError Socket.publish
    split <;> rfl

end Emit

/-- The bodies read as batches of packets, and with what is still queued they are what was emitted. -/
structure Batched (base64 : Base64Crate) (s : Polled) (batches : List Payload) (rest : List Packet) : Prop where
  bodies : List.Forall₂ (fun (body : Option Bytes) packets => ∃ bytes, body = some bytes ∧
    Payload.tryFrom base64 bytes = .ok packets) s.bodies batches
  queue : s.socket.transport.queue = rest.map (Packet.toQueued base64)
  emitted : batches.flatten ++ rest = s.emitted
  readable : ∀ packet ∈ rest, packet.Sendable ∧ packet.ptype ≠ .messageBinary

theorem Batched.call {batches : List Payload} {rest : List Packet} (hs : Batched base64 s batches rest)
    {c : EmitCall} (hr : s.Readable (.call c)) (h : step base64 s (.call c) = some t) :
    ∃ rest', Batched base64 t batches rest' := by
  simp only [step] at h
  split at h
  · rename_i socket hcall
    cases h
    have hqueue := Socket.call_log (emit_queue base64) hcall
    refine ⟨rest ++ c.packets,hs.bodies,?_,?_,?_⟩
    · rw [hqueue,hs.queue,List.map_append]
      rfl
    · rw [← List.append_assoc,hs.emitted]
    · intro packet hm
      rcases List.mem_append.mp hm with hm | hm
      · exact hs.readable packet hm
      · exact hr packet hm
  · rename_i e socket hcall
    cases h
    refine ⟨rest,hs.bodies,?_,hs.emitted,hs.readable⟩
    rw [call_error hcall]
    exact hs.queue

theorem Batched.get (hb : base64.Standard) {batches : List Payload} {rest : List Packet}
    (hs : Batched base64 s batches rest) (h : step base64 s .get = some t) :
    Batched base64 t (batches ++ [rest]) [] := by
  simp only [step] at h
  split at h
  · cases h
  · rename_i hqueue
    cases h
    have hne : rest ≠ [] := by
      rintro rfl
      exact hqueue hs.queue
    have hbody := pollingGet_body base64 (fun packet hm => (hs.readable packet hm).1) hs.queue
    have hread := (tryFrom_intercalate_iff hb hne (fun packet hm => (hs.readable packet hm).1)).mpr
      (fun packet hm => (hs.readable packet hm).2)
    have hsome : [separator].intercalate (rest.map (Packet.toSegment base64)) ≠ [] := by
      intro hnil
      rw [hnil] at hread
      cases hread
    rw [if_neg hsome] at hbody
    refine ⟨?_,rfl,?_,nofun⟩
    · exact List.rel_append hs.bodies (List.Forall₂.cons ⟨_,hbody,hread⟩ .nil)
    · rw [List.flatten_append,List.flatten_singleton,List.append_nil]
      exact hs.emitted

theorem step_batched (hb : base64.Standard) (hr : s.Readable act) (hs : ∃ batches rest, Batched base64 s batches rest)
    (h : step base64 s act = some t) : ∃ batches rest, Batched base64 t batches rest := by
  obtain ⟨batches,rest,hs⟩ := hs
  cases act with
  | call c => exact ⟨batches,hs.call hr h⟩
  | get => exact ⟨_,_,hs.get hb h⟩

theorem Batched.stream {batches : List Payload} {rest : List Packet} (hs : Batched base64 s batches rest)
    {responses : List (List Bytes)} (hall : s.Arrives responses) (hone : ∀ chunks ∈ responses, chunks.length = 1) :
    stream base64 (ClientPollingTransport.stream (arriving responses)) = batches.flatten.map .ok := by
  have hbodies : s.bodies = (responses.map List.flatten).map some := by
    rw [hall,List.map_map]
    rfl
  have hread : List.Forall₂ (fun body packets => Payload.tryFrom base64 body = .ok packets)
      (responses.map List.flatten) batches := by
    refine (List.forall₂_map_left_iff.mp (hbodies ▸ hs.bodies)).imp ?_
    rintro body packets ⟨bytes,hsome,hbytes⟩
    cases hsome
    exact hbytes
  rw [ClientPollingTransport.stream_arriving,flatten_eq_map_flatten hone]
  exact stream_payloads hread

/-- However emits and GETs take turns, the client reads what was emitted, up to what is still queued, if every body
arrives in one chunk. -/
theorem polled_stream (hb : base64.Standard) {acts : List PolledAct} (hfresh : s.socket.transport.queue = [])
    (hnew : s.emitted = [] ∧ s.bodies = []) (hr : Along (step base64) Readable s acts)
    (h : run (step base64) s acts = some t) {responses : List (List Bytes)} (hall : t.Arrives responses)
    (hone : ∀ chunks ∈ responses, chunks.length = 1) : ∃ delivered rest,
      EngineIo.stream base64 (ClientPollingTransport.stream (arriving responses)) = delivered.map .ok ∧
      t.socket.transport.queue = rest.map (Packet.toQueued base64) ∧ delivered ++ rest = t.emitted := by
  have hstart : ∃ batches rest, Batched base64 s batches rest := by
    refine ⟨[],[],?_,hfresh,?_,nofun⟩
    · rw [hnew.2]
      exact .nil
    · exact hnew.1.symm
  obtain ⟨batches,rest,ht⟩ := run_preserves_along (fun _ _ _ hr hs h => step_batched hb hr hs h) hr hstart h
  exact ⟨batches.flatten,rest,ht.stream hall hone,ht.queue,ht.emitted⟩

end Polled

end SocketIox.EngineIo
