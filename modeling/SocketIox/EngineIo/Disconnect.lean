import SocketIox.EngineIo.Socket

/-! # Disconnecting when sends fail

`disconnect` publishes `OnClose`, sends a close packet and clears the connected flag, and
returns at the first of the two sends that fails. The event channel may refuse an event:
`taken` says which ones it takes. `handle_close` publishes the same event and clears the
flag whatever becomes of it.
-/
namespace SocketIox.EngineIo
open Wire

/-- `EventSendError` with the event that came back, or an error of the transport. -/
inductive DisconnectError where
  | eventSend (event : Event)
  | engine (error : Error)
  deriving DecidableEq, Repr

section Channel
variable {τ : Type} [Transport τ] (base64 : Base64Crate) (taken : Event → Bool)

/-- `event_tx.send`, if there is a channel, and whether it failed. -/
def Socket.trySend (socket : Socket τ) (event : Event) : Except DisconnectError Unit × Socket τ :=
  if socket.hasEventTx then
    if taken event then (.ok (),{ socket with events := socket.events ++ [event] })
    else (.error (.eventSend event),socket)
  else (.ok (),socket)

/-- `Socket::emit`; whether its error is published does not matter to it. -/
def Socket.tryEmit (socket : Socket τ) (packet : Packet) : Except DisconnectError Unit × Socket τ :=
  if socket.connected then
    match Transport.emit base64 socket.transport (packet.toData base64) with
    | (.ok _,transport) => (.ok (),{ socket with transport := transport })
    | (.error e,transport) =>
      (.error (.engine e),(({ socket with transport := transport }).trySend taken (.onError socket.sid e)).2)
  else
    (.error (.engine .illegalActionBeforeOpen),
      (socket.trySend taken (.onError socket.sid .illegalActionBeforeOpen)).2)

def Packet.close : Packet := ⟨.close,[]⟩

def Socket.disconnect (socket : Socket τ) : Except DisconnectError Unit × Socket τ :=
  if socket.connected then
    match socket.trySend taken (.onClose socket.sid) with
    | (.error e,next) => (.error e,next)
    | (.ok _,next) =>
      match next.tryEmit base64 taken .close with
      | (.error e,next) => (.error e,next)
      | (.ok _,next) => (.ok (),{ next with connected := false })
  else (.ok (),socket)

def Socket.handleClose (socket : Socket τ) : Socket τ :=
  if socket.connected then { (socket.trySend taken (.onClose socket.sid)).2 with connected := false } else socket

def Socket.RefusesClose (socket : Socket τ) : Prop :=
  (Transport.emit base64 socket.transport (Packet.close.toData base64)).1 ≠ .ok ()

def Socket.newEvents (socket next : Socket τ) : List Event := next.events.drop socket.events.length

end Channel

section Outcomes
variable {τ : Type} {base64 : Base64Crate} {taken : Event → Bool} {socket : Socket τ}

theorem Socket.trySend_of_taken {event : Event} (ht : socket.hasEventTx = true) (htaken : taken event = true) :
    socket.trySend taken event = (.ok (),{ socket with events := socket.events ++ [event] }) := by
  rw [Socket.trySend,if_pos ht,if_pos htaken]

theorem Socket.trySend_frame (taken : Event → Bool) (s : Socket τ) (event : Event) :
    (s.trySend taken event).2.connected = s.connected ∧
      ∃ rest, (s.trySend taken event).2.events = s.events ++ rest := by
  unfold Socket.trySend
  split_ifs
  · exact ⟨rfl,[event],rfl⟩
  · exact ⟨rfl,[],(List.append_nil _).symm⟩
  · exact ⟨rfl,[],(List.append_nil _).symm⟩

variable [Transport τ]

theorem Socket.disconnect_of_error {e : DisconnectError} (hc : socket.connected = true)
    (hs : socket.trySend taken (.onClose socket.sid) = (.error e,socket)) :
    socket.disconnect base64 taken = (.error e,socket) := by
  simp [Socket.disconnect,hc,hs]

theorem Socket.disconnect_of_accepted {next : Socket τ} (hc : socket.connected = true)
    (hs : socket.trySend taken (.onClose socket.sid) = (.ok (),next)) (hn : next.connected = true)
    (he : ¬ next.RefusesClose base64) : (socket.disconnect base64 taken).2.connected = false := by
  rw [Socket.RefusesClose,not_not] at he
  have hemit : (next.tryEmit base64 taken .close).1 = .ok () := by
    simp only [Socket.tryEmit,hn,↓reduceIte]
    split
    · rfl
    · simp_all
  simp only [Socket.disconnect,hc,↓reduceIte,hs]
  split
  · simp_all
  · rfl

theorem Socket.tryEmit_refused (taken : Event → Bool) (socket : Socket τ) {packet : Packet}
    (hc : socket.connected = true) (he : (Transport.emit base64 socket.transport (packet.toData base64)).1 ≠ .ok ()) :
    ∃ e next, socket.tryEmit base64 taken packet = (.error e,next) ∧ next.connected = true ∧
      ∃ rest, next.events = socket.events ++ rest := by
  cases hemit : Transport.emit base64 socket.transport (packet.toData base64) with
  | mk result transport =>
    cases result with
    | ok _ => simp [hemit] at he
    | error e =>
      have hframe := Socket.trySend_frame taken { socket with transport := transport }
        (.onError socket.sid e)
      have hresult : socket.tryEmit base64 taken packet = (.error (.engine e),
          (({ socket with transport := transport }).trySend taken (.onError socket.sid e)).2) := by
        rw [Socket.tryEmit,if_pos hc]
        simp only [hemit]
      exact ⟨_,_,hresult,hframe.1.trans hc,hframe.2⟩

theorem Socket.disconnect_refused (socket : Socket τ) (taken : Event → Bool) (hc : socket.connected = true)
    (ht : socket.hasEventTx = true) (hpub : taken (.onClose socket.sid) = true) (he : socket.RefusesClose base64) :
    (socket.disconnect base64 taken).2.connected = true ∧
      .onClose socket.sid ∈ socket.newEvents (socket.disconnect base64 taken).2 := by
  have hs := Socket.trySend_of_taken ht hpub
  obtain ⟨e,next,hemit,hn,rest,hrest⟩ := Socket.tryEmit_refused taken
    { socket with events := socket.events ++ [.onClose socket.sid] } hc he
  have hd : socket.disconnect base64 taken = (.error e,next) := by
    rw [Socket.disconnect,if_pos hc]
    simp only [hs,hemit]
  rw [hd]
  refine ⟨hn,?_⟩
  rw [Socket.newEvents,hrest]
  simp

theorem Socket.tryEmit_events_of_no_tx (base64 : Base64Crate) (taken : Event → Bool)
    (ht : socket.hasEventTx = false) (packet : Packet) :
    (socket.tryEmit base64 taken packet).2.events = socket.events := by
  unfold Socket.tryEmit
  split_ifs
  · split
    · rfl
    · simp [Socket.trySend,ht]
  · simp [Socket.trySend,ht]

theorem Socket.disconnect_events_of_no_tx (ht : socket.hasEventTx = false) :
    (socket.disconnect base64 taken).2.events = socket.events := by
  have hs : socket.trySend taken (.onClose socket.sid) = (.ok (),socket) := by simp [Socket.trySend,ht]
  have hemit := Socket.tryEmit_events_of_no_tx base64 taken ht .close
  unfold Socket.disconnect
  split_ifs
  · simp only [hs]
    split <;> simp_all
  · rfl

theorem Socket.disconnect_unpublished
    (h : ¬ (socket.connected = true ∧ socket.hasEventTx = true ∧ taken (.onClose socket.sid) = true)) :
    socket.newEvents (socket.disconnect base64 taken).2 = [] := by
  have hevents : (socket.disconnect base64 taken).2.events = socket.events := by
    by_cases hc : socket.connected = true
    · by_cases ht : socket.hasEventTx = true
      · have hpub : ¬ taken (.onClose socket.sid) = true := fun hpub => h ⟨hc,ht,hpub⟩
        have hs : socket.trySend taken (.onClose socket.sid) =
            (.error (.eventSend (.onClose socket.sid)),socket) := by
          rw [Socket.trySend,if_pos ht,if_neg hpub]
        rw [Socket.disconnect_of_error hc hs]
      · exact Socket.disconnect_events_of_no_tx (Bool.of_not_eq_true ht)
    · rw [Socket.disconnect,if_neg hc]
  rw [Socket.newEvents,hevents,List.drop_length]

end Outcomes

/-- The flag is cleared after `OnClose` was published if and only if it is not the case that the
event goes out and the transport then refuses the close packet. -/
theorem disconnect_consistent_iff {τ : Type} [Transport τ] (base64 : Base64Crate) (taken : Event → Bool)
    (socket : Socket τ) :
    (.onClose socket.sid ∈ socket.newEvents (socket.disconnect base64 taken).2 →
      (socket.disconnect base64 taken).2.connected = false) ↔
    ¬ (socket.connected = true ∧ socket.hasEventTx = true ∧ taken (.onClose socket.sid) = true ∧
      socket.RefusesClose base64) := by
  constructor
  · rintro h ⟨hc,ht,hpub,he⟩
    obtain ⟨hconnected,hmem⟩ := socket.disconnect_refused taken hc ht hpub he
    rw [h hmem] at hconnected
    cases hconnected
  · intro h hmem
    by_cases hout : socket.connected = true ∧ socket.hasEventTx = true ∧ taken (.onClose socket.sid) = true
    · obtain ⟨hc,ht,hpub⟩ := hout
      have hs := Socket.trySend_of_taken ht hpub
      exact Socket.disconnect_of_accepted hc hs hc (fun he => h ⟨hc,ht,hpub,he⟩)
    · rw [Socket.disconnect_unpublished hout] at hmem
      cases hmem

def refusedClient : Socket ClientPollingTransport := ⟨⟨[],0,fun _ => .ok 400⟩,true,"MA==",true,true,[]⟩

theorem disconnect_inconsistent :
    ¬ (.onClose refusedClient.sid ∈ refusedClient.newEvents (refusedClient.disconnect rfc4648 (fun _ => true)).2 →
      (refusedClient.disconnect rfc4648 (fun _ => true)).2.connected = false) := by
  intro h
  have he : refusedClient.RefusesClose rfc4648 := by
    unfold Socket.RefusesClose
    decide +kernel
  have hrefused := refusedClient.disconnect_refused (fun _ => true) rfl rfl rfl he
  rw [h hrefused.2] at hrefused
  cases hrefused.1

end SocketIox.EngineIo
