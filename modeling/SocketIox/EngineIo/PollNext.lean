import SocketIox.EngineIo.Socket

/-! # The socket as a polled stream

One call of `poll_next` asks for the generator's lock, takes an item from the
generator, and for a packet polls a fresh handler future once. Which of the things
the handler waits for are at hand is up to the environment.
-/
namespace SocketIox.EngineIo
open Wire Proc

section Publish
variable {τ : Type}

@[simp] theorem Socket.publish_hasEventTx (socket : Socket τ) (event : Event) :
    (socket.publish event).hasEventTx = socket.hasEventTx := by
  unfold Socket.publish
  split <;> rfl

@[simp] theorem Socket.publish_connected (socket : Socket τ) (event : Event) :
    (socket.publish event).connected = socket.connected := by
  unfold Socket.publish
  split <;> rfl

@[simp] theorem Socket.publish_shouldPong (socket : Socket τ) (event : Event) :
    (socket.publish event).shouldPong = socket.shouldPong := by
  unfold Socket.publish
  split <;> rfl

end Publish

/-- What the handler of an incoming packet waits for. -/
inductive Await where
  | ponged
  | onPacket
  | onData
  | onClose
  | pinged
  | emitPong
  deriving DecidableEq, Repr

abbrev Item := Option (Except Error Packet)

/-- One call of `poll_next`: the generator is locked by someone else, or it answers
and the handler finds exactly the things in `ready` at hand. -/
inductive Tick where
  | busy
  | polled (item : Poll Item) (ready : Await → Bool)

section Handler
variable {τ : Type} [Transport τ] (base64 : Base64Crate)

def Socket.dispatch (socket : Socket τ) (packet : Packet) (ready : Await → Bool) : Poll Unit × Socket τ :=
  match packet.ptype with
  | .messageBinary | .message =>
    if socket.hasEventTx = true ∧ ready .onData = false then (.pending,socket)
    else (.ready (),socket.publish (.onData socket.sid packet.data))
  | .close =>
    if socket.connected = false then (.ready (),socket)
    else if socket.hasEventTx = true ∧ ready .onClose = false then (.pending,socket)
    else (.ready (),{ socket.publish (.onClose socket.sid) with connected := false })
  | .ping =>
    if ready .pinged = false then (.pending,socket)
    else if socket.shouldPong = false then (.ready (),socket)
    else if ready .emitPong = false then (.pending,socket)
    else (.ready (),(socket.emit base64 ⟨.pong,packet.data⟩).2)
  | .upgrade | .pong | .open_ | .noop => (.ready (),socket)

/-- One poll of `handle_incoming_packet`; effects before the first missing thing stay. -/
def Socket.handleIncomingPacket (socket : Socket τ) (packet : Packet) (ready : Await → Bool) :
    Poll Unit × Socket τ :=
  if ready .ponged = false then (.pending,socket)
  else if socket.hasEventTx = true ∧ ready .onPacket = false then (.pending,socket)
  else (socket.publish (.onPacket socket.sid packet)).dispatch base64 packet ready

def Socket.pollNext (socket : Socket τ) : Tick → Poll Item × Socket τ
  | .busy => (.pending,socket)
  | .polled (.ready (some (.ok packet))) ready =>
    match socket.handleIncomingPacket base64 packet ready with
    | (.pending,next) => (.pending,next)
    | (.ready _,next) => (.ready (some (.ok packet)),next)
  | .polled item _ => (item,socket)

def Socket.pollAll (socket : Socket τ) : List Tick → List (Poll Item)
  | [] => []
  | tick :: rest => (socket.pollNext base64 tick).1 :: (socket.pollNext base64 tick).2.pollAll rest

end Handler

def yielded : List Tick → List Packet
  | [] => []
  | .polled (.ready (some (.ok packet))) _ :: rest => packet :: yielded rest
  | _ :: rest => yielded rest

def returned : List (Poll Item) → List Packet
  | [] => []
  | .ready (some (.ok packet)) :: rest => packet :: returned rest
  | _ :: rest => returned rest

section Awaits
variable {τ : Type} (socket : Socket τ) (packet : Packet)

def Socket.dispatchAwaits : List Await :=
  match packet.ptype with
  | .messageBinary | .message => if socket.hasEventTx then [.onData] else []
  | .close => if socket.connected && socket.hasEventTx then [.onClose] else []
  | .ping => if socket.shouldPong then [.pinged,.emitPong] else [.pinged]
  | .upgrade | .pong | .open_ | .noop => []

def Socket.awaits : List Await :=
  .ponged :: (if socket.hasEventTx then [.onPacket] else []) ++ socket.dispatchAwaits packet

@[simp] theorem dispatchAwaits_publish (event : Event) :
    (socket.publish event).dispatchAwaits packet = socket.dispatchAwaits packet := by
  simp [Socket.dispatchAwaits]

end Awaits

section Ready
variable {τ : Type} [Transport τ] (base64 : Base64Crate)

theorem dispatch_ready_iff (socket : Socket τ) (packet : Packet) (ready : Await → Bool) :
    (socket.dispatch base64 packet ready).1 = .ready () ↔
      ∀ a ∈ socket.dispatchAwaits packet, ready a = true := by
  rcases packet with ⟨ptype,data⟩
  cases ptype with
  | messageBinary | message =>
    by_cases he : socket.hasEventTx = true <;> by_cases hr : ready .onData = true <;>
      simp [Socket.dispatch,Socket.dispatchAwaits,he,hr]
  | close =>
    by_cases hc : socket.connected = true <;> by_cases he : socket.hasEventTx = true <;>
      by_cases hr : ready .onClose = true <;> simp [Socket.dispatch,Socket.dispatchAwaits,hc,he,hr]
  | ping =>
    by_cases hs : socket.shouldPong = true <;> by_cases hp : ready .pinged = true <;>
      by_cases hr : ready .emitPong = true <;> simp [Socket.dispatch,Socket.dispatchAwaits,hs,hp,hr]
  | upgrade | pong | open_ | noop => simp [Socket.dispatch,Socket.dispatchAwaits]

/-- The handler finishes in its only poll precisely when nothing it needs is missing. -/
theorem handleIncomingPacket_ready_iff (socket : Socket τ) (packet : Packet) (ready : Await → Bool) :
    (socket.handleIncomingPacket base64 packet ready).1 = .ready () ↔
      ∀ a ∈ socket.awaits packet, ready a = true := by
  unfold Socket.handleIncomingPacket Socket.awaits
  by_cases hp : ready .ponged = true
  · by_cases he : socket.hasEventTx = true
    · by_cases hr : ready .onPacket = true
      · simp [hp,he,hr,dispatch_ready_iff]
      · simp [hp,he,hr]
    · simp [hp,he,dispatch_ready_iff]
  · simp [hp]

def TickReady (socket : Socket τ) : Tick → Prop
  | .polled (.ready (some (.ok packet))) ready => ∀ a ∈ socket.awaits packet, ready a = true
  | _ => True

def AllReady : Socket τ → List Tick → Prop
  | _, [] => True
  | socket, tick :: rest => TickReady socket tick ∧ AllReady (socket.pollNext base64 tick).2 rest

theorem pollNext_packet (socket : Socket τ) (packet : Packet) (ready : Await → Bool) :
    (socket.pollNext base64 (.polled (.ready (some (.ok packet))) ready)).1 = .ready (some (.ok packet)) ∧
        (∀ a ∈ socket.awaits packet, ready a = true) ∨
      (socket.pollNext base64 (.polled (.ready (some (.ok packet))) ready)).1 = .pending ∧
        ¬ ∀ a ∈ socket.awaits packet, ready a = true := by
  have h := handleIncomingPacket_ready_iff base64 socket packet ready
  cases hh : socket.handleIncomingPacket base64 packet ready with
  | mk answer next =>
    rw [hh] at h
    cases answer with
    | pending =>
      right
      simp only [Socket.pollNext,hh,← h]
      exact ⟨trivial,by simp⟩
    | ready u =>
      left
      simp only [Socket.pollNext,hh,← h]
      exact ⟨trivial,trivial⟩

theorem returned_sublist (socket : Socket τ) (ticks : List Tick) :
    (returned (socket.pollAll base64 ticks)).Sublist (yielded ticks) := by
  induction ticks generalizing socket with
  | nil => exact .slnil
  | cons tick rest ih =>
    have hr := ih (socket.pollNext base64 tick).2
    cases tick with
    | busy => exact hr
    | polled item ready =>
      cases item with
      | pending => exact hr
      | ready item =>
        cases item with
        | none => exact hr
        | some item =>
          cases item with
          | error e => exact hr
          | ok packet =>
            simp only [Socket.pollAll,yielded]
            rcases pollNext_packet base64 socket packet ready with ⟨h,-⟩ | ⟨h,-⟩
            · rw [h]
              exact hr.cons_cons packet
            · rw [h]
              exact hr.cons packet

/-- No packet is lost precisely when no handler is caught pending. -/
theorem returned_eq_yielded_iff (socket : Socket τ) (ticks : List Tick) :
    returned (socket.pollAll base64 ticks) = yielded ticks ↔ AllReady base64 socket ticks := by
  induction ticks generalizing socket with
  | nil => simp [Socket.pollAll,returned,yielded,AllReady]
  | cons tick rest ih =>
    have hr := ih (socket.pollNext base64 tick).2
    have hs := returned_sublist base64 (socket.pollNext base64 tick).2 rest
    cases tick with
    | busy => exact hr.trans ⟨fun h => ⟨trivial,h⟩,fun h => h.2⟩
    | polled item ready =>
      cases item with
      | pending => exact hr.trans ⟨fun h => ⟨trivial,h⟩,fun h => h.2⟩
      | ready item =>
        cases item with
        | none => exact hr.trans ⟨fun h => ⟨trivial,h⟩,fun h => h.2⟩
        | some item =>
          cases item with
          | error e => exact hr.trans ⟨fun h => ⟨trivial,h⟩,fun h => h.2⟩
          | ok packet =>
            simp only [Socket.pollAll,yielded,AllReady,TickReady]
            rcases pollNext_packet base64 socket packet ready with ⟨h,hready⟩ | ⟨h,hmissing⟩
            · rw [h]
              simp only [returned,List.cons.injEq,true_and,hr]
              exact ⟨fun h => ⟨hready,h⟩,fun h => h.2⟩
            · rw [h]
              refine ⟨fun he => ?_,fun he => absurd he.1 hmissing⟩
              have hl := hs.length_le
              have hc := congrArg List.length he
              simp only [returned,List.length_cons] at hc
              omega

end Ready

section Items
variable {τ : Type} [Transport τ] {base64 : Base64Crate} {socket : Socket τ}

/-- What the generator gives away up to its end. -/
def offered : List Tick → List (Except Error Packet)
  | [] => []
  | .polled (.ready (some item)) _ :: rest => item :: offered rest
  | .polled (.ready none) _ :: _ => []
  | .polled .pending _ :: rest => offered rest
  | .busy :: rest => offered rest

def items : List (Poll Item) → List (Except Error Packet)
  | [] => []
  | .ready (some item) :: rest => item :: items rest
  | .ready none :: _ => []
  | .pending :: rest => items rest

theorem items_pollAll {ticks : List Tick} (h : AllReady base64 socket ticks) :
    items (socket.pollAll base64 ticks) = offered ticks := by
  induction ticks generalizing socket with
  | nil => rfl
  | cons tick rest ih =>
    obtain ⟨htick,hrest⟩ := h
    have hr := ih hrest
    cases tick with
    | busy => exact hr
    | polled item ready =>
      cases item with
      | pending => exact hr
      | ready item =>
        cases item with
        | none => rfl
        | some item =>
          cases item with
          | error e => exact congrArg _ hr
          | ok packet =>
            have hnext : (socket.pollNext base64 (.polled (.ready (some (.ok packet))) ready)).1 =
                .ready (some (.ok packet)) := by
              rcases pollNext_packet base64 socket packet ready with ⟨h,-⟩ | ⟨-,h⟩
              · exact h
              · exact absurd htick h
            simp only [Socket.pollAll,offered,hnext,items,hr]

def ticksOf (found : List (Except Error Packet)) : List Tick :=
  found.map (fun item => .polled (.ready (some item)) (fun _ => true))

theorem offered_ticksOf (found : List (Except Error Packet)) : offered (ticksOf found) = found := by
  induction found with
  | nil => rfl
  | cons item found ih => exact congrArg _ ih

theorem allReady_ticksOf (base64 : Base64Crate) (socket : Socket τ) (found : List (Except Error Packet)) :
    AllReady base64 socket (ticksOf found) := by
  induction found generalizing socket with
  | nil => trivial
  | cons item found ih =>
    refine ⟨?_,ih _⟩
    cases item with
    | error e => trivial
    | ok packet => exact fun _ _ => rfl

end Items

/-- A message whose event channel is full when the handler is polled is gone. -/
theorem pollNext_loses_packet :
    returned (Socket.pollAll rfc4648
        (⟨⟨[],false⟩,true,"MA==",true,false,[]⟩ : Socket ServerPollingTransport)
        [.polled (.ready (some (.ok ⟨.message,[104,105]⟩))) (fun a => a != .onPacket),
          .polled .pending (fun _ => true)]) ≠
      yielded [.polled (.ready (some (.ok ⟨.message,[104,105]⟩))) (fun a => a != .onPacket),
        .polled .pending (fun _ => true)] := by
  decide

end SocketIox.EngineIo
