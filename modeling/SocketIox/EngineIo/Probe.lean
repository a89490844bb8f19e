import SocketIox.EngineIo.Handshake
import SocketIox.EngineIo.Socket
import SocketIox.Proc.Duplex

/-! # The handshake of a transport upgrade

The client probes the new websocket with a ping, waits for the pong and sends the upgrade
packet. The server waits for two messages: it answers the first one if it is the probe,
drains the polling, and switches to the websocket if the second one is the upgrade packet.
Draining waits while the queue of the session is full. The server never switches before the
client is through, and on a connection that is not cut both get there unless the server has
to wait for ever.
-/
namespace SocketIox.EngineIo
open Wire Proc Proc.Duplex

/-- `Message::into_data`; the reason of a close frame is not kept. -/
def Message.intoData : Message → Bytes
  | .text str => str
  | .binary data => data
  | .ping data => data
  | .pong data => data
  | .close => []

def probe : Bytes := encodeUtf8 "probe".toList

/-- What the server does besides the messages: the noop that releases the GETs, the removal of
the polling handle, and the switch to the websocket. -/
inductive ProbeEffect where
  | drainPolling
  | closePolling
  | storeTransport
  deriving DecidableEq, Repr

abbrev ProbeScript (R : Type) := Script Message ProbeEffect R

section Client
variable (base64 : Base64Crate)

def pingMessage : Message := .text (Packet.toBytes base64 ⟨.ping,probe⟩)
def pongMessage : Message := .text (Packet.toBytes base64 ⟨.pong,probe⟩)
def upgradeMessage : Message := .text (Packet.toBytes base64 ⟨.upgrade,[]⟩)

def sendUpgrade : ProbeScript (Except BuildError Unit) :=
  .send (upgradeMessage base64) fun
    | none => .done (.ok ())
    | some e => .done (.error (.engine (.wsError e)))

def awaitPong : ProbeScript (Except BuildError Unit) :=
  .receive fun
    | .ended => .done (.error .illegalWebsocketUpgrade)
    | .failed e => .done (.error (.engine (.wsError e)))
    | .message msg =>
      if msg.intoData ≠ Packet.toBytes base64 ⟨.pong,probe⟩ then .done (.error (.engine .invalidPacket))
      else sendUpgrade base64

def WebsocketTransport.upgrade : ProbeScript (Except BuildError Unit) :=
  .send (pingMessage base64) fun
    | none => awaitPong base64
    | some e => .done (.error (.engine (.wsError e)))

end Client

section Server
variable (base64 : Base64Crate)

def closePolling : ProbeScript (Except Error Unit) :=
  .perform .closePolling (.perform .storeTransport (.done (.ok ())))

def awaitUpgrade : ProbeScript (Except Error Unit) :=
  .receive fun
    | .message msg =>
      if msg = .text (encodeUtf8 "5".toList) then closePolling
      else .done (.error (.invalidHandShake "upgrade missing packet"))
    | .failed _ | .ended => .done (.error (.invalidHandShake "upgrade missing packet"))

def drainPolling : ProbeScript (Except Error Unit) := .perform .drainPolling awaitUpgrade

def answerProbe : ProbeScript (Except Error Unit) :=
  .send (pongMessage base64) fun
    | none => drainPolling
    | some e => .done (.error (.wsError e))

/-- `Websocket::handle` for a session: `handle_probe` and `store_transport`. -/
def Websocket.handle : ProbeScript (Except Error Unit) :=
  .receive fun
    | .message msg => if msg = .text (encodeUtf8 "2probe".toList) then answerProbe base64 else drainPolling
    | .failed _ | .ended => drainPolling

end Server

/-- The session of the upgrade on the server: whether `polling_handles` and `sockets` have it, and its socket, with
a queue of `buffer` entries until it is on a websocket. `held` when another task has a lock of the session, and
`eventsFull` when the event channel takes nothing. -/
structure Session where
  buffer : ℕ
  handle : Bool
  stored : Bool
  upgraded : Bool
  socket : Socket ServerPollingTransport
  held : Bool
  eventsFull : Bool

namespace Session

/-- There is no room for a packet, or for the error that it cannot be sent any more. -/
def Full (s : Session) : Prop :=
  if s.socket.connected = true ∧ s.socket.transport.closed = false then
    s.buffer ≤ s.socket.transport.queue.length
  else s.eventsFull = true

instance (s : Session) : Decidable s.Full := by
  unfold Full
  exact inferInstance

/-- `drain_polling`: an emit on a full queue waits. -/
def drain (base64 : Base64Crate) (s : Session) : Option Session :=
  if s.stored = false ∨ s.upgraded = true then some s
  else if s.Full then none
  else some { s with socket := (s.socket.emit base64 Packet.noop).2 }

def perform (base64 : Base64Crate) (s : Session) (effect : ProbeEffect) : Option Session :=
  if s.held then none
  else
    match effect with
    | .drainPolling => s.drain base64
    | .closePolling => some { s with handle := false }
    | .storeTransport => some { s with upgraded := s.upgraded || s.stored }

end Session

abbrev Probing := State Message ProbeEffect (Except BuildError Unit) (Except Error Unit) Session

def Probing.opened (base64 : Base64Crate) (session : Session) : Probing :=
  initial (WebsocketTransport.upgrade base64) (Websocket.handle base64) session

section Messages
variable (base64 : Base64Crate)

theorem pingMessage_eq : pingMessage base64 = .text (encodeUtf8 "2probe".toList) := by
  have hbytes : Packet.toBytes base64 ⟨.ping,probe⟩ = PacketType.ping.toBytes ++ probe :=
    Packet.toBytes_text base64 (by decide)
  rw [pingMessage,hbytes]
  decide +kernel

theorem upgradeMessage_eq : upgradeMessage base64 = .text (encodeUtf8 "5".toList) := by
  have hbytes : Packet.toBytes base64 ⟨.upgrade,[]⟩ = PacketType.upgrade.toBytes ++ [] :=
    Packet.toBytes_text base64 (by decide)
  rw [upgradeMessage,hbytes]
  decide +kernel

theorem advance_awaitPong (cut : Bool) (rest : List Message) (error : Option String) :
    (awaitPong base64).advance cut (pongMessage base64 :: rest) error = some (sendUpgrade base64,rest,[],[]) := by
  simp [awaitPong,Script.advance,pongMessage,Message.intoData]

theorem advance_handle (cut : Bool) (rest : List Message) (error : Option String) :
    (Websocket.handle base64).advance cut (pingMessage base64 :: rest) error = some (answerProbe base64,rest,[],[]) := by
  rw [pingMessage_eq]
  simp [Websocket.handle,Script.advance]

theorem advance_awaitUpgrade (cut : Bool) (rest : List Message) (error : Option String) :
    awaitUpgrade.advance cut (upgradeMessage base64 :: rest) error = some (closePolling,rest,[],[]) := by
  rw [upgradeMessage_eq]
  simp [awaitUpgrade,Script.advance]

end Messages

/-- Where both ends stand while the connection is not cut, with what is on its way to the server and to the
client and what the server has done. -/
inductive Joint (base64 : Base64Crate) : Probing → Prop
  | opened (w : Session) : Joint base64 (Probing.opened base64 w)
  | probed (w : Session) :
      Joint base64 ⟨awaitPong base64,Websocket.handle base64,[pingMessage base64],[],false,[],[],w⟩
  | answering (w : Session) : Joint base64 ⟨awaitPong base64,answerProbe base64,[],[],false,[],[],w⟩
  | answered (w : Session) : Joint base64 ⟨awaitPong base64,drainPolling,[],[pongMessage base64],false,[],[],w⟩
  | drained (w : Session) :
      Joint base64 ⟨awaitPong base64,awaitUpgrade,[],[pongMessage base64],false,[],[.drainPolling],w⟩
  | ponged (w : Session) : Joint base64 ⟨sendUpgrade base64,drainPolling,[],[],false,[],[],w⟩
  | pongedDrained (w : Session) : Joint base64 ⟨sendUpgrade base64,awaitUpgrade,[],[],false,[],[.drainPolling],w⟩
  | switching (w : Session) : Joint base64 ⟨.done (.ok ()),drainPolling,[upgradeMessage base64],[],false,[],[],w⟩
  | switchingDrained (w : Session) :
      Joint base64 ⟨.done (.ok ()),awaitUpgrade,[upgradeMessage base64],[],false,[],[.drainPolling],w⟩
  | closing (w : Session) : Joint base64 ⟨.done (.ok ()),closePolling,[],[],false,[],[.drainPolling],w⟩
  | storing (w : Session) : Joint base64
      ⟨.done (.ok ()),.perform .storeTransport (.done (.ok ())),[],[],false,[],[.drainPolling,.closePolling],w⟩
  | finished (w : Session) : Joint base64
      ⟨.done (.ok ()),.done (.ok ()),[],[],false,[],[.drainPolling,.closePolling,.storeTransport],w⟩

theorem Joint.around {base64 : Base64Crate} {s : Probing} (h : Joint base64 s) (w : Session) :
    Joint base64 { s with world := w } := by
  cases h with
  | opened => exact .opened w
  | probed => exact .probed w
  | answering => exact .answering w
  | answered => exact .answered w
  | drained => exact .drained w
  | ponged => exact .ponged w
  | pongedDrained => exact .pongedDrained w
  | switching => exact .switching w
  | switchingDrained => exact .switchingDrained w
  | closing => exact .closing w
  | storing => exact .storing w
  | finished => exact .finished w

section Steps
variable {base64 : Base64Crate} {s t : Probing}

theorem step_left {script : ProbeScript (Except BuildError Unit)} {rest sent : List Message} {error : Option String}
    (ha : s.left.advance s.cut s.toLeft error = some (script,rest,sent,[]))
    (h : step (Session.perform base64) s (.left error) = some t) : t = { s with
      left := script
      toLeft := rest
      toRight := s.toRight ++ sent } := by
  obtain ⟨_,_,_,_,_,hadvance,hworld,rfl⟩ := step_left_iff.mp h
  rw [ha] at hadvance
  cases hadvance
  cases hworld
  simp

theorem step_right {script : ProbeScript (Except Error Unit)} {rest sent : List Message} {error : Option String}
    {effects : List ProbeEffect} (ha : s.right.advance s.cut s.toRight error = some (script,rest,sent,effects))
    (h : step (Session.perform base64) s (.right error) = some t) : ∃ w, t = { s with
      right := script
      toRight := rest
      toLeft := s.toLeft ++ sent
      rightEffects := s.rightEffects ++ effects
      world := w } := by
  obtain ⟨_,_,_,_,w,hadvance,-,rfl⟩ := step_right_iff.mp h
  rw [ha] at hadvance
  cases hadvance
  exact ⟨w,rfl⟩

theorem step_joint_left {error : Option String} (hs : Joint base64 s)
    (h : step (Session.perform base64) s (.left error) = some t) : Joint base64 t := by
  cases hs with
  | opened w =>
    cases error with
    | some e => cases h
    | none =>
      cases h
      exact .probed w
  | probed => cases h
  | answering => cases h
  | answered w =>
    rw [step_left (advance_awaitPong base64 _ _ _) h]
    exact .ponged w
  | drained w =>
    rw [step_left (advance_awaitPong base64 _ _ _) h]
    exact .pongedDrained w
  | ponged w =>
    cases error with
    | some e => cases h
    | none =>
      cases h
      exact .switching w
  | pongedDrained w =>
    cases error with
    | some e => cases h
    | none =>
      cases h
      exact .switchingDrained w
  | switching => cases h
  | switchingDrained => cases h
  | closing => cases h
  | storing => cases h
  | finished => cases h

theorem step_joint_right {error : Option String} (hs : Joint base64 s)
    (h : step (Session.perform base64) s (.right error) = some t) : Joint base64 t := by
  cases hs with
  | opened => cases h
  | probed w =>
    obtain ⟨w',rfl⟩ := step_right (advance_handle base64 _ _ _) h
    exact .answering w'
  | answering w =>
    cases error with
    | some e => cases h
    | none =>
      cases h
      exact .answered w
  | answered w =>
    obtain ⟨w',rfl⟩ := @step_right _ _ _ awaitUpgrade _ _ error _ rfl h
    exact .drained w'
  | drained => cases h
  | ponged w =>
    obtain ⟨w',rfl⟩ := @step_right _ _ _ awaitUpgrade _ _ error _ rfl h
    exact .pongedDrained w'
  | pongedDrained => cases h
  | switching w =>
    obtain ⟨w',rfl⟩ := @step_right _ _ _ awaitUpgrade _ _ error _ rfl h
    exact .switchingDrained w'
  | switchingDrained w =>
    obtain ⟨w',rfl⟩ := step_right (advance_awaitUpgrade base64 _ _ _) h
    exact .closing w'
  | closing w =>
    obtain ⟨w',rfl⟩ := @step_right _ _ _ (.perform .storeTransport (.done (.ok ()))) _ _ error _ rfl h
    exact .storing w'
  | storing w =>
    obtain ⟨w',rfl⟩ := @step_right _ _ _ (.done (.ok ())) _ _ error _ rfl h
    exact .finished w'
  | finished => cases h

theorem step_joint {act : Act Session} (hs : s.cut = false → Joint base64 s)
    (h : step (Session.perform base64) s act = some t) : t.cut = false → Joint base64 t := by
  intro hcut
  cases act with
  | left error =>
    have hkept : t.cut = s.cut := by
      obtain ⟨_,_,_,_,_,-,-,rfl⟩ := step_left_iff.mp h
      rfl
    exact step_joint_left (hs (hkept ▸ hcut)) h
  | right error =>
    have hkept : t.cut = s.cut := by
      obtain ⟨_,_,_,_,_,-,-,rfl⟩ := step_right_iff.mp h
      rfl
    exact step_joint_right (hs (hkept ▸ hcut)) h
  | cut keptRight keptLeft =>
    cases h
    cases hcut
  | around w =>
    cases h
    exact (hs hcut).around w

theorem waits_of_stuck {effect : ProbeEffect} {next : ProbeScript (Except Error Unit)}
    (hright : s.right = .perform effect next) (hstuck : step (Session.perform base64) s (.right none) = none) :
    s.world.held = true ∨ effect = .drainPolling ∧ s.world.Full := by
  by_cases hheld : s.world.held = true
  · exact Or.inl hheld
  right
  have hnone : s.world.perform base64 effect = none := by
    cases hp : s.world.perform base64 effect with
    | none => rfl
    | some w => simp [step,hright,Script.advance,stepRight,hp] at hstuck
  simp only [Session.perform,hheld,Bool.false_eq_true,↓reduceIte] at hnone
  cases effect with
  | drainPolling =>
    refine ⟨rfl,?_⟩
    by_contra hroom
    simp only [Session.drain,hroom,↓reduceIte] at hnone
    split at hnone <;> cases hnone
  | closePolling => cases hnone
  | storeTransport => cases hnone

theorem Joint.through_of_stuck (hs : Joint base64 s)
    (hstuck : ∀ act : Act Session, act.moves = true → step (Session.perform base64) s act = none) :
    s.left = .done (.ok ()) ∧
      (s.right = .done (.ok ()) ∧ s.rightEffects = [.drainPolling,.closePolling,.storeTransport] ∨
        ∃ effect next, s.right = .perform effect next ∧
          (s.world.held = true ∨ effect = .drainPolling ∧ s.world.Full)) := by
  have hleft := hstuck (.left none) rfl
  have hright := hstuck (.right none) rfl
  cases hs with
  | opened => cases hleft
  | probed => simp [step,advance_handle,stepRight] at hright
  | answering => cases hright
  | answered => simp [step,advance_awaitPong,stepLeft] at hleft
  | drained => simp [step,advance_awaitPong,stepLeft] at hleft
  | ponged => cases hleft
  | pongedDrained => cases hleft
  | switching => exact ⟨rfl,Or.inr ⟨_,_,rfl,waits_of_stuck rfl hright⟩⟩
  | switchingDrained => simp [step,advance_awaitUpgrade,stepRight] at hright
  | closing => exact ⟨rfl,Or.inr ⟨_,_,rfl,waits_of_stuck rfl hright⟩⟩
  | storing => exact ⟨rfl,Or.inr ⟨_,_,rfl,waits_of_stuck rfl hright⟩⟩
  | finished => exact ⟨rfl,Or.inl ⟨rfl,rfl⟩⟩

def Switched (script : ProbeScript (Except Error Unit)) : Prop :=
  script = closePolling ∨ script = .perform .storeTransport (.done (.ok ())) ∨ script = .done (.ok ())

/-- Where the two ends can stand, and what a message or an effect says of the other end, whether or not the
connection is cut. -/
structure Safe (base64 : Base64Crate) (s : Probing) : Prop where
  left : s.left = WebsocketTransport.upgrade base64 ∨ s.left = awaitPong base64 ∨ s.left = sendUpgrade base64 ∨
    ∃ result, s.left = .done result
  right : s.right = Websocket.handle base64 ∨ s.right = answerProbe base64 ∨ s.right = drainPolling ∨
    s.right = awaitUpgrade ∨ Switched s.right ∨ ∃ e, s.right = .done (.error e)
  upgrades : upgradeMessage base64 ∈ s.toRight → s.left = .done (.ok ())
  switched : Switched s.right → s.left = .done (.ok ())
  effects : .closePolling ∈ s.rightEffects ∨ .storeTransport ∈ s.rightEffects → s.left = .done (.ok ())

theorem advance_left {script next : ProbeScript (Except BuildError Unit)} {cut : Bool} {incoming rest sent : List Message}
    {error : Option String} {effects : List ProbeEffect}
    (hstage : script = WebsocketTransport.upgrade base64 ∨ script = awaitPong base64 ∨ script = sendUpgrade base64 ∨
      ∃ result, script = .done result)
    (h : script.advance cut incoming error = some (next,rest,sent,effects)) :
    script ≠ .done (.ok ()) ∧ (next = awaitPong base64 ∨ next = sendUpgrade base64 ∨ ∃ result, next = .done result) ∧
      (upgradeMessage base64 ∈ sent → next = .done (.ok ())) := by
  rcases hstage with rfl | rfl | rfl | ⟨result,rfl⟩
  · refine ⟨nofun,?_⟩
    cases error with
    | none =>
      cases h
      refine ⟨Or.inl rfl,?_⟩
      intro hm
      have hping : upgradeMessage base64 = pingMessage base64 := by
        cases cut with
        | true => exact absurd hm List.not_mem_nil
        | false => exact List.mem_singleton.mp hm
      rw [upgradeMessage_eq,pingMessage_eq] at hping
      exact absurd hping (by decide)
    | some e =>
      cases cut with
      | false => cases h
      | true =>
        cases h
        exact ⟨Or.inr (Or.inr ⟨_,rfl⟩),nofun⟩
  · refine ⟨nofun,?_⟩
    cases incoming with
    | cons msg others =>
      cases h
      refine ⟨?_,nofun⟩
      by_cases hpong : msg.intoData ≠ Packet.toBytes base64 ⟨.pong,probe⟩
      · exact Or.inr (Or.inr ⟨_,if_pos hpong⟩)
      · exact Or.inr (Or.inl (if_neg hpong))
    | nil =>
      cases cut with
      | false => cases h
      | true => cases error <;> cases h <;> exact ⟨Or.inr (Or.inr ⟨_,rfl⟩),nofun⟩
  · refine ⟨nofun,?_⟩
    cases error with
    | none =>
      cases h
      exact ⟨Or.inr (Or.inr ⟨_,rfl⟩),fun _ => rfl⟩
    | some e =>
      cases cut with
      | false => cases h
      | true =>
        cases h
        exact ⟨Or.inr (Or.inr ⟨_,rfl⟩),nofun⟩
  · cases h

theorem advance_right {script next : ProbeScript (Except Error Unit)} {cut : Bool} {incoming rest sent : List Message}
    {error : Option String} {effects : List ProbeEffect}
    (hstage : script = Websocket.handle base64 ∨ script = answerProbe base64 ∨ script = drainPolling ∨
      script = awaitUpgrade ∨ Switched script ∨ ∃ e, script = .done (.error e))
    (h : script.advance cut incoming error = some (next,rest,sent,effects)) :
    (next = answerProbe base64 ∨ next = drainPolling ∨ next = awaitUpgrade ∨ Switched next ∨
      ∃ e, next = .done (.error e)) ∧
    (∀ msg ∈ rest, msg ∈ incoming) ∧ (Switched next → Switched script ∨ upgradeMessage base64 ∈ incoming) ∧
    (.closePolling ∈ effects ∨ .storeTransport ∈ effects → Switched script) := by
  rcases hstage with rfl | rfl | rfl | rfl | (rfl | rfl | rfl) | ⟨e,rfl⟩
  · have hnext : (next = answerProbe base64 ∨ next = drainPolling) ∧ (∀ msg ∈ rest, msg ∈ incoming) ∧ effects = [] := by
      cases incoming with
      | cons msg others =>
        cases h
        refine ⟨?_,fun msg hm => List.mem_cons_of_mem _ hm,rfl⟩
        by_cases hping : msg = .text (encodeUtf8 "2probe".toList)
        · exact Or.inl (if_pos hping)
        · exact Or.inr (if_neg hping)
      | nil =>
        cases cut with
        | false => cases h
        | true => cases error <;> cases h <;> exact ⟨Or.inr rfl,nofun,rfl⟩
    obtain ⟨hnext,hrest,rfl⟩ := hnext
    refine ⟨?_,hrest,?_,by simp⟩
    · rcases hnext with rfl | rfl
      · exact Or.inl rfl
      · exact Or.inr (Or.inl rfl)
    · rcases hnext with rfl | rfl <;> rintro (hs | hs | hs) <;> cases hs
  · cases error with
    | none =>
      cases h
      refine ⟨Or.inr (Or.inl rfl),fun msg hm => hm,?_,by simp⟩
      rintro (hs | hs | hs) <;> cases hs
    | some e =>
      cases cut with
      | false => cases h
      | true =>
        cases h
        refine ⟨Or.inr (Or.inr (Or.inr (Or.inr ⟨_,rfl⟩))),fun msg hm => hm,?_,by simp⟩
        rintro (hs | hs | hs) <;> cases hs
  · cases h
    refine ⟨Or.inr (Or.inr (Or.inl rfl)),fun msg hm => hm,?_,by simp⟩
    rintro (hs | hs | hs) <;> cases hs
  · cases incoming with
    | cons msg others =>
      cases h
      by_cases hfive : msg = .text (encodeUtf8 "5".toList)
      · refine ⟨Or.inr (Or.inr (Or.inr (Or.inl (Or.inl (if_pos hfive))))),fun m hm => List.mem_cons_of_mem _ hm,?_,
          by simp⟩
        intro _
        right
        rw [upgradeMessage_eq,hfive]
        exact List.mem_cons_self
      · have herror : (if msg = .text (encodeUtf8 "5".toList) then closePolling
            else .done (.error (.invalidHandShake "upgrade missing packet"))) =
            .done (.error (.invalidHandShake "upgrade missing packet")) := if_neg hfive
        refine ⟨Or.inr (Or.inr (Or.inr (Or.inr ⟨_,herror⟩))),fun m hm => List.mem_cons_of_mem _ hm,?_,by simp⟩
        intro hs
        replace hs : Switched (.done (.error (.invalidHandShake "upgrade missing packet"))) := herror ▸ hs
        rcases hs with hs | hs | hs <;> cases hs
    | nil =>
      cases cut with
      | false => cases h
      | true =>
        cases error <;> cases h <;> refine ⟨Or.inr (Or.inr (Or.inr (Or.inr ⟨_,rfl⟩))),nofun,?_,by simp⟩ <;>
          rintro (hs | hs | hs) <;> cases hs
  · cases h
    exact ⟨Or.inr (Or.inr (Or.inr (Or.inl (Or.inr (Or.inl rfl))))),fun msg hm => hm,fun _ => Or.inl (Or.inl rfl),
      fun _ => Or.inl rfl⟩
  · cases h
    exact ⟨Or.inr (Or.inr (Or.inr (Or.inl (Or.inr (Or.inr rfl))))),fun msg hm => hm,fun _ => Or.inl (Or.inr (Or.inl rfl)),
      fun _ => Or.inr (Or.inl rfl)⟩
  · cases h
  · cases h

theorem safe_opened (base64 : Base64Crate) (session : Session) : Safe base64 (Probing.opened base64 session) where
  left := Or.inl rfl
  right := Or.inl rfl
  upgrades := nofun
  switched := by rintro (hs | hs | hs) <;> cases hs
  effects := by simp [Probing.opened,initial]

theorem step_safe {act : Act Session} (hs : Safe base64 s) (h : step (Session.perform base64) s act = some t) :
    Safe base64 t := by
  cases act with
  | left error =>
    obtain ⟨next,rest,sent,effects,w,ha,-,rfl⟩ := step_left_iff.mp h
    obtain ⟨hrunning,hnext,hsent⟩ := advance_left hs.left ha
    refine ⟨Or.inr hnext,hs.right,?_,?_,?_⟩
    · intro hm
      rcases List.mem_append.mp hm with hm | hm
      · exact absurd (hs.upgrades hm) hrunning
      · exact hsent hm
    · exact fun hswitched => absurd (hs.switched hswitched) hrunning
    · exact fun heffect => absurd (hs.effects heffect) hrunning
  | right error =>
    obtain ⟨next,rest,sent,effects,w,ha,-,rfl⟩ := step_right_iff.mp h
    obtain ⟨hnext,hrest,hswitches,heffects⟩ := advance_right hs.right ha
    refine ⟨hs.left,Or.inr hnext,fun hm => hs.upgrades (hrest _ hm),?_,?_⟩
    · intro hswitched
      rcases hswitches hswitched with hbefore | hm
      · exact hs.switched hbefore
      · exact hs.upgrades hm
    · simp only [List.mem_append]
      rintro ((hm | hm) | (hm | hm))
      · exact hs.effects (Or.inl hm)
      · exact hs.switched (heffects (Or.inl hm))
      · exact hs.effects (Or.inr hm)
      · exact hs.switched (heffects (Or.inr hm))
  | cut keptRight keptLeft =>
    cases h
    exact ⟨hs.left,hs.right,fun hm => hs.upgrades (List.mem_of_mem_take hm),hs.switched,hs.effects⟩
  | around w =>
    cases h
    exact ⟨hs.left,hs.right,hs.upgrades,hs.switched,hs.effects⟩

end Steps

theorem upgrade_within (base64 : Base64Crate) : (WebsocketTransport.upgrade base64).Within 3 := by
  rintro (_ | e)
  · rintro (msg | e | _)
    · by_cases hpong : msg.intoData ≠ Packet.toBytes base64 ⟨.pong,probe⟩
      · simp [hpong,Script.Within]
      · simp only [hpong,↓reduceIte]
        rintro (_ | e) <;> trivial
    · trivial
    · trivial
  · trivial

theorem handle_within (base64 : Base64Crate) : (Websocket.handle base64).Within 6 := by
  have hawait : ∀ n, awaitUpgrade.Within (n+3) := by
    rintro n (msg | e | _)
    · by_cases hfive : msg = .text (encodeUtf8 "5".toList)
      · change Script.Within (n+2) (ite _ _ _)
        rw [if_pos hfive]
        cases n <;> trivial
      · change Script.Within (n+2) (ite _ _ _)
        rw [if_neg hfive]
        trivial
    · trivial
    · trivial
  rintro (msg | e | _)
  · change Script.Within 5 (ite _ _ _)
    by_cases hping : msg = .text (encodeUtf8 "2probe".toList)
    · rw [if_pos hping]
      rintro (_ | e)
      · exact hawait 0
      · trivial
    · rw [if_neg hping]
      exact hawait 1
  · exact hawait 1
  · exact hawait 1

def narrowSession : Session := ⟨1,true,true,false,⟨⟨[[50]],false⟩,true,"MA==",true,false,[]⟩,false,false⟩

/-- The client first; the server waits until a GET has taken the ping from the queue. -/
def wholeUpgrade : List (Act Session) :=
  [.left none,.right none,.right none,.left none,.left none,
    .around { narrowSession with socket.transport.queue := [] },.right none,.right none,.right none,.right none]

theorem run_wholeUpgrade : ∃ w, run (step (Session.perform rfc4648)) (Probing.opened rfc4648 narrowSession)
    wholeUpgrade = some ⟨.done (.ok ()),.done (.ok ()),[],[],false,[],[.drainPolling,.closePolling,.storeTransport],w⟩ :=
  ⟨_,rfl⟩

end SocketIox.EngineIo
