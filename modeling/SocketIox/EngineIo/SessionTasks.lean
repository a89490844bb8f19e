import SocketIox.EngineIo.Handshake
import SocketIox.EngineIo.HttpResponse
import SocketIox.EngineIo.Socket

/-! # What the server does for a session

The methods of a socket and the handlers of the requests that come in for its session run on
tasks of their own. A task is cut where it waits for something, and where others can see what
it has done: it publishes events on the channel that all sessions share, and looks into the
two maps that they share, whose shards are locked while a task has a reference into them.
Where nothing comes between its steps, a task does what the one call does that it stands for.
-/
namespace SocketIox.EngineIo
open Wire

inductive Table where
  | handles
  | sockets
  deriving DecidableEq, Repr

/-- `borrow` keeps a reference into `sockets` until `giveBack`, and `post` has one into
`polling_handles`. `choose` is decided by what comes over the websocket of a request. -/
inductive SessionTask where
  | done
  | isConnected (yes no : SessionTask)
  | publish (event : Event) (next : SessionTask)
  | lock (next : SessionTask)
  | unlock (next : SessionTask)
  | send (packet : Packet) (sent : SessionTask) (refused : Error → SessionTask)
  | clear (next : SessionTask)
  | store (next : SessionTask)
  | remove (removed missing : SessionTask)
  | find (found missing : SessionTask)
  | borrow (exclusive : Bool) (found missing : SessionTask)
  | giveBack (exclusive : Bool) (next : SessionTask)
  | choose (yes no : SessionTask)
  | openPolling (next : SessionTask)
  | closePolling (next : SessionTask)
  | switch (next : SessionTask)
  | post (data : Bytes)
  | awaitGet
  | get (body : List Bytes)
  | respondOpen

section Methods
variable (sid : String)

/-- `Socket::emit`, with what follows when it has succeeded and when it has failed. -/
def emitTask (packet : Packet) (sent failed : SessionTask) : SessionTask :=
  .isConnected
    (.lock (.send packet (.unlock sent) (fun e => .publish (.onError sid e) (.unlock failed))))
    (.publish (.onError sid .illegalActionBeforeOpen) failed)

def sendAllTask : List Packet → SessionTask
  | [] => .unlock .done
  | packet :: rest => .send packet (sendAllTask rest) (fun e => .publish (.onError sid e) (.unlock .done))

def emitMultiTask (packets : List Packet) : SessionTask :=
  .isConnected (.lock (sendAllTask sid packets)) (.publish (.onError sid .illegalActionBeforeOpen) .done)

def disconnectTask : SessionTask :=
  .isConnected (.publish (.onClose sid) (emitTask sid ⟨.close,[]⟩ (.clear .done) .done)) .done

/-- `Socket::handle_incoming_packet` of a socket that does not pong. -/
def handleTask (packet : Packet) : SessionTask :=
  .publish (.onPacket sid packet)
    (match packet.ptype with
    | .messageBinary | .message => .publish (.onData sid packet.data) .done
    | .close => .isConnected (.publish (.onClose sid) (.clear .done)) .done
    | .upgrade | .ping | .pong | .open_ | .noop => .done)

/-- `Server::emit`, which keeps its reference while it waits. -/
def serverEmitTask (packet : Packet) : SessionTask :=
  .borrow false (emitTask sid packet (.giveBack false .done) (.giveBack false .done)) .done

def closeSocketTask : SessionTask := .remove (disconnectTask sid) .done

/-- `Polling::handle` for an open, after the id has been generated. -/
def openTask : SessionTask := .openPolling (.publish (.onOpen sid) (.store .respondOpen))

/-- `Websocket::handle` without a session, after the id has been generated. -/
def directTask : SessionTask := .choose (.publish (.onOpen sid) (.store .done)) .done

/-- `store_transport` for an upgrade. -/
def storeUpgradeTask : SessionTask := .borrow true (.lock (.switch (.unlock (.giveBack true .done)))) .done

/-- `Websocket::handle` for a session, after the websocket has been accepted: the probe is answered, the polling is
drained, and the upgrade packet comes. -/
def probeTask : SessionTask :=
  let upgrade := .choose (.closePolling storeUpgradeTask) .done
  .choose (.find (emitTask sid Packet.noop upgrade upgrade) upgrade) .done

end Methods

def EmitCall.task (sid : String) : EmitCall → SessionTask
  | .emit packet => emitTask sid packet .done .done
  | .emitMulti packets => emitMultiTask sid packets

inductive SocketMethod where
  | call (call : EmitCall)
  | disconnect
  | handleIncomingPacket (packet : Packet)
  | serverEmit (packet : Packet)
  | closeSocket
  deriving DecidableEq, Repr

def SocketMethod.task (sid : String) : SocketMethod → SessionTask
  | .call c => c.task sid
  | .disconnect => disconnectTask sid
  | .handleIncomingPacket packet => handleTask sid packet
  | .serverEmit packet => serverEmitTask sid packet
  | .closeSocket => closeSocketTask sid

/-- The option of the server and what it is built with; `shard` is where the hash of a session id puts its entries. -/
structure PollingSetup where
  crates : HttpCrates
  checked : Bool
  addr : String
  base64 : Base64Crate
  json : StructJson
  option : ServerOption
  reason : ℕ → List Char
  pollingBuffer : ℕ
  eventSize : ℕ
  shard : Table → String → ℕ

/-- The server's end of a session: the two queues of its polling, and `frames` on its websocket once it is
`upgraded`. `receivers` are the GETs that have the receiving end of `queue`, one of them being at it while
`receiving`. `stored` as long as `sockets` has it, and `dropped` when the last clone of its socket is gone. -/
structure SessionEnd where
  connected : Bool
  locked : Bool
  queue : List Bytes
  inbox : List Bytes
  receivers : ℕ
  receiving : Bool
  upgraded : Bool
  frames : List Message
  stored : Bool
  dropped : Bool
  deriving DecidableEq, Repr

def SessionEnd.fresh (upgraded : Bool) : SessionEnd := ⟨true,false,[],[],0,false,upgraded,[],false,false⟩

/-- The socket has no polling transport any more. -/
def SessionEnd.gone (e : SessionEnd) : Bool := e.upgraded || e.dropped

inductive Holding where
  | keep
  | borrow (table : Table) (exclusive : Bool)
  | giveBack (table : Table) (exclusive : Bool)
  deriving DecidableEq, Repr

/-- What a task does in one step. `needs` is the map that it looks into, with whether it changes it; `handle` is set
where it puts the session into `polling_handles` or takes it out. -/
structure Progress where
  session : Option SessionEnd
  next : SessionTask
  event : Option Event := none
  needs : Option (Table × Bool) := none
  holding : Holding := .keep
  handle : Option Bool := none
  answer : Option (Option Bytes) := none

namespace SessionTask
variable (setup : PollingSetup)

def written (action : HttpAction) (handshake : List Char) (pending : Option (List Char)) : Option Bytes :=
  (action.answer true handshake pending).bind (fun answer => writeStream setup.reason answer.1 answer.2)

/-- The transport of a socket takes a packet: a queue waits for room while it has a receiver. -/
def sendStep (handle : Bool) (outcome : Option String) (packet : Packet) (sent : SessionTask)
    (refused : Error → SessionTask) (e : SessionEnd) : Option Progress :=
  if e.upgraded then
    match Message.tryFrom (packet.toData setup.base64), outcome with
    | .error error, _ => some { session := e, next := refused error }
    | .ok _, some error => some { session := e, next := refused (.wsError error) }
    | .ok message, none => some { session := some { e with frames := e.frames ++ [message] }, next := sent }
  else
    let data := pollingBody setup.base64 (packet.toData setup.base64)
    if handle = false ∧ e.receivers = 0 then some { session := e, next := refused (.sendError data) }
    else if e.queue.length < setup.pollingBuffer then
      some { session := some { e with queue := e.queue ++ [data] }, next := sent }
    else none

/-- `polling_post`: a body that cannot be sent any more is dropped. -/
def postStep (sid : String) (data : Bytes) (e : SessionEnd) : Option Progress :=
  let answer := some (written setup (.post sid data) [] none)
  if e.gone then
    some { session := e, next := .done, holding := .giveBack .handles true, answer := answer }
  else if e.inbox.length < setup.pollingBuffer then
    some {
      session := some { e with inbox := e.inbox ++ [data] }
      next := .done
      holding := .giveBack .handles true
      answer := answer }
  else none

/-- The loops of `polling_get`: it waits for one packet and takes what else is there. -/
def getStep (sid : String) (body : List Bytes) (e : SessionEnd) : Option Progress :=
  match e.queue with
  | data :: rest => some { session := some { e with queue := rest }, next := .get (body ++ [data]) }
  | [] =>
    if body = [] ∧ e.gone = false then none
    else
      let pending := (buildPollingPayload setup.base64 body).bind decodeUtf8
      some {
        session := some { e with receiving := false, receivers := e.receivers-1 }
        next := .done
        answer := some (written setup (.get sid) [] pending) }

/-- One step of a task for a session, given whether `polling_handles` has it and how something over a websocket comes
out; nothing where the task waits. -/
def step (sid : String) (handle : Bool) (outcome : Option String) : SessionTask → Option SessionEnd → Option Progress
  | .isConnected yes no, some e => some { session := e, next := if e.connected then yes else no }
  | .publish event next, e => some { session := e, next := next, event := some event }
  | .lock next, some e => if e.locked then none else some { session := some { e with locked := true }, next := next }
  | .unlock next, some e => some { session := some { e with locked := false }, next := next }
  | .send packet sent refused, some e => sendStep setup handle outcome packet sent refused e
  | .clear next, some e => some { session := some { e with connected := false }, next := next }
  | .store next, some e =>
    some { session := some { e with stored := true }, next := next, needs := some (.sockets,true) }
  | .remove removed missing, some e =>
    if e.stored then
      some { session := some { e with stored := false }, next := removed, needs := some (.sockets,true) }
    else some { session := e, next := missing, needs := some (.sockets,true) }
  | .find found missing, some e =>
    some { session := e, next := if e.stored then found else missing, needs := some (.sockets,false) }
  | .find _ missing, none => some { session := none, next := missing, needs := some (.sockets,false) }
  | .borrow exclusive found missing, some e =>
    if e.stored then
      some { session := e, next := found, needs := some (.sockets,exclusive), holding := .borrow .sockets exclusive }
    else some { session := e, next := missing, needs := some (.sockets,exclusive) }
  | .borrow exclusive _ missing, none => some { session := none, next := missing, needs := some (.sockets,exclusive) }
  | .giveBack exclusive next, e => some { session := e, next := next, holding := .giveBack .sockets exclusive }
  | .choose yes no, e => some { session := e, next := if outcome = none then yes else no }
  | .openPolling next, e => some { session := e, next := next, needs := some (.handles,true), handle := some true }
  | .closePolling next, e => some { session := e, next := next, needs := some (.handles,true), handle := some false }
  | .switch next, some e => some { session := some { e with upgraded := true }, next := next }
  | .post data, some e => postStep setup sid data e
  | .awaitGet, some e =>
    if e.receiving then none else some { session := some { e with receiving := true }, next := .get [] }
  | .get body, some e => getStep setup sid body e
  | .respondOpen, e => some {
      session := e
      next := .done
      answer := some (written setup .open_ (handshakeBody setup.json setup.option sid) none) }
  | _, _ => none

end SessionTask

section Uninterrupted
variable (setup : PollingSetup) (sid : String) (handle : Bool)

/-- The socket of a session that has not been upgraded. -/
def SessionEnd.socket (e : SessionEnd) (events : List Event) : Socket ServerPollingTransport :=
  ⟨⟨e.queue,!handle && e.receivers = 0⟩,e.connected,sid,true,false,events⟩

/-- The task, with the session and the events so far, gets there in steps that nothing else comes between. -/
def Leads : SessionTask × SessionEnd × List Event → SessionTask × SessionEnd × List Event → Prop :=
  Relation.ReflTransGen (fun x y => ∃ outcome p, x.1.step setup sid handle outcome (some x.2.1) = some p ∧
    p.session = some y.2.1 ∧ p.next = y.1 ∧ y.2.2 = x.2.2 ++ p.event.toList)

variable {setup} {sid} {handle} {e : SessionEnd} {events : List Event} {y : SessionTask × SessionEnd × List Event}

theorem leads_step {task : SessionTask} {p : Progress} {e' : SessionEnd}
    (h : task.step setup sid handle none (some e) = some p) (hp : p.session = some e')
    (hrest : Leads setup sid handle (p.next,e',events ++ p.event.toList) y) : Leads setup sid handle (task,e,events) y :=
  Relation.ReflTransGen.head ⟨none,p,h,hp,rfl,rfl⟩ hrest

theorem leads_publish {event : Event} {next : SessionTask} (h : Leads setup sid handle (next,e,events ++ [event]) y) :
    Leads setup sid handle (.publish event next,e,events) y :=
  leads_step (p := { session := e, next := next, event := some event }) rfl rfl h

theorem leads_quiet {task next : SessionTask} {e' : SessionEnd}
    (h : task.step setup sid handle none (some e) = some ⟨some e',next,none,none,.keep,none,none⟩)
    (hrest : Leads setup sid handle (next,e',events) y) : Leads setup sid handle (task,e,events) y := by
  refine leads_step h rfl ?_
  rw [Option.toList_none,List.append_nil]
  exact hrest

theorem leads_unlock {next : SessionTask} (h : Leads setup sid handle (next,{ e with locked := false },events) y) :
    Leads setup sid handle (.unlock next,e,events) y := leads_quiet rfl h

theorem leads_taken {packet : Packet} {sent : SessionTask} {refused : Error → SessionTask} (hup : e.upgraded = false)
    (hroom : e.queue.length < setup.pollingBuffer) (hopen : (!handle && e.receivers = 0) = false)
    (h : Leads setup sid handle
      (sent,{ e with queue := e.queue ++ [pollingBody setup.base64 (packet.toData setup.base64)] },events) y) :
    Leads setup sid handle (.send packet sent refused,e,events) y := by
  have hreach : ¬ (handle = false ∧ e.receivers = 0) := by simpa using hopen
  refine leads_quiet ?_ h
  simp only [SessionTask.step,SessionTask.sendStep,hup,Bool.false_eq_true,↓reduceIte,if_neg hreach,if_pos hroom]

theorem leads_refused {packet : Packet} {sent : SessionTask} {refused : Error → SessionTask} (hup : e.upgraded = false)
    (hclosed : (!handle && e.receivers = 0) = true)
    (h : Leads setup sid handle
      (refused (.sendError (pollingBody setup.base64 (packet.toData setup.base64))),e,events) y) :
    Leads setup sid handle (.send packet sent refused,e,events) y := by
  have hgone : handle = false ∧ e.receivers = 0 := by simpa using hclosed
  refine leads_quiet ?_ h
  simp only [SessionTask.step,SessionTask.sendStep,hup,Bool.false_eq_true,↓reduceIte,if_pos hgone]

theorem sendAllTask_leads (hup : e.upgraded = false) {packets : List Packet}
    (hroom : e.queue.length + packets.length ≤ setup.pollingBuffer) : ∃ e' events',
      Leads setup sid handle (sendAllTask sid packets,e,events) (.done,e',events') ∧
      e'.socket sid handle events' = ((e.socket sid handle events).emitMultiLoop setup.base64 packets).2 := by
  induction packets generalizing e with
  | nil => exact ⟨_,_,leads_unlock .refl,rfl⟩
  | cons packet rest ih =>
    rw [List.length_cons] at hroom
    cases hclosed : (!handle && e.receivers = 0 : Bool) with
    | true =>
      refine ⟨_,_,leads_refused hup hclosed (leads_publish (leads_unlock .refl)),?_⟩
      simp [Socket.emitMultiLoop,Socket.transmit,Transport.emit,ServerPollingTransport.emit,SessionEnd.socket,
        Socket.onError,Socket.publish,hclosed]
    | false =>
      have hroom' : (e.queue ++ [pollingBody setup.base64 (packet.toData setup.base64)]).length + rest.length ≤
          setup.pollingBuffer := by
        rw [List.length_append,List.length_singleton]
        omega
      obtain ⟨e',events',hleads,hsocket⟩ :=
        ih (e := { e with queue := e.queue ++ [pollingBody setup.base64 (packet.toData setup.base64)] }) hup hroom'
      refine ⟨e',events',leads_taken hup (by omega) hclosed hleads,?_⟩
      rw [hsocket]
      simp [Socket.emitMultiLoop,Socket.transmit,Transport.emit,ServerPollingTransport.emit,SessionEnd.socket,hclosed]

theorem task_call (call : EmitCall) : call.task sid = emitMultiTask sid call.packets := by
  cases call <;> rfl

/-- A call on an unlocked socket, whose queue has room, does what it does where nothing comes between. -/
theorem call_uninterrupted (hup : e.upgraded = false) (hlock : e.locked = false) (call : EmitCall)
    (hroom : e.queue.length + call.packets.length ≤ setup.pollingBuffer) : ∃ e' events',
      Leads setup sid handle (call.task sid,e,events) (.done,e',events') ∧
      e'.socket sid handle events' = ((e.socket sid handle events).call setup.base64 call).2 := by
  rw [task_call]
  by_cases hc : (e.socket sid handle events).connected = true
  · rw [Socket.call_of_connected hc]
    have hconnected : (emitMultiTask sid call.packets).step setup sid handle none (some e) =
        some ⟨some e,.lock (sendAllTask sid call.packets),none,none,.keep,none,none⟩ :=
      congrArg (fun next => some (Progress.mk (some e) next none none .keep none none)) (if_pos hc)
    have hlocks : (SessionTask.lock (sendAllTask sid call.packets)).step setup sid handle none (some e) =
        some ⟨some { e with locked := true },sendAllTask sid call.packets,none,none,.keep,none,none⟩ := by
      simp only [SessionTask.step,hlock,Bool.false_eq_true,↓reduceIte]
    have hlocked : { e with locked := true }.upgraded = false := hup
    obtain ⟨e',events',hleads,hsocket⟩ := sendAllTask_leads hlocked hroom
    exact ⟨e',events',leads_quiet hconnected (leads_quiet hlocks hleads),hsocket⟩
  · rw [Socket.call_of_closed hc]
    have hclosed : (emitMultiTask sid call.packets).step setup sid handle none (some e) =
        some ⟨some e,.publish (.onError sid .illegalActionBeforeOpen) .done,none,none,.keep,none,none⟩ :=
      congrArg (fun next => some (Progress.mk (some e) next none none .keep none none)) (if_neg hc)
    exact ⟨e,_,leads_quiet hclosed (leads_publish .refl),rfl⟩

/-- An inbox with room takes a body as the one call of `polling_post` does. -/
theorem postStep_pollingPost (hgone : e.gone = false) (hroom : e.inbox.length < setup.pollingBuffer)
    {handles : PollingHandles} (h : handles.lookup sid = some ⟨e.inbox,false⟩) (data : Bytes) : ∃ p e',
      SessionTask.postStep setup sid data e = some p ∧ p.session = some e' ∧
      (pollingPost handles sid data).lookup sid = some ⟨e'.inbox,false⟩ := by
  have hpost : SessionTask.postStep setup sid data e = some {
      session := some { e with inbox := e.inbox ++ [data] }
      next := .done
      holding := .giveBack .handles true
      answer := some (SessionTask.written setup (.post sid data) [] none) } := by
    simp only [SessionTask.postStep,hgone,Bool.false_eq_true,↓reduceIte,if_pos hroom]
  exact ⟨_,_,hpost,rfl,lookup_pollingPost_self h data⟩

theorem get_leads {queue body : List Bytes} : Leads setup sid handle (.get body,{ e with queue := queue },events)
    (.get (body ++ queue),{ e with queue := [] },events) := by
  induction queue generalizing body with
  | nil =>
    rw [List.append_nil]
    exact .refl
  | cons data rest ih =>
    have hrest := @ih (body ++ [data])
    rw [List.append_assoc,List.singleton_append] at hrest
    exact leads_quiet rfl hrest

/-- A GET that nothing comes between takes what is queued, and answers as the one call of `polling_get` does. -/
theorem get_pollingGet (hreceiving : e.receiving = false) (hqueued : e.queue ≠ []) : ∃ e' p,
    Leads setup sid handle (.awaitGet,e,events) (.get e.queue,e',events) ∧
    SessionTask.getStep setup sid e.queue e' = some p ∧ e'.queue = (pollingGet setup.base64 ⟨e.queue,false⟩).2.queue ∧
    p.answer = some (SessionTask.written setup (.get sid) []
      ((pollingGet setup.base64 ⟨e.queue,false⟩).1.bind decodeUtf8)) := by
  have htaken : ¬ (e.queue = [] ∧ e.gone = false) := fun h => hqueued h.1
  have hawait : SessionTask.awaitGet.step setup sid handle none (some e) =
      some ⟨some { e with receiving := true },.get [],none,none,.keep,none,none⟩ := by
    simp only [SessionTask.step,hreceiving,Bool.false_eq_true,↓reduceIte]
  have hget : SessionTask.getStep setup sid e.queue { e with receiving := true, queue := [] } = some {
      session := some { e with
        queue := []
        receiving := false
        receivers := e.receivers-1 }
      next := .done
      answer := some (SessionTask.written setup (.get sid) []
        ((buildPollingPayload setup.base64 e.queue).bind decodeUtf8)) } := if_neg htaken
  have htake : Leads setup sid handle (.get [],{ e with receiving := true },events)
      (.get e.queue,{ e with receiving := true, queue := [] },events) :=
    @get_leads _ _ _ { e with receiving := true } _ e.queue []
  exact ⟨_,_,leads_quiet hawait htake,hget,rfl,rfl⟩

end Uninterrupted

end SocketIox.EngineIo
