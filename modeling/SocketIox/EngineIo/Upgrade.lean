import SocketIox.EngineIo.PollNext
import SocketIox.Proc.Runs

/-! # The transport upgrade of one server socket

A polling socket has a queue towards the client, which GETs read, and an inbox which
POSTs fill. The map of polling handles and the GETs in flight own the receiving end of
the queue and the sending end of the inbox. The upgrade answers the probe, drains the
GETs with a noop, drops the handle, and replaces the transport and then the generator.
-/
namespace SocketIox.EngineIo
open Wire Proc

inductive Slot where
  | polling
  | websocket
  deriving DecidableEq, Repr

/-- How far `Websocket::handle` has come: the probe is answered, the polling is
drained, the handle is removed. -/
inductive Phase where
  | opened
  | answered
  | drained
  | closed
  deriving DecidableEq, Repr

/-- Where a `polling_get` stands: before the lock, waiting for its first entry,
collecting what is at hand, or done with it. -/
inductive Stage where
  | waiting
  | locked
  | reading
  | drained
  deriving DecidableEq, Repr

structure Get where
  stage : Stage
  byteVec : List Packet
  deriving DecidableEq, Repr

/-- A generator is over after an error and after the end of its transport. -/
inductive Status where
  | running
  | failed
  | ended
  deriving DecidableEq, Repr

/-- The generator over a transport, with the packets it has parsed and not yet yielded. -/
structure Generator where
  source : Slot
  buffer : List (Except Error Packet)
  status : Status
  deriving DecidableEq

/-- A queue entry is held as the packet it encodes. `accepted` are the packets whose
emit was answered with `Ok`, `bodies` those put into the answers of GETs, `sent` those sent
on the websocket, `lost` those dropped with the receiver of the queue. The items that the
two transports have for the generator are `inbox` and `frames`. -/
structure UpgradeState where
  queue : List Packet
  gets : List Get
  handle : Bool
  inbox : List (Except Error Bytes)
  phase : Phase
  transport : Slot
  generator : Generator
  frames : List (Except Error Bytes)
  wsEnded : Bool
  accepted : List Packet
  bodies : List (List Packet)
  sent : List Packet
  lost : List Packet
  answers : List (Poll Item)
  deriving DecidableEq

def UpgradeState.fresh : UpgradeState where
  queue := []
  gets := []
  handle := true
  inbox := []
  phase := .opened
  transport := .polling
  generator := ⟨.polling,[],.running⟩
  frames := []
  wsEnded := false
  accepted := []
  bodies := []
  sent := []
  lost := []
  answers := []

inductive UpgradeAct where
  | emit (packet : Packet)
  | getBegin
  | getLock (i : ℕ)
  | getRecv (i : ℕ)
  | getTryRecv (i : ℕ)
  | getEnd (i : ℕ)
  | post (data : Bytes)
  | answerProbe
  | drainPolling
  | closePolling
  | swapTransport
  | swapGenerator
  | frame (item : Except Error Bytes)
  | endWebsocket
  | poll

namespace UpgradeState
variable (s : UpgradeState)

/-- Someone owns the polling handle: the map, or a GET that has cloned it. -/
def owned : Bool := s.handle || !s.gets.isEmpty

/-- `Socket::emit`; one that fails leaves no trace. -/
def emit (packet : Packet) : UpgradeState :=
  match s.transport with
  | .websocket => { s with accepted := s.accepted ++ [packet], sent := s.sent ++ [packet] }
  | .polling =>
    if s.owned then { s with accepted := s.accepted ++ [packet], queue := s.queue ++ [packet] } else s

/-- The receiver of the queue goes with its last owner. -/
def release : UpgradeState := if s.owned then s else { s with queue := [], lost := s.lost ++ s.queue }

def setGet (i : ℕ) (get : Get) : UpgradeState := { s with gets := get :: s.gets.eraseIdx i }

/-- Transport and generator hold the senders of the queue. -/
def queueClosed : Bool :=
  s.transport = .websocket && (s.generator.source = .websocket || s.generator.status != .running)

def getLock (i : ℕ) : Option UpgradeState :=
  match s.gets[i]? with
  | some ⟨.waiting,byteVec⟩ =>
    if s.gets.all (fun get => get.stage = .waiting) then some (s.setGet i ⟨.locked,byteVec⟩) else none
  | _ => none

def getRecv (i : ℕ) : Option UpgradeState :=
  match s.gets[i]? with
  | some ⟨.locked,byteVec⟩ =>
    match s.queue with
    | packet :: rest => some { s.setGet i ⟨.reading,byteVec ++ [packet]⟩ with queue := rest }
    | [] => if s.queueClosed then some (s.setGet i ⟨.reading,byteVec⟩) else none
  | _ => none

def getTryRecv (i : ℕ) : Option UpgradeState :=
  match s.gets[i]? with
  | some ⟨.reading,byteVec⟩ =>
    match s.queue with
    | packet :: rest => some { s.setGet i ⟨.reading,byteVec ++ [packet]⟩ with queue := rest }
    | [] => some (s.setGet i ⟨.drained,byteVec⟩)
  | _ => none

def getEnd (i : ℕ) : Option UpgradeState :=
  match s.gets[i]? with
  | some ⟨.drained,byteVec⟩ =>
    some ({ s with gets := s.gets.eraseIdx i, bodies := s.bodies ++ [byteVec] }).release
  | _ => none

end UpgradeState

section Poll
variable (base64 : Base64Crate)

/-- The items of the next payload that has any, and the payloads after it. -/
def pull : List (Except Error Bytes) →
    Option (Except Error Packet × List (Except Error Packet) × List (Except Error Bytes))
  | [] => none
  | .error e :: rest => some (.error e,[],rest)
  | .ok bytes :: rest =>
    match parsePayload base64 bytes with
    | [] => pull rest
    | item :: items => some (item,items,rest)

/-- The generator after yielding an item; an error is its last one. -/
def Generator.give (generator : Generator) (item : Except Error Packet) (rest : List (Except Error Packet)) :
    Generator :=
  match item with
  | .ok _ => { generator with buffer := rest }
  | .error _ => { generator with buffer := [], status := .failed }

namespace UpgradeState
variable (s : UpgradeState)

def incoming : List (Except Error Bytes) :=
  match s.generator.source with
  | .polling => s.inbox
  | .websocket => s.frames

def setIncoming (rest : List (Except Error Bytes)) : UpgradeState :=
  match s.generator.source with
  | .polling => { s with inbox := rest }
  | .websocket => { s with frames := rest }

/-- No further payload can come: the senders of the inbox are dropped, or the websocket ended. -/
def exhausted : Bool :=
  match s.generator.source with
  | .polling => !s.owned
  | .websocket => s.wsEnded

def poll : Poll Item × UpgradeState :=
  if s.generator.status = .running then
    match s.generator.buffer with
    | item :: rest => (.ready (some item),{ s with generator := s.generator.give item rest })
    | [] =>
      match pull base64 s.incoming with
      | some (item,items,rest) =>
        (.ready (some item),{ s.setIncoming rest with generator := s.generator.give item items })
      | none =>
        if s.exhausted then (.ready none,{ s with generator := { s.generator with status := .ended } })
        else (.pending,s)
  else (.ready none,s)

def record (answered : Poll Item × UpgradeState) : UpgradeState :=
  { answered.2 with answers := answered.2.answers ++ [answered.1] }

def step (s : UpgradeState) : UpgradeAct → Option UpgradeState
  | .emit packet => some (s.emit packet)
  | .getBegin => some (if s.handle then { s with gets := s.gets ++ [⟨.waiting,[]⟩] } else s)
  | .getLock i => s.getLock i
  | .getRecv i => s.getRecv i
  | .getTryRecv i => s.getTryRecv i
  | .getEnd i => s.getEnd i
  | .post data => some (if s.handle then { s with inbox := s.inbox ++ [.ok data] } else s)
  | .answerProbe => if s.phase = .opened then some { s with phase := .answered } else none
  | .drainPolling => if s.phase = .answered then some { s.emit Packet.noop with phase := .drained } else none
  | .closePolling =>
    if s.phase = .drained then some ({ s with phase := .closed, handle := false }).release else none
  | .swapTransport =>
    if s.phase = .closed ∧ s.transport = .polling then some { s with transport := .websocket } else none
  | .swapGenerator =>
    if s.transport = .websocket ∧ s.generator.source = .polling then
      some { s with generator := ⟨.websocket,[],.running⟩ }
    else none
  | .frame item => if s.phase = .closed ∧ s.wsEnded = false then some { s with frames := s.frames ++ [item] } else none
  | .endWebsocket => if s.phase = .closed then some { s with wsEnded := true } else none
  | .poll => some (record (s.poll base64))

end UpgradeState

end Poll

namespace UpgradeState
variable {s t : UpgradeState} {i : ℕ}

def Takes (s : UpgradeState) (i : ℕ) (t : UpgradeState) : Prop :=
  ∃ get get' queue, s.gets[i]? = some get ∧ get'.byteVec ++ queue = get.byteVec ++ s.queue ∧
    t = { s.setGet i get' with queue := queue }

theorem getLock_takes (h : s.getLock i = some t) : s.Takes i t := by
  unfold getLock at h
  split at h
  · rename_i byteVec hi
    split at h
    · cases h
      exact ⟨_,⟨.locked,byteVec⟩,s.queue,hi,rfl,rfl⟩
    · cases h
  · cases h

theorem getRecv_takes (h : s.getRecv i = some t) : s.Takes i t := by
  unfold getRecv at h
  split at h
  · rename_i byteVec hi
    split at h
    · rename_i packet rest hq
      cases h
      exact ⟨_,⟨.reading,byteVec ++ [packet]⟩,rest,hi,by simp [hq],rfl⟩
    · split at h
      · cases h
        exact ⟨_,⟨.reading,byteVec⟩,s.queue,hi,rfl,rfl⟩
      · cases h
  · cases h

theorem getTryRecv_takes (h : s.getTryRecv i = some t) : s.Takes i t := by
  unfold getTryRecv at h
  split at h
  · rename_i byteVec hi
    split at h
    · rename_i packet rest hq
      cases h
      exact ⟨_,⟨.reading,byteVec ++ [packet]⟩,rest,hi,by simp [hq],rfl⟩
    · cases h
      exact ⟨_,⟨.drained,byteVec⟩,s.queue,hi,rfl,rfl⟩
  · cases h

theorem getEnd_eq (h : s.getEnd i = some t) :
    ∃ byteVec, s.gets[i]? = some ⟨.drained,byteVec⟩ ∧
      t = ({ s with gets := s.gets.eraseIdx i, bodies := s.bodies ++ [byteVec] }).release := by
  unfold getEnd at h
  split at h
  · rename_i byteVec hi
    cases h
    exact ⟨byteVec,hi,rfl⟩
  · cases h

theorem poll_eq (base64 : Base64Crate) (s : UpgradeState) :
    ∃ generator inbox frames, (s.poll base64).2 = { s with
      generator := generator, inbox := inbox, frames := frames } := by
  unfold poll setIncoming
  split
  · split
    · exact ⟨_,s.inbox,s.frames,rfl⟩
    · split
      · split
        · exact ⟨_,_,s.frames,rfl⟩
        · exact ⟨_,s.inbox,_,rfl⟩
      · split
        · exact ⟨_,s.inbox,s.frames,rfl⟩
        · exact ⟨s.generator,s.inbox,s.frames,rfl⟩
  · exact ⟨s.generator,s.inbox,s.frames,rfl⟩

end UpgradeState

end SocketIox.EngineIo
