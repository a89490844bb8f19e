import Mathlib.Data.Finset.Basic
import SocketIox.EngineIo.SidGenerator
import SocketIox.Proc.Runs
import SocketIox.Proc.Tasks
import SocketIox.Store.Groups

/-! # The registries of the engine server

A connection is opened by polling or directly as a websocket. It is given a session id,
polling leaves a handle, `Socket::connect` publishes `OnOpen`, and then the socket is
stored and pinged. Upgrades drop the handle, `close_socket` removes the socket and
disconnects it. All of these run in tasks of their own, and so does the consumer of the
events.
-/
namespace SocketIox.EngineIo
open Wire Proc

/-- Where an open stands: it has a session id, it has left its polling handle, it has
published `OnOpen`. -/
inductive OpenStage where
  | generated
  | handled
  | published
  deriving DecidableEq, Repr

/-- An open that has not stored its socket yet. Connections are numbered. -/
structure Opening where
  conn : ℕ
  sid : String
  polling : Bool
  stage : OpenStage
  deriving DecidableEq, Repr

def Opening.connects (opening : Opening) : Bool :=
  opening.stage = (if opening.polling then .handled else .generated)

theorem Opening.not_published_of_connects {opening : Opening} (h : opening.connects = true) :
    opening.stage ≠ .published := by
  have hstage := of_decide_eq_true h
  rw [hstage]
  split <;> simp

/-- How far an upgrade has come: before the noop, before the upgrade packet, after
removing the handle. -/
inductive UpgradeStage where
  | probing
  | drained
  | closed
  deriving DecidableEq, Repr

structure Upgrading where
  sid : String
  stage : UpgradeStage
  deriving DecidableEq, Repr

inductive ServerEvent where
  | onOpen (conn : ℕ) (sid : String)
  | onClose (sid : String)
  deriving DecidableEq, Repr

/-- `connected` are the connections whose flag is set, `closings` the calls of
`close_socket` that still have to disconnect, `pings` the running ping loops. `stored`
records the sockets stored so far, the latest first, and `closed` the session ids on
which `close_socket` has run. -/
structure Server where
  seq : UInt64
  opened : ℕ
  pollingHandles : Finset String
  sockets : Store.Map String ℕ
  connected : List (ℕ × String)
  events : List ServerEvent
  openings : List Opening
  upgrades : List Upgrading
  closings : List (ℕ × String)
  pings : List String
  stored : List (ℕ × String)
  closed : List String

def Server.fresh : Server := ⟨0,0,∅,∅,[],[],[],[],[],[],[],[]⟩

inductive ServerAct where
  | openBegin (polling : Bool)
  | openAbort (i : ℕ)
  | openHandle (i : ℕ)
  | openPublish (i : ℕ)
  | openFail (i : ℕ)
  | openStore (i : ℕ)
  | receive
  | closeSocket (sid : String)
  | closeEnd (i : ℕ)
  | pingTimeout (i : ℕ)
  | closePacket (conn : ℕ) (sid : String)
  | upgradeBegin (sid : String)
  | upgradeDrain (i : ℕ)
  | upgradeClose (i : ℕ)
  | upgradeAbort (i : ℕ)
  | upgradeStore (i : ℕ)
  deriving DecidableEq, Repr

namespace Server
variable (base64 : Base64Crate) (s : Server)

/-- `generate_sid`; the counter wraps around. -/
def openBegin (polling : Bool) : Server := { s with
  seq := s.seq+1
  opened := s.opened+1
  openings := s.openings ++ [⟨s.opened,SidGenerator.generate base64 s.seq,polling,.generated⟩] }

/-- `polling_transport` inserts the handle. -/
def openHandle (i : ℕ) (opening : Opening) : Server := { s with
  pollingHandles := insert opening.sid s.pollingHandles
  openings := s.openings.set i { opening with stage := .handled } }

/-- `Socket::connect` sets the flag and sends `OnOpen`. -/
def openPublish (i : ℕ) (opening : Opening) : Server := { s with
  connected := s.connected ++ [(opening.conn,opening.sid)]
  events := s.events ++ [.onOpen opening.conn opening.sid]
  openings := s.openings.set i { opening with stage := .published } }

/-- `store_transport` inserts the socket and starts its ping loop. -/
def openStore (i : ℕ) (opening : Opening) : Server := { s with
  sockets := s.sockets.insert opening.sid opening.conn
  openings := s.openings.eraseIdx i
  pings := s.pings ++ [opening.sid]
  stored := (opening.conn,opening.sid) :: s.stored }

/-- `close_socket` up to its first wait. -/
def closeSocket (sid : String) : Server :=
  match s.sockets.lookup sid with
  | some conn => { s with
      sockets := s.sockets.erase sid
      closings := s.closings ++ [(conn,sid)]
      closed := sid :: s.closed }
  | none => { s with closed := sid :: s.closed }

def publishClose (socket : ℕ × String) : Server :=
  if socket ∈ s.connected then { s with
    connected := s.connected.erase socket
    events := s.events ++ [.onClose socket.2] }
  else s

def step (s : Server) : ServerAct → Option Server
  | .openBegin polling => some (s.openBegin base64 polling)
  | .openAbort i =>
    match s.openings[i]? with
    | some opening =>
      -- the handshake message of a direct websocket could not be sent
      if opening.polling = false ∧ opening.stage = .generated then
        some { s with openings := s.openings.eraseIdx i }
      else none
    | none => none
  | .openHandle i =>
    match s.openings[i]? with
    | some opening =>
      if opening.polling = true ∧ opening.stage = .generated then some (s.openHandle i opening) else none
    | none => none
  | .openPublish i =>
    match s.openings[i]? with
    | some opening => if opening.connects then some (s.openPublish i opening) else none
    | none => none
  | .openFail i =>
    match s.openings[i]? with
    | some opening => if opening.connects then some { s with openings := s.openings.eraseIdx i } else none
    | none => none
  | .openStore i =>
    match s.openings[i]? with
    | some opening => if opening.stage = .published then some (s.openStore i opening) else none
    | none => none
  | .receive =>
    match s.events with
    | _ :: rest => some { s with events := rest }
    | [] => none
  | .closeSocket sid => some (s.closeSocket sid)
  | .closeEnd i =>
    match s.closings[i]? with
    | some socket => some ({ s with closings := s.closings.eraseIdx i }.publishClose socket)
    | none => none
  | .pingTimeout i =>
    match s.pings[i]? with
    | some sid => some ({ s with pings := s.pings.eraseIdx i }.closeSocket sid)
    | none => none
  | .closePacket conn sid => some (s.publishClose (conn,sid))
  | .upgradeBegin sid => some { s with upgrades := s.upgrades ++ [⟨sid,.probing⟩] }
  | .upgradeDrain i =>
    match s.upgrades[i]? with
    | some ⟨sid,.probing⟩ => some { s with upgrades := s.upgrades.set i ⟨sid,.drained⟩ }
    | _ => none
  | .upgradeClose i =>
    match s.upgrades[i]? with
    | some ⟨sid,.drained⟩ => some { s with
        pollingHandles := s.pollingHandles.erase sid
        upgrades := s.upgrades.set i ⟨sid,.closed⟩ }
    | _ => none
  | .upgradeAbort i =>
    match s.upgrades[i]? with
    | some ⟨_,.closed⟩ => none
    | some _ => some { s with upgrades := s.upgrades.eraseIdx i }
    | none => none
  | .upgradeStore i =>
    match s.upgrades[i]? with
    | some ⟨_,.closed⟩ => some { s with upgrades := s.upgrades.eraseIdx i }
    | _ => none

/-- What a step can do. Opens that end without a socket, calls of `close_socket`,
publications of `OnClose` and steps of upgrades come from several actions. -/
inductive Does (s : Server) : ServerAct → Server → Prop
  | openBegin (polling : Bool) : Does s (.openBegin polling) (s.openBegin base64 polling)
  | openEnd {act : ServerAct} (i : ℕ) (opening : Opening) (hi : s.openings[i]? = some opening)
      (hact : act = .openAbort i ∧ opening.polling = false ∧ opening.stage = .generated ∨
        act = .openFail i ∧ opening.connects = true) :
      Does s act { s with openings := s.openings.eraseIdx i }
  | openHandle (i : ℕ) (opening : Opening) (hi : s.openings[i]? = some opening)
      (hpolling : opening.polling = true) (hstage : opening.stage = .generated) :
      Does s (.openHandle i) (s.openHandle i opening)
  | openPublish (i : ℕ) (opening : Opening) (hi : s.openings[i]? = some opening)
      (hconnects : opening.connects = true) : Does s (.openPublish i) (s.openPublish i opening)
  | openStore (i : ℕ) (opening : Opening) (hi : s.openings[i]? = some opening)
      (hstage : opening.stage = .published) : Does s (.openStore i) (s.openStore i opening)
  | receive (event : ServerEvent) (rest : List ServerEvent) (hevents : s.events = event :: rest) :
      Does s .receive { s with events := rest }
  | closeSocket {act : ServerAct} (sid : String) (pings : List String)
      (hact : act = .closeSocket sid ∨ ∃ i, act = .pingTimeout i ∧ s.pings[i]? = some sid) :
      Does s act ({ s with pings := pings }.closeSocket sid)
  | publishClose {act : ServerAct} (socket : ℕ × String) (closings : List (ℕ × String)) :
      Does s act ({ s with closings := closings }.publishClose socket)
  | upgrade {act : ServerAct} (upgrades : List Upgrading) (handles : Finset String)
      (hhandles : handles ⊆ s.pollingHandles) :
      Does s act { s with upgrades := upgrades, pollingHandles := handles }

variable {base64} {s} {t : Server} {act : ServerAct}

theorem step_does (h : step base64 s act = some t) : Does base64 s act t := by
  cases act with
  | openBegin polling =>
    cases h
    exact .openBegin polling
  | openAbort i =>
    simp only [step] at h
    split at h
    · rename_i opening hi
      split at h
      · rename_i hc
        cases h
        exact .openEnd i opening hi (Or.inl ⟨rfl,hc⟩)
      · cases h
    · cases h
  | openHandle i =>
    simp only [step] at h
    split at h
    · rename_i opening hi
      split at h
      · rename_i hc
        cases h
        exact .openHandle i opening hi hc.1 hc.2
      · cases h
    · cases h
  | openPublish i =>
    simp only [step] at h
    split at h
    · rename_i opening hi
      split at h
      · rename_i hc
        cases h
        exact .openPublish i opening hi hc
      · cases h
    · cases h
  | openFail i =>
    simp only [step] at h
    split at h
    · rename_i opening hi
      split at h
      · rename_i hc
        cases h
        exact .openEnd i opening hi (Or.inr ⟨rfl,hc⟩)
      · cases h
    · cases h
  | openStore i =>
    simp only [step] at h
    split at h
    · rename_i opening hi
      split at h
      · rename_i hc
        cases h
        exact .openStore i opening hi hc
      · cases h
    · cases h
  | receive =>
    simp only [step] at h
    split at h
    · rename_i event rest he
      cases h
      exact .receive event rest he
    · cases h
  | closeSocket sid =>
    cases h
    exact .closeSocket sid s.pings (Or.inl rfl)
  | closeEnd i =>
    simp only [step] at h
    split at h
    · rename_i socket hi
      cases h
      exact .publishClose socket _
    · cases h
  | pingTimeout i =>
    simp only [step] at h
    split at h
    · rename_i sid hi
      cases h
      exact .closeSocket sid _ (Or.inr ⟨i,rfl,hi⟩)
    · cases h
  | closePacket conn sid =>
    cases h
    exact .publishClose (conn,sid) s.closings
  | upgradeBegin sid =>
    cases h
    exact .upgrade _ _ (Finset.Subset.refl _)
  | upgradeDrain i =>
    simp only [step] at h
    split at h
    · cases h
      exact .upgrade _ _ (Finset.Subset.refl _)
    · cases h
  | upgradeClose i =>
    simp only [step] at h
    split at h
    · cases h
      exact .upgrade _ _ (Finset.erase_subset _ _)
    · cases h
  | upgradeAbort i =>
    simp only [step] at h
    split at h
    · cases h
    · cases h
      exact .upgrade _ _ (Finset.Subset.refl _)
    · cases h
  | upgradeStore i =>
    simp only [step] at h
    split at h
    · cases h
      exact .upgrade _ _ (Finset.Subset.refl _)
    · cases h

end Server

end SocketIox.EngineIo
