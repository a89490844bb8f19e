import SocketIox.EngineIo.HttpHandling
import SocketIox.Proc.Runs

/-! # The ping loop of a connection

`start_ping_pong` spawns a task that sends a ping at every tick of an interval, looks at
`last_pong` and closes the socket once that is too long ago. `last_pong` is set whenever
the stream of the socket is read and a packet comes out. Time is in milliseconds and
passes between any two steps.
-/
namespace SocketIox.EngineIo
open Proc

/-- Why the loop was left: the ping was refused, the socket was gone, or `last_pong`, the
time given here, was too long ago. -/
inductive LeaveReason where
  | refused
  | missing
  | timeout (lastPong : ℕ)
  deriving DecidableEq, Repr

/-- Where the task of the loop stands, at a tick, at `emit`, at `last_pong`, or at `close_socket`. -/
inductive PingTask where
  | ticking
  | emitting
  | checking
  | closing (reason : LeaveReason) (since : ℕ)
  | ended (reason : LeaveReason)
  deriving DecidableEq, Repr

/-- One connection on the server, what is on its way in both directions with the time it was
sent, and its client. `stored` says whether `sockets` has the socket, `reading` whether its
stream is polled, `deadline` is the next tick, and `pings` are the times of the pings sent,
the latest first. -/
structure PingPong where
  interval : ℕ
  timeout : ℕ
  now : ℕ
  stored : Bool
  connected : Bool
  lastPong : ℕ
  reading : Bool
  deadline : ℕ
  task : PingTask
  pings : List ℕ
  toClient : List ℕ
  toServer : List (ℕ × PacketType)
  shouldPong : Bool
  deriving DecidableEq, Repr

inductive PingAct where
  | elapse (duration : ℕ)
  | tick
  | emit (accepted : Bool)
  | check
  | close (accepted : Bool)
  | closeSocket (accepted : Bool)
  | receive
  | stopReading
  | clientRead (completed : Bool)
  | clientSend (ptype : PacketType)
  | clientStop
  deriving DecidableEq, Repr

namespace PingPong

/-- The loop that `start_ping_pong` spawns for a socket created at a time, with what the client
has sent by then. An overflow of the timeout panics or wraps around, and a period of zero panics. -/
def start (checked : Bool) (option : ServerOption) (early : List (ℕ × PacketType)) (created now : ℕ) :
    Option PingPong :=
  match addUsize checked option.pingTimeout option.pingInterval with
  | .error _ => none
  | .ok timeout =>
    if option.pingInterval = 0 then none
    else some ⟨option.pingInterval,timeout,now,true,true,created,true,now,.ticking,[],[],early,true⟩

variable (s : PingPong)

def remove (accepted : Bool) : PingPong :=
  if s.stored then { s with stored := false, connected := s.connected && !accepted } else s

def step (s : PingPong) : PingAct → Option PingPong
  | .elapse duration => some { s with now := s.now+duration }
  | .tick =>
    -- a tick that was missed is made up for at once
    if s.task = .ticking ∧ s.deadline ≤ s.now then
      some { s with task := .emitting, deadline := s.deadline+s.interval }
    else none
  | .emit accepted =>
    if s.task = .emitting then
      if s.stored = false then some { s with task := .checking }
      else if s.connected && accepted then
        some { s with task := .checking, pings := s.now :: s.pings, toClient := s.toClient ++ [s.now] }
      else some { s with task := .closing .refused s.now }
    else none
  | .check =>
    if s.task = .checking then
      if s.stored = false then some { s with task := .closing .missing s.now }
      else if s.now < s.lastPong+s.timeout then some { s with task := .ticking }
      else some { s with task := .closing (.timeout s.lastPong) s.now }
    else none
  | .close accepted =>
    match s.task with
    | .closing reason _ => some { s.remove accepted with task := .ended reason }
    | _ => none
  | .closeSocket accepted => some (s.remove accepted)
  | .receive =>
    match s.toServer with
    | (_,ptype) :: rest =>
      if s.reading then
        some { s with toServer := rest, lastPong := s.now, connected := s.connected && ptype ≠ .close }
      else none
    | [] => none
  | .stopReading => some { s with reading := false }
  | .clientRead completed =>
    match s.toClient with
    | _ :: rest =>
      some { s with
        toClient := rest
        toServer := if s.shouldPong && completed then s.toServer ++ [(s.now,.pong)] else s.toServer }
    | [] => none
  | .clientSend ptype => some { s with toServer := s.toServer ++ [(s.now,ptype)] }
  | .clientStop => some { s with shouldPong := false }

inductive Does (s : PingPong) : PingAct → PingPong → Prop
  | elapse (duration : ℕ) : Does s (.elapse duration) { s with now := s.now+duration }
  | tick (htask : s.task = .ticking) (hdeadline : s.deadline ≤ s.now) :
      Does s .tick { s with task := .emitting, deadline := s.deadline+s.interval }
  | skip {accepted : Bool} (htask : s.task = .emitting) (hstored : s.stored = false) :
      Does s (.emit accepted) { s with task := .checking }
  | ping {accepted : Bool} (htask : s.task = .emitting) (hstored : s.stored = true) :
      Does s (.emit accepted)
        { s with task := .checking, pings := s.now :: s.pings, toClient := s.toClient ++ [s.now] }
  | pass (htask : s.task = .checking) (hstored : s.stored = true) (hrecent : s.now < s.lastPong+s.timeout) :
      Does s .check { s with task := .ticking }
  | leave {act : PingAct} (reason : LeaveReason) (htask : s.task = .emitting ∨ s.task = .checking)
      (hreason : ∀ heard, reason = .timeout heard →
        s.task = .checking ∧ s.stored = true ∧ heard+s.timeout ≤ s.now ∧ heard = s.lastPong) :
      Does s act { s with task := .closing reason s.now }
  | close (reason : LeaveReason) (since : ℕ) (accepted : Bool) (htask : s.task = .closing reason since) :
      Does s (.close accepted) { s.remove accepted with task := .ended reason }
  | closeSocket (accepted : Bool) : Does s (.closeSocket accepted) (s.remove accepted)
  | receive (sent : ℕ) (ptype : PacketType) (rest : List (ℕ × PacketType))
      (hwire : s.toServer = (sent,ptype) :: rest) (hreading : s.reading = true) :
      Does s .receive
        { s with toServer := rest, lastPong := s.now, connected := s.connected && ptype ≠ .close }
  | stopReading : Does s .stopReading { s with reading := false }
  | clientRead (completed : Bool) (sent : ℕ) (rest : List ℕ) (hwire : s.toClient = sent :: rest) :
      Does s (.clientRead completed) { s with
        toClient := rest
        toServer := if s.shouldPong && completed then s.toServer ++ [(s.now,.pong)] else s.toServer }
  | clientSend (ptype : PacketType) : Does s (.clientSend ptype) { s with toServer := s.toServer ++ [(s.now,ptype)] }
  | clientStop : Does s .clientStop { s with shouldPong := false }

variable {s} {t : PingPong} {act : PingAct}

theorem step_does (h : step s act = some t) : Does s act t := by
  cases act with
  | elapse duration =>
    cases h
    exact .elapse duration
  | tick =>
    simp only [step] at h
    split at h
    · rename_i hc
      cases h
      exact .tick hc.1 hc.2
    · cases h
  | emit accepted =>
    simp only [step] at h
    split at h
    · rename_i htask
      split at h
      · rename_i hstored
        cases h
        exact .skip htask hstored
      · rename_i hstored
        split at h
        · cases h
          exact .ping htask (by simpa using hstored)
        · cases h
          exact .leave .refused (Or.inl htask) (fun _ hr => by cases hr)
    · cases h
  | check =>
    simp only [step] at h
    split at h
    · rename_i htask
      split at h
      · cases h
        exact .leave .missing (Or.inr htask) (fun _ hr => by cases hr)
      · rename_i hstored
        split at h
        · rename_i hrecent
          cases h
          exact .pass htask (by simpa using hstored) hrecent
        · rename_i hold
          have hheard := Nat.not_lt.mp hold
          cases h
          refine .leave (.timeout s.lastPong) (Or.inr htask) ?_
          intro heard hr
          cases hr
          exact ⟨htask,by simpa using hstored,hheard,rfl⟩
    · cases h
  | close accepted =>
    simp only [step] at h
    split at h
    · rename_i reason since htask
      cases h
      exact .close reason since accepted htask
    · cases h
  | closeSocket accepted =>
    cases h
    exact .closeSocket accepted
  | receive =>
    simp only [step] at h
    split at h
    · rename_i sent ptype rest hwire
      split at h
      · rename_i hreading
        cases h
        exact .receive sent ptype rest hwire hreading
      · cases h
    · cases h
  | stopReading =>
    cases h
    exact .stopReading
  | clientRead completed =>
    simp only [step] at h
    split at h
    · rename_i sent rest hwire
      cases h
      exact .clientRead completed sent rest hwire
    · cases h
  | clientSend ptype =>
    cases h
    exact .clientSend ptype
  | clientStop =>
    cases h
    exact .clientStop

end PingPong

end SocketIox.EngineIo
