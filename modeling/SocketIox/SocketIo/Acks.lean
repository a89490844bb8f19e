import SocketIox.Proc.Runs
import SocketIox.SocketIo.Payload

/-! # Outstanding acks

Calls of `emit_with_ack` take an id from a wrapping counter and push an entry under
the lock. The poll loop handles one packet at a time: it scans the entries under the
lock, collects indices, gives the lock up, and removes by index afterwards. Time
passes and calls go on between any two of these steps.
-/
namespace SocketIox.SocketIo
open Wire Proc

/-- An entry of `outstanding_acks`. Callbacks are named by the number of the call
that registered them. -/
structure Ack where
  id : UInt64
  timeout : ℕ
  timeStarted : ℕ
  callback : ℕ
  deriving DecidableEq, Repr

/-- A call of `emit_with_ack` between taking its id and pushing its entry. -/
structure InFlight where
  id : UInt64
  timeout : ℕ
  called : ℕ
  callback : ℕ
  deriving DecidableEq, Repr

structure Invocation where
  ack : Ack
  packet : Packet
  time : ℕ
  payload : Option Payload

/-- `calls`, `pushed` and `invoked` record what has happened so far. -/
structure AckState where
  nsp : String
  seq : UInt64
  calls : ℕ
  inFlight : List InFlight
  outstanding : List Ack
  now : ℕ
  toBeRemoved : List ℕ
  panicked : Bool
  pushed : List Ack
  invoked : List Invocation

def AckState.fresh (nsp : String) (now : ℕ) : AckState := ⟨nsp,0,0,[],[],now,[],false,[],[]⟩

inductive AckAct where
  | generate (timeout : ℕ)
  | push (i timeStarted : ℕ)
  | tick (elapsed : ℕ)
  | receive (packet : Packet)
  | remove

/-- The loop of `handle_ack` over the entries from `index` on: the indices to be removed
and the entries whose callback is called. -/
def scan (id : UInt64) (now : ℕ) : ℕ → List Ack → List ℕ × List Ack
  | _, [] => ([],[])
  | index, ack :: rest =>
    let found := scan id now (index+1) rest
    if ack.id = id then
      (index :: found.1,if now-ack.timeStarted < ack.timeout then ack :: found.2 else found.2)
    else found

/-- The id for which an incoming packet makes `handle_ack` scan, with the payload. -/
def Packet.ackTarget (packet : Packet) (nsp : String) : Option (UInt64 × Option Payload) :=
  if packet.nsp = nsp then
    match packet.ackArm with
    | some (some id,payload) => some (id,payload)
    | _ => none
  else none

def AckState.receive (s : AckState) (packet : Packet) : AckState :=
  match packet.ackTarget s.nsp with
  | some (id,payload) =>
    let found := scan id s.now 0 s.outstanding
    { s with
      toBeRemoved := found.1
      invoked := s.invoked ++ found.2.map (fun ack => ⟨ack,packet,s.now,payload⟩) }
  | none => s

def AckState.generate (s : AckState) (timeout : ℕ) : AckState :=
  { s with
    seq := s.seq+1
    calls := s.calls+1
    inFlight := s.inFlight ++ [⟨s.seq,timeout,s.now,s.calls⟩] }

def AckState.push (s : AckState) (i : ℕ) (call : InFlight) (timeStarted : ℕ) : AckState :=
  let ack : Ack := ⟨call.id,call.timeout,timeStarted,call.callback⟩
  { s with
    inFlight := s.inFlight.eraseIdx i
    outstanding := s.outstanding ++ [ack]
    pushed := s.pushed ++ [ack] }

/-- `Vec::remove`, which panics on an index out of range. -/
def AckState.remove (s : AckState) (index : ℕ) (rest : List ℕ) : AckState :=
  if index < s.outstanding.length then
    { s with outstanding := s.outstanding.eraseIdx index, toBeRemoved := rest }
  else { s with panicked := true }

/-- The entry of a call is stamped at some time between its start and its push. -/
def AckState.step (s : AckState) : AckAct → Option AckState
  | .generate timeout => some (s.generate timeout)
  | .push i timeStarted =>
    match s.inFlight[i]? with
    | some call =>
      if call.called ≤ timeStarted ∧ timeStarted ≤ s.now then some (s.push i call timeStarted) else none
    | none => none
  | .tick elapsed => some { s with now := s.now+elapsed }
  | .receive packet => if s.toBeRemoved = [] then some (s.receive packet) else none
  | .remove =>
    match s.toBeRemoved with
    | [] => none
    | index :: rest => some (s.remove index rest)

theorem step_cases {s t : AckState} {act : AckAct} (h : s.step act = some t) :
    (∃ timeout, act = .generate timeout ∧ t = s.generate timeout) ∨
    (∃ i call timeStarted, act = .push i timeStarted ∧ s.inFlight[i]? = some call ∧
      t = s.push i call timeStarted) ∨
    (∃ elapsed, act = .tick elapsed ∧ t = { s with now := s.now+elapsed }) ∨
    (∃ packet, act = .receive packet ∧ s.toBeRemoved = [] ∧ t = s.receive packet) ∨
    (∃ index rest, act = .remove ∧ s.toBeRemoved = index :: rest ∧ t = s.remove index rest) := by
  cases act with
  | generate timeout =>
    left
    exact ⟨timeout,rfl,(Option.some.inj h).symm⟩
  | push i timeStarted =>
    right; left
    cases hi : s.inFlight[i]? with
    | none => simp [AckState.step,hi] at h
    | some call =>
      simp only [AckState.step,hi,Option.ite_none_right_eq_some,Option.some.injEq] at h
      exact ⟨i,call,timeStarted,rfl,hi,h.2.symm⟩
  | tick elapsed =>
    right; right; left
    exact ⟨elapsed,rfl,(Option.some.inj h).symm⟩
  | receive packet =>
    right; right; right; left
    simp only [AckState.step,Option.ite_none_right_eq_some,Option.some.injEq] at h
    exact ⟨packet,rfl,h.1,h.2.symm⟩
  | remove =>
    right; right; right; right
    cases hr : s.toBeRemoved with
    | nil => simp [AckState.step,hr] at h
    | cons index rest =>
      simp only [AckState.step,hr,Option.some.injEq] at h
      exact ⟨index,rest,rfl,rfl,h.symm⟩

section Scan

theorem scan_eq (id : UInt64) (now : ℕ) {acks : List Ack} (h : (acks.map Ack.id).Nodup) (index : ℕ) :
    (scan id now index acks = ([],[]) ∧ ∀ ack ∈ acks, ack.id ≠ id) ∨
      ∃ before ack after, acks = before ++ ack :: after ∧ ack.id = id ∧
        scan id now index acks = ([index+before.length],if now-ack.timeStarted < ack.timeout then [ack] else []) := by
  induction acks generalizing index with
  | nil => exact Or.inl ⟨rfl,by simp⟩
  | cons ack acks ih =>
    obtain ⟨hfirst,hrest⟩ := List.nodup_cons.mp h
    by_cases hid : ack.id = id
    · right
      refine ⟨[],ack,acks,rfl,hid,?_⟩
      rcases ih hrest (index+1) with ⟨hs,-⟩ | ⟨before,other,after,hsplit,hother,-⟩
      · simp only [scan,hid,↓reduceIte,hs,List.length_nil,Nat.add_zero]
      · have hmem : ack.id ∈ acks.map Ack.id := by
          rw [hid,← hother,hsplit]
          simp
        exact absurd hmem hfirst
    · rcases ih hrest (index+1) with ⟨hs,hall⟩ | ⟨before,other,after,hsplit,hother,hs⟩
      · left
        refine ⟨by simp only [scan,hid,↓reduceIte,hs],?_⟩
        intro other hmem
        rcases List.mem_cons.mp hmem with rfl | hmem
        · exact hid
        · exact hall other hmem
      · right
        refine ⟨ack :: before,other,after,by rw [hsplit,List.cons_append],hother,?_⟩
        simp only [scan,hid,↓reduceIte,hs,List.length_cons,Prod.mk.injEq,List.cons.injEq,and_true]
        omega

end Scan

end SocketIox.SocketIo
