import SocketIox.Proc.Runs
import SocketIox.Proc.Tasks

/-! # Disconnecting and reconnecting a client

One task polls the client's socket; on an engine error it drops the socket and connects a
new one, after a backoff and as often as the builder allows, and only then looks whether
the user has disconnected. `disconnect` clears the flag under its lock, closes the socket
that is installed at that time and returns. It is not noticed in the middle of a
reconnection, which goes on to install its new socket.
-/
namespace SocketIox.SocketIo
open Proc

/-- The options of the builder; without a maximum the attempts are not bounded. -/
structure ReconnectOptions where
  reconnect : Bool
  maxReconnectAttempts : Option ℕ

/-- Where the task of `poll_callback` stands: in `poll_packet`, in `disconnect_socket`, before a pass of
the loop of `reconnect`, in the backoff, in `connect_socket`, before the lock of the socket, before the
lock of the flag, or at its end. -/
inductive PollStage where
  | polling
  | dropping
  | attempting (reconnectAttempts : ℕ)
  | sleeping (reconnectAttempts : ℕ)
  | connecting (reconnectAttempts : ℕ)
  | installing
  | checking
  | exited
  deriving DecidableEq, Repr

def PollStage.reconnecting (options : ReconnectOptions) : PollStage → Bool
  | .dropping => options.reconnect
  | .attempting _ | .sleeping _ | .connecting _ | .installing => true
  | .polling | .checking | .exited => false

/-- A call of `disconnect` waits for the flag, or has cleared it and waits for the socket, or reads the
socket. From the second on it holds the lock of the flag. -/
inductive DisconnectStage where
  | called
  | cleared
  | reading
  deriving DecidableEq, Repr

inductive ClientEvent where
  | returned
  | installed
  deriving DecidableEq, Repr

/-- `log` are the returns of `disconnect` and the installations, the oldest first. -/
structure ClientState where
  connected : Bool
  task : PollStage
  disconnects : List DisconnectStage
  log : List ClientEvent
  deriving DecidableEq, Repr

inductive ClientAct where
  | packet
  | engineError
  | dropped
  | attempt (backoff : Bool)
  | wake
  | connect (ok : Bool)
  | install
  | check
  | call
  | clear (i : ℕ)
  | read (i : ℕ)
  | finish (i : ℕ)
  deriving DecidableEq, Repr

namespace ClientState
variable (options : ReconnectOptions)

def initial : ClientState := ⟨true,.polling,[],[]⟩

def FlagHeld (s : ClientState) : Prop := .cleared ∈ s.disconnects ∨ .reading ∈ s.disconnects

instance (s : ClientState) : Decidable s.FlagHeld := inferInstanceAs (Decidable (_ ∨ _))

def endDisconnect (s : ClientState) (i : ℕ) : ClientState :=
  { s with disconnects := s.disconnects.eraseIdx i, log := s.log ++ [.returned] }

def Exhausted (attempts : ℕ) : Prop := ∃ max ∈ options.maxReconnectAttempts, attempts > max

instance (attempts : ℕ) : Decidable (Exhausted options attempts) :=
  inferInstanceAs (Decidable (∃ max ∈ options.maxReconnectAttempts, attempts > max))

def step (s : ClientState) : ClientAct → Option ClientState
  | .packet =>
    -- a packet, the end of the stream or an error of another kind
    if s.task = .polling then some { s with task := .checking } else none
  | .engineError => if s.task = .polling then some { s with task := .dropping } else none
  | .dropped =>
    if s.task = .dropping then
      some { s with task := if options.reconnect then .attempting 0 else .checking }
    else none
  | .attempt backoff =>
    match s.task with
    | .attempting attempts =>
      if Exhausted options attempts then some { s with task := .checking }
      else if backoff then some { s with task := .sleeping (attempts+1) }
      else some { s with task := .connecting (attempts+1) }
    | _ => none
  | .wake =>
    match s.task with
    | .sleeping attempts => some { s with task := .connecting attempts }
    | _ => none
  | .connect ok =>
    match s.task with
    | .connecting attempts => some { s with task := if ok then .installing else .attempting attempts }
    | _ => none
  | .install =>
    -- the lock of the socket is free for writing
    if s.task = .installing ∧ .reading ∉ s.disconnects then
      some { s with task := .checking, log := s.log ++ [.installed] }
    else none
  | .check =>
    if s.task = .checking ∧ ¬ s.FlagHeld then
      some { s with task := if s.connected then .polling else .exited }
    else none
  | .call => some { s with disconnects := s.disconnects ++ [.called] }
  | .clear i =>
    if s.disconnects[i]? = some .called ∧ ¬ s.FlagHeld then
      if s.connected then some { s with connected := false, disconnects := s.disconnects.set i .cleared }
      else some (s.endDisconnect i)
    else none
  | .read i =>
    if s.disconnects[i]? = some .cleared then some { s with disconnects := s.disconnects.set i .reading } else none
  | .finish i => if s.disconnects[i]? = some .reading then some (s.endDisconnect i) else none

/-- The task is at work on a reconnection, and has not installed the new socket yet. -/
def Reconnecting (s : ClientState) : Prop := s.task.reconnecting options = true

instance (s : ClientState) : Decidable (s.Reconnecting options) :=
  inferInstanceAs (Decidable (s.task.reconnecting options = true))

def Returns (s : ClientState) : ClientAct → Prop
  | .clear _ => s.connected = false
  | .finish _ => True
  | _ => False

instance (s : ClientState) (act : ClientAct) : Decidable (s.Returns act) :=
  match act with
  | .clear _ => inferInstanceAs (Decidable (s.connected = false))
  | .finish _ => isTrue trivial
  | .packet | .engineError | .dropped | .attempt _ | .wake | .connect _ | .install | .check | .call | .read _ =>
    isFalse id

/-- `disconnect` does not return during a reconnection, and polling does not report an engine error
after it has returned, unless reconnecting is off. -/
def Undisturbed (s : ClientState) (act : ClientAct) : Prop :=
  (s.Returns act → ¬ s.Reconnecting options) ∧ (act = .engineError → options.reconnect = true → .returned ∉ s.log)

instance (s : ClientState) (act : ClientAct) : Decidable (s.Undisturbed options act) :=
  inferInstanceAs (Decidable (_ ∧ _))

/-- No installation comes after the return of a call of `disconnect`. -/
def Final (s : ClientState) : Prop := s.log.Pairwise (fun a b => a = .returned → b ≠ .installed)

instance (s : ClientState) : Decidable s.Final := inferInstanceAs (Decidable (List.Pairwise _ _))

section Steps
variable {options} {s t : ClientState} {act : ClientAct}

theorem step_cases (h : step options s act = some t) :
    (t.log = s.log ∧ (t.Reconnecting options → s.Reconnecting options ∨
      act = .engineError ∧ options.reconnect = true)) ∨
    (s.Returns act ∧ t.task = s.task ∧ t.log = s.log ++ [.returned]) ∨
    (s.Reconnecting options ∧ ¬ t.Reconnecting options ∧ t.log = s.log ++ [.installed]) := by
  obtain ⟨connected,task,disconnects,log⟩ := s
  cases act with
  | packet =>
    simp only [step] at h
    split at h
    · cases h
      exact Or.inl ⟨rfl,fun hr => by cases hr⟩
    · cases h
  | engineError =>
    simp only [step] at h
    split at h
    · cases h
      exact Or.inl ⟨rfl,fun hr => Or.inr ⟨rfl,hr⟩⟩
    · cases h
  | dropped =>
    simp only [step] at h
    split at h
    · rename_i htask
      cases h
      refine Or.inl ⟨rfl,?_⟩
      intro hr
      left
      by_cases ho : options.reconnect = true
      · subst htask
        exact ho
      · simp [Reconnecting,PollStage.reconnecting,ho] at hr
    · cases h
  | attempt backoff =>
    cases task with
    | attempting attempts =>
      simp only [step] at h
      refine Or.inl ⟨?_,fun _ => Or.inl rfl⟩
      split at h
      · cases h
        rfl
      · split at h <;> cases h <;> rfl
    | _ => cases h
  | wake =>
    cases task with
    | sleeping attempts =>
      cases h
      exact Or.inl ⟨rfl,fun _ => Or.inl rfl⟩
    | _ => cases h
  | connect ok =>
    cases task with
    | connecting attempts =>
      cases h
      exact Or.inl ⟨rfl,fun _ => Or.inl rfl⟩
    | _ => cases h
  | install =>
    simp only [step] at h
    split at h
    · rename_i hfree
      obtain ⟨rfl,-⟩ := hfree
      cases h
      exact Or.inr (Or.inr ⟨rfl,Bool.false_ne_true,rfl⟩)
    · cases h
  | check =>
    simp only [step] at h
    split at h
    · cases h
      refine Or.inl ⟨rfl,?_⟩
      intro hr
      cases connected <;> cases hr
    · cases h
  | call =>
    cases h
    exact Or.inl ⟨rfl,Or.inl⟩
  | clear i =>
    simp only [step] at h
    split at h
    · split at h
      · cases h
        exact Or.inl ⟨rfl,Or.inl⟩
      · rename_i hc
        cases h
        exact Or.inr (Or.inl ⟨by simpa [Returns] using hc,rfl,rfl⟩)
    · cases h
  | read i =>
    simp only [step] at h
    split at h
    · cases h
      exact Or.inl ⟨rfl,Or.inl⟩
    · cases h
  | finish i =>
    simp only [step] at h
    split at h
    · cases h
      exact Or.inr (Or.inl ⟨trivial,rfl,rfl⟩)
    · cases h

structure Sound (options : ReconnectOptions) (s : ClientState) : Prop where
  final : s.Final
  quiet : .returned ∈ s.log → ¬ s.Reconnecting options

theorem step_sound (hu : s.Undisturbed options act) (hs : s.Sound options) (h : step options s act = some t) :
    t.Sound options := by
  rcases step_cases h with ⟨hlog,htask⟩ | ⟨hreturns,htask,hlog⟩ | ⟨hreconnecting,hdone,hlog⟩
  · constructor
    · unfold Final
      rw [hlog]
      exact hs.final
    · intro hreturned hr
      rw [hlog] at hreturned
      rcases htask hr with hbefore | ⟨hact,ho⟩
      · exact hs.quiet hreturned hbefore
      · exact hu.2 hact ho hreturned
  · constructor
    · unfold Final
      rw [hlog]
      refine pairwise_append_singleton hs.final ?_
      intro event _ _
      decide
    · intro _
      unfold Reconnecting
      rw [htask]
      exact hu.1 hreturns
  · constructor
    · unfold Final
      rw [hlog]
      refine pairwise_append_singleton hs.final ?_
      intro event hevent hreturned
      exact absurd hreconnecting (hs.quiet (hreturned ▸ hevent))
    · intro _
      exact hdone

end Steps

end ClientState

open ClientState

/-- In a run in which `disconnect` does not return during a reconnection and no engine error is
reported after it, no socket is installed after `disconnect` has returned. -/
theorem disconnect_final (options : ReconnectOptions) (acts : List ClientAct) (s : ClientState)
    (hrun : run (step options) initial acts = some s)
    (hundisturbed : Along (step options) (Undisturbed options) initial acts) : s.Final := by
  have hs : Sound options initial := ⟨List.Pairwise.nil,fun h => by cases h⟩
  exact (run_preserves_along (fun s act t => step_sound) hundisturbed hs hrun).final

def reconnectedSession : List ClientAct :=
  [.engineError,.dropped,.attempt true,.wake,.connect false,.attempt true,.wake,.connect true,.install,.check,
    .call,.clear 0,.read 0,.finish 0,.packet,.check]

theorem disconnect_final_reconnected :
    ∃ s, run (step ⟨true,some 5⟩) initial reconnectedSession = some s ∧ s.log = [.installed,.returned] ∧ s.Final :=
  ⟨_,rfl,rfl,disconnect_final ⟨true,some 5⟩ reconnectedSession _ rfl (by decide)⟩

/-- `disconnect` returns during the backoff, and the new socket is installed after that; or polling
reports an engine error after `disconnect` has returned. -/
theorem disconnect_not_final :
    (∃ s, run (step ⟨true,none⟩) initial [.engineError,.dropped,.attempt true,.call,.clear 0,.read 0,.finish 0,.wake,
        .connect true,.install,.check] = some s ∧ s.log = [.returned,.installed] ∧ s.task = .exited ∧ ¬ s.Final) ∧
    ∃ s, run (step ⟨true,none⟩) initial [.call,.clear 0,.read 0,.finish 0,.engineError,.dropped,.attempt true,.wake,
        .connect true,.install,.check] = some s ∧ s.log = [.returned,.installed] ∧ ¬ s.Final :=
  ⟨⟨_,rfl,rfl,rfl,by decide⟩,_,rfl,rfl,by decide⟩

end SocketIox.SocketIo
