import SocketIox.SocketIo.Reconnect

/-! # Progress of the client's poll loop

The loop of `poll_callback` takes everything but an engine error for a reason to go on, the end
of the stream as well, and it goes on after a reconnection that has given up. Only the flag that
`disconnect` clears ends it. The task of `Reconnect` is followed here together with the stream
that it polls: a stream that has ended yields nothing any more until a new socket is installed.
-/
namespace SocketIox.SocketIo
open Proc

inductive PollOutcome where
  | packet
  | otherError
  | ended
  | engineError
  deriving DecidableEq, Repr

def PollOutcome.act : PollOutcome → ClientAct
  | .packet | .otherError | .ended => .packet
  | .engineError => .engineError

/-- `streamEnded` says that the stream of the installed socket is over. `owed` says that the loop has seen
this, or that `reconnect` has given up, and no socket has been installed since. -/
structure PollLoop where
  client : ClientState
  streamEnded : Bool
  owed : Bool
  deriving DecidableEq, Repr

inductive PollAct where
  | polled (outcome : PollOutcome)
  | other (act : ClientAct)
  deriving DecidableEq, Repr

def PollAct.act : PollAct → ClientAct
  | .polled outcome => outcome.act
  | .other act => act

def ClientAct.isPoll : ClientAct → Bool
  | .packet | .engineError => true
  | .dropped | .attempt _ | .wake | .connect _ | .install | .check | .call | .clear _ | .read _ | .finish _ => false

/-- `reconnect` returns without a new socket. -/
def ClientState.givesUp (options : ReconnectOptions) (s : ClientState) : ClientAct → Bool
  | .dropped => !options.reconnect
  | .attempt _ =>
    match s.task with
    | .attempting attempts => decide (Exhausted options attempts)
    | _ => false
  | _ => false

def ClientAct.ofUser : ClientAct → Bool
  | .call | .clear _ | .read _ | .finish _ => true
  | .packet | .engineError | .dropped | .attempt _ | .wake | .connect _ | .install | .check => false

theorem ClientState.polling_of_step {options : ReconnectOptions} {s t : ClientState} {act : ClientAct}
    (h : s.step options act = some t) (hpolling : t.task = .polling) :
    s.task = .polling ∧ act.ofUser = true ∨
      act = .check ∧ s.task = .checking ∧ ¬ s.FlagHeld ∧ s.connected = true := by
  obtain ⟨connected,task,disconnects,log⟩ := s
  cases act with
  | packet | engineError | install =>
    simp only [step] at h
    split at h
    · cases h
      cases hpolling
    · cases h
  | dropped =>
    simp only [step] at h
    split at h
    · cases h
      cases ho : options.reconnect <;> simp [ho] at hpolling
    · cases h
  | attempt backoff =>
    cases task with
    | attempting attempts =>
      simp only [step] at h
      split at h
      · cases h
        cases hpolling
      · split at h <;> cases h <;> cases hpolling
    | _ => cases h
  | wake =>
    cases task with
    | sleeping attempts =>
      cases h
      cases hpolling
    | _ => cases h
  | connect ok =>
    cases task with
    | connecting attempts =>
      cases h
      cases ok <;> cases hpolling
    | _ => cases h
  | check =>
    simp only [step] at h
    split at h
    · rename_i hfree
      cases h
      cases connected with
      | true => exact Or.inr ⟨rfl,hfree.1,hfree.2,rfl⟩
      | false => cases hpolling
    · cases h
  | call =>
    cases h
    exact Or.inl ⟨hpolling,rfl⟩
  | clear i =>
    simp only [step] at h
    split at h
    · split at h <;> cases h <;> exact Or.inl ⟨hpolling,rfl⟩
    · cases h
  | read i | finish i =>
    simp only [step] at h
    split at h
    · cases h
      exact Or.inl ⟨hpolling,rfl⟩
    · cases h

namespace PollLoop
variable (options : ReconnectOptions)

def initial : PollLoop := ⟨.initial,false,false⟩

def step (s : PollLoop) : PollAct → Option PollLoop
  | .polled outcome =>
    -- an error has ended the stream, too
    if s.streamEnded = true ∧ outcome ≠ .ended then none
    else (s.client.step options outcome.act).map (fun client =>
      ⟨client,s.streamEnded || outcome ≠ .packet,s.owed || outcome = .ended⟩)
  | .other act =>
    if act.isPoll then none
    else (s.client.step options act).map (fun client =>
      if act = .install then ⟨client,false,false⟩
      else ⟨client,s.streamEnded,s.owed || s.client.givesUp options act⟩)

/-- The loop is not in `poll_packet` while it owes an exit or a new socket. -/
def Fresh (s : PollLoop) : Prop := ¬ (s.client.task = .polling ∧ s.owed = true)

def FreshAfter (s : PollLoop) (act : PollAct) : Prop := ∀ t, step options s act = some t → t.Fresh

/-- When the loop looks at the flag and owes an exit, the user has disconnected. -/
def Leaves (s : PollLoop) (act : PollAct) : Prop :=
  act = .other .check → s.client.task = .checking → ¬ s.client.FlagHeld → s.owed = true → s.client.connected = false

instance (s : PollLoop) (act : PollAct) : Decidable (s.Leaves act) := inferInstanceAs (Decidable (_ → _))

section Steps
variable {options} {s t : PollLoop} {act : PollAct}

theorem step_client (h : step options s act = some t) : s.client.step options act.act = some t.client := by
  cases act with
  | polled outcome =>
    simp only [step] at h
    split at h
    · cases h
    · obtain ⟨client,hclient,rfl⟩ := Option.map_eq_some_iff.mp h
      exact hclient
  | other act =>
    simp only [step] at h
    split at h
    · cases h
    · obtain ⟨client,hclient,ht⟩ := Option.map_eq_some_iff.mp h
      split at ht <;> cases ht <;> exact hclient

theorem run_client {acts : List PollAct} (h : run (step options) s acts = some t) :
    run (ClientState.step options) s.client (acts.map PollAct.act) = some t.client := by
  induction acts generalizing s with
  | nil =>
    cases h
    rfl
  | cons act acts ih =>
    obtain ⟨u,hu,hrun⟩ := run_cons h
    simp only [List.map_cons,run,step_client hu,Option.bind_some]
    exact ih hrun


theorem step_owed {act : ClientAct} (hinstall : act ≠ .install) (h : step options s (.other act) = some t) :
    t.owed = (s.owed || s.client.givesUp options act) := by
  simp only [step,if_neg hinstall] at h
  split at h
  · cases h
  · obtain ⟨client,-,rfl⟩ := Option.map_eq_some_iff.mp h
    rfl

theorem step_owed_user {act : ClientAct} (hu : act.ofUser = true) (h : step options s (.other act) = some t) :
    t.owed = s.owed := by
  have hinstall : act ≠ .install := by
    rintro rfl
    cases hu
  have hkeep : s.client.givesUp options act = false := by
    cases act with
    | call | clear i | read i | finish i => rfl
    | packet | engineError | dropped | attempt backoff | wake | connect ok | install | check => cases hu
  rw [step_owed hinstall h,hkeep,Bool.or_false]

theorem step_check (h : step options s (.other .check) = some t) : t.owed = s.owed :=
  (step_owed (by decide) h).trans (Bool.or_false _)

theorem exists_step_check (options : ReconnectOptions) (htask : s.client.task = .checking)
    (hfree : ¬ s.client.FlagHeld) (hc : s.client.connected = true) :
    ∃ t, step options s (.other .check) = some t ∧ t.client.task = .polling ∧ t.owed = s.owed := by
  have hclient : s.client.step options .check = some { s.client with task := .polling } := by
    simp [ClientState.step,htask,hfree,hc]
  refine ⟨⟨{ s.client with task := .polling },s.streamEnded,s.owed⟩,?_,rfl,rfl⟩
  simp [step,ClientAct.isPoll,hclient,ClientState.givesUp]

theorem freshAfter_iff (hs : s.Fresh) : s.FreshAfter options act ↔ s.Leaves act := by
  constructor
  · rintro h rfl htask hfree howed
    by_contra hc
    obtain ⟨t,ht,hpolling,hkeep⟩ := exists_step_check options htask hfree (Bool.of_not_eq_false hc)
    exact h t ht ⟨hpolling,hkeep.trans howed⟩
  · rintro h t ht ⟨hpolling,howed⟩
    rcases ClientState.polling_of_step (step_client ht) hpolling with ⟨hbefore,huser⟩ | ⟨hcheck,htask,hfree,hc⟩
    · cases act with
      | polled outcome => cases outcome <;> cases huser
      | other act =>
        rw [step_owed_user huser ht] at howed
        exact hs ⟨hbefore,howed⟩
    · cases act with
      | polled outcome => cases outcome <;> cases hcheck
      | other act =>
        obtain rfl : act = .check := hcheck
        rw [step_check ht] at howed
        rw [h rfl htask hfree howed] at hc
        cases hc

structure Spinning (s : PollLoop) : Prop where
  ended : s.streamEnded = true
  connected : s.client.connected = true
  calls : s.client.disconnects = []
  task : s.client.task = .polling ∨ s.client.task = .checking

theorem step_spinning (hact : act ≠ .other .call) (hs : s.Spinning) (h : step options s act = some t) :
    t.Spinning := by
  obtain ⟨⟨connected,task,disconnects,log⟩,streamEnded,owed⟩ := s
  obtain ⟨rfl,rfl,rfl,htask⟩ := hs
  cases act with
  | polled outcome =>
    cases outcome with
    | ended =>
      rcases htask with rfl | rfl <;> cases h
      exact ⟨rfl,rfl,rfl,Or.inr rfl⟩
    | packet | otherError | engineError => cases h
  | other act =>
    cases act with
    | check =>
      rcases htask with rfl | rfl <;> cases h
      exact ⟨rfl,rfl,rfl,Or.inl rfl⟩
    | call => exact absurd rfl hact
    | packet | engineError | dropped | attempt backoff | wake | connect ok | install | clear i | read i | finish i =>
      rcases htask with rfl | rfl <;> cases h

/-- Unless the user disconnects, the loop goes on polling the stream that is over. -/
theorem run_spinning {acts : List PollAct} (hs : s.Spinning) (hacts : ∀ act ∈ acts, act ≠ .other .call)
    (h : run (step options) s acts = some t) : t.Spinning :=
  run_preserves_along (fun _ _ _ => step_spinning) (along_of_forall hacts s) hs h

end Steps

end PollLoop

open PollLoop

/-- In every run, the loop does not poll a stream that it knows to be over, nor after a reconnection that
has given up, if and only if the user has disconnected by then. -/
theorem poll_loop_progress_iff (options : ReconnectOptions) (acts : List PollAct) :
    Along (step options) (FreshAfter options) initial acts ↔ Along (step options) Leaves initial acts := by
  have hfresh : initial.Fresh := by simp [Fresh,initial]
  refine along_iff_along (fun (s : PollLoop) act (hs : s.Fresh) => freshAfter_iff hs) ?_ hfresh acts
  intro s act t hafter _ ht
  exact hafter t ht

theorem poll_loop_polls_ended :
    ¬ Along (step ⟨true,some 5⟩) (FreshAfter ⟨true,some 5⟩) initial [.polled .ended,.other .check] := by
  intro h
  exact (h.2 _ rfl).1 _ rfl ⟨rfl,rfl⟩

end SocketIox.SocketIo
