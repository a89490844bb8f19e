import Mathlib.Data.List.Infix
import Mathlib.Data.List.TakeWhile
import SocketIox.EngineIo.Socket
import SocketIox.Proc.Runs
import SocketIox.Proc.Tasks

/-! # Closing one socket

`disconnect` and `handle_close` test the connected flag, publish `OnClose` and clear the
flag afterwards, `disconnect` after sending a close packet. Any number of these calls run
side by side on one socket, together with `connect`. Two of them that both pass the test
both publish.
-/
namespace SocketIox.EngineIo
open Wire Proc

inductive SocketCall where
  | connect
  | disconnect
  | handleClose
  deriving DecidableEq, Repr

/-- What a running call has done: passed its test, published its event, sent its packet. -/
inductive CallStage where
  | entered
  | published
  | emitted
  deriving DecidableEq, Repr

structure CallTask where
  call : SocketCall
  stage : CallStage
  deriving DecidableEq, Repr

inductive LogEntry where
  | connect
  | published (event : Event)
  deriving DecidableEq, Repr

/-- The `log` has its latest entry first. -/
structure SocketState where
  sid : String
  hasEventTx : Bool
  serverEnd : Bool
  connected : Bool
  tasks : List CallTask
  sent : List Packet
  log : List LogEntry

inductive SocketAct where
  | call (call : SocketCall)
  | publish (i : ℕ)
  | emit (i : ℕ)
  | finish (i : ℕ)
  deriving DecidableEq, Repr

def SocketCall.closes (call : SocketCall) : Bool := call ≠ .connect

def SocketCall.event (call : SocketCall) (sid : String) : Event :=
  if call.closes then .onClose sid else .onOpen sid

theorem SocketCall.event_ne_onClose {call : SocketCall} (h : call.closes = false) (sid : String) :
    call.event sid ≠ .onClose sid := by
  simp [SocketCall.event,h]

def SocketCall.packet (call : SocketCall) (serverEnd : Bool) : Option Packet :=
  match call with
  | .connect => if serverEnd then none else some ⟨.pong,[]⟩
  | .disconnect => some ⟨.close,[]⟩
  | .handleClose => none

/-- The stage after which the call only has to clear the flag, or to return. -/
def SocketCall.lastStage (call : SocketCall) (serverEnd : Bool) : CallStage :=
  if (call.packet serverEnd).isSome then .emitted else .published

namespace SocketState
variable (s : SocketState)

def fresh (sid : String) (hasEventTx serverEnd : Bool) : SocketState := ⟨sid,hasEventTx,serverEnd,false,[],[],[]⟩

def publish (event : Event) : SocketState :=
  { s with log := if s.hasEventTx then .published event :: s.log else s.log }

/-- All sends succeed, so that the test of the flag decides alone whether `emit` does. -/
def step (s : SocketState) : SocketAct → Option SocketState
  | .call .connect => some { s with
      connected := true
      log := .connect :: s.log
      tasks := s.tasks ++ [⟨.connect,.entered⟩] }
  | .call call => if s.connected then some { s with tasks := s.tasks ++ [⟨call,.entered⟩] } else some s
  | .publish i =>
    match s.tasks[i]? with
    | some ⟨call,.entered⟩ => some ({ s with tasks := s.tasks.set i ⟨call,.published⟩ }.publish (call.event s.sid))
    | _ => none
  | .emit i =>
    match s.tasks[i]? with
    | some ⟨call,.published⟩ =>
      match call.packet s.serverEnd with
      | some packet =>
        if s.connected then
          some { s with sent := s.sent ++ [packet], tasks := s.tasks.set i ⟨call,.emitted⟩ }
        else
          -- the error of `emit` ends the call, and the flag is not cleared again
          some ({ s with tasks := s.tasks.eraseIdx i }.publish (.onError s.sid .illegalActionBeforeOpen))
      | none => none
    | _ => none
  | .finish i =>
    match s.tasks[i]? with
    | some ⟨call,stage⟩ =>
      if stage = call.lastStage s.serverEnd then
        some { s with connected := s.connected && !call.closes, tasks := s.tasks.eraseIdx i }
      else none
    | none => none

def ClosePending (s : SocketState) : Prop :=
  ∃ task ∈ s.tasks, task.call.closes = true ∧ task.stage ≠ .entered

instance : Decidable s.ClosePending := inferInstanceAs (Decidable (∃ task ∈ s.tasks, _ ∧ _))

/-- A call publishes `OnClose` while the flag is set and no other call has still to clear it. -/
def ClosesAlone (s : SocketState) : SocketAct → Prop
  | .publish i =>
    match s.tasks[i]? with
    | some ⟨call,.entered⟩ => call.closes = true → s.connected = true ∧ ¬ s.ClosePending
    | _ => True
  | _ => True

instance (act : SocketAct) : Decidable (s.ClosesAlone act) := by
  cases act with
  | publish i =>
    unfold ClosesAlone
    dsimp only
    split <;> infer_instance
  | _ => exact isTrue trivial

def ConnectsAlone (s : SocketState) : SocketAct → Prop
  | .call .connect => ∀ task ∈ s.tasks, task.call.closes = false
  | _ => True

inductive Does (s : SocketState) : SocketAct → SocketState → Prop
  | connect : Does s (.call .connect) { s with
      connected := true
      log := .connect :: s.log
      tasks := s.tasks ++ [⟨.connect,.entered⟩] }
  | ignored (call : SocketCall) (hcall : call.closes = true) (hflag : s.connected = false) : Does s (.call call) s
  | entered (call : SocketCall) (hcall : call.closes = true) (hflag : s.connected = true) :
      Does s (.call call) { s with tasks := s.tasks ++ [⟨call,.entered⟩] }
  | publish (i : ℕ) (call : SocketCall) (hi : s.tasks[i]? = some ⟨call,.entered⟩) :
      Does s (.publish i) ({ s with tasks := s.tasks.set i ⟨call,.published⟩ }.publish (call.event s.sid))
  | emit (i : ℕ) (call : SocketCall) (packet : Packet) (hi : s.tasks[i]? = some ⟨call,.published⟩)
      (hflag : s.connected = true) :
      Does s (.emit i) { s with sent := s.sent ++ [packet], tasks := s.tasks.set i ⟨call,.emitted⟩ }
  | refused (i : ℕ) (call : SocketCall) (hi : s.tasks[i]? = some ⟨call,.published⟩) (hflag : s.connected = false) :
      Does s (.emit i) ({ s with tasks := s.tasks.eraseIdx i }.publish (.onError s.sid .illegalActionBeforeOpen))
  | finish (i : ℕ) (task : CallTask) (hi : s.tasks[i]? = some task) (hstage : task.stage ≠ .entered) :
      Does s (.finish i) { s with connected := s.connected && !task.call.closes, tasks := s.tasks.eraseIdx i }

variable {s} {t : SocketState} {act : SocketAct}

theorem step_does (h : s.step act = some t) : Does s act t := by
  cases act with
  | call call =>
    cases call with
    | connect =>
      cases h
      exact .connect
    | disconnect =>
      simp only [step] at h
      split at h
      · cases h
        exact .entered .disconnect rfl ‹_›
      · cases h
        exact .ignored .disconnect rfl (Bool.of_not_eq_true ‹_›)
    | handleClose =>
      simp only [step] at h
      split at h
      · cases h
        exact .entered .handleClose rfl ‹_›
      · cases h
        exact .ignored .handleClose rfl (Bool.of_not_eq_true ‹_›)
  | publish i =>
    simp only [step] at h
    split at h
    · rename_i call hi
      cases h
      exact .publish i call hi
    · cases h
  | emit i =>
    simp only [step] at h
    split at h
    · rename_i call hi
      split at h
      · rename_i packet hpacket
        split at h
        · rename_i hflag
          cases h
          exact .emit i call packet hi hflag
        · rename_i hflag
          cases h
          exact .refused i call hi (Bool.of_not_eq_true hflag)
      · cases h
    · cases h
  | finish i =>
    simp only [step] at h
    split at h
    · rename_i call stage hi
      split at h
      · rename_i hstage
        cases h
        refine .finish i ⟨call,stage⟩ hi ?_
        simp only [hstage,SocketCall.lastStage]
        split <;> simp
      · cases h
    · cases h

end SocketState

section Log
variable {sid : String} {entry : LogEntry} {event : Event} {log : List LogEntry}

def closesSince (sid : String) (log : List LogEntry) : ℕ :=
  (log.takeWhile (fun entry => entry ≠ .connect)).count (.published (.onClose sid))

/-- `OnClose` is published at most once between calls of `connect`. -/
def ClosedOnce (sid : String) (log : List LogEntry) : Prop :=
  ∀ part, part <:+: log → .connect ∉ part → part.count (.published (.onClose sid)) ≤ 1

theorem prefix_takeWhile {part : List LogEntry} (h : part <+: log) (hpart : .connect ∉ part) :
    part <+: log.takeWhile (fun entry => entry ≠ .connect) := by
  obtain ⟨rest,rfl⟩ := h
  rw [List.takeWhile_append_of_pos]
  · exact List.prefix_append _ _
  · intro entry he
    refine decide_eq_true ?_
    rintro rfl
    exact hpart he

theorem ClosedOnce.closesSince_le (h : ClosedOnce sid log) : closesSince sid log ≤ 1 := by
  refine h _ (List.takeWhile_prefix _).isInfix ?_
  intro hmem
  simpa using List.mem_takeWhile_imp hmem

theorem ClosedOnce.cons (h : ClosedOnce sid log) (hsince : closesSince sid (entry :: log) ≤ 1) :
    ClosedOnce sid (entry :: log) := by
  intro part hpart hconnect
  rcases List.infix_cons_iff.mp hpart with hprefix | hinfix
  · exact ((prefix_takeWhile hprefix hconnect).sublist.count_le _).trans hsince
  · exact h part hinfix hconnect

@[simp] theorem closesSince_connect : closesSince sid (.connect :: log) = 0 := by
  simp [closesSince]

theorem closesSince_onClose : closesSince sid (.published (.onClose sid) :: log) = closesSince sid log + 1 := by
  simp [closesSince]

theorem closesSince_other (h : event ≠ .onClose sid) :
    closesSince sid (.published event :: log) = closesSince sid log := by
  simp [closesSince,h]

end Log

namespace SocketState
variable {s t : SocketState} {act : SocketAct}

/-- Once `OnClose` is published since the last call of `connect`, the flag is cleared or
somebody has still to clear it. -/
structure Sound (s : SocketState) : Prop where
  once : ClosedOnce s.sid s.log
  pending : 0 < closesSince s.sid s.log → s.connected = true → s.ClosePending

theorem sound_fresh (sid : String) (hasEventTx serverEnd : Bool) : Sound (fresh sid hasEventTx serverEnd) := by
  constructor
  · intro part hpart _
    rw [List.infix_nil.mp hpart]
    exact Nat.zero_le 1
  · intro h
    cases h

theorem closesSince_publish {event : Event} (h : event ≠ .onClose s.sid) :
    closesSince s.sid (s.publish event).log = closesSince s.sid s.log := by
  unfold publish
  split
  · exact closesSince_other h
  · rfl

theorem closedOnce_publish {event : Event} (h : ClosedOnce s.sid s.log)
    (hevent : event = .onClose s.sid → closesSince s.sid s.log = 0) : ClosedOnce s.sid (s.publish event).log := by
  unfold publish
  split
  · apply h.cons
    by_cases he : event = .onClose s.sid
    · subst he
      rw [closesSince_onClose,hevent rfl]
    · rw [closesSince_other he]
      exact h.closesSince_le
  · exact h

theorem closePending_set {i : ℕ} {old new : CallTask} (hi : s.tasks[i]? = some old) (hcall : new.call = old.call)
    (hstage : new.stage ≠ .entered) (h : s.ClosePending) :
    ClosePending { s with tasks := s.tasks.set i new } := by
  obtain ⟨task,ht,hcloses,hs⟩ := h
  rcases eq_or_mem_set hi ht with rfl | ht
  · exact ⟨new,mem_set_new hi,hcall ▸ hcloses,hstage⟩
  · exact ⟨task,ht,hcloses,hs⟩

theorem step_sound (hp : s.ClosesAlone act) (hs : s.Sound) (h : s.step act = some t) : t.Sound := by
  cases step_does h with
  | connect =>
    constructor
    · exact hs.once.cons (by simp)
    · intro hsince
      simp at hsince
  | ignored call hcall hflag => exact hs
  | entered call hcall hflag =>
    refine ⟨hs.once,?_⟩
    intro hsince hconnected
    obtain ⟨task,ht,hclosing⟩ := hs.pending hsince hconnected
    exact ⟨task,List.mem_append_left _ ht,hclosing⟩
  | publish i call hi =>
    cases hcall : call.closes with
    | true =>
      simp only [ClosesAlone,hi] at hp
      obtain ⟨hconnected,hnone⟩ := hp hcall
      have hzero : closesSince s.sid s.log = 0 := by
        by_contra hne
        exact hnone (hs.pending (Nat.pos_of_ne_zero hne) hconnected)
      refine ⟨closedOnce_publish hs.once (fun _ => hzero),?_⟩
      intro _ _
      exact ⟨_,mem_set_new hi,hcall,by simp⟩
    | false =>
      have hevent := SocketCall.event_ne_onClose hcall s.sid
      refine ⟨closedOnce_publish hs.once (fun he => absurd he hevent),?_⟩
      intro hsince hconnected
      refine closePending_set hi rfl (by simp) (hs.pending ?_ hconnected)
      rwa [← closesSince_publish hevent]
  | emit i call packet hi hflag =>
    refine ⟨hs.once,?_⟩
    intro hsince hconnected
    exact closePending_set hi rfl (by simp) (hs.pending hsince hconnected)
  | refused i call hi hflag =>
    refine ⟨closedOnce_publish hs.once (fun he => absurd he (by simp)),?_⟩
    intro _ hconnected
    rw [show s.connected = true from hconnected] at hflag
    cases hflag
  | finish i task hi hstage =>
    refine ⟨hs.once,?_⟩
    intro hsince hconnected
    obtain ⟨hflag,hcall⟩ := Bool.and_eq_true_iff.mp hconnected
    obtain ⟨other,ho,hcloses,hother⟩ := hs.pending hsince hflag
    rcases eq_or_mem_eraseIdx hi ho with rfl | ho
    · simp [hcloses] at hcall
    · exact ⟨other,ho,hcloses,hother⟩

def ClosedOnceAfter (s : SocketState) (act : SocketAct) : Prop :=
  ∀ t, s.step act = some t → ClosedOnce t.sid t.log

/-- Until `OnClose` is published, calls that are to close the socket have passed their test
on the flag that is still set. -/
structure Exact (s : SocketState) : Prop where
  sound : s.Sound
  hasEventTx : s.hasEventTx = true
  waiting : closesSince s.sid s.log = 0 → ∀ task ∈ s.tasks, task.call.closes = true →
    task.stage = .entered ∧ s.connected = true

theorem Exact.not_closePending (hs : s.Exact) (hzero : closesSince s.sid s.log = 0) : ¬ s.ClosePending := by
  rintro ⟨task,ht,hcloses,hstage⟩
  exact hstage (hs.waiting hzero task ht hcloses).1

theorem Exact.closesAlone (hs : s.Exact) (honce : s.ClosedOnceAfter act) : s.ClosesAlone act := by
  cases act with
  | publish i =>
    simp only [ClosesAlone]
    split
    · rename_i call hi
      intro hcall
      have hlog := honce _ (by simp only [step,hi]; rfl)
      have hzero : closesSince s.sid s.log = 0 := by
        have hle := hlog.closesSince_le
        simp only [publish,SocketCall.event,hcall,hs.hasEventTx,if_true,closesSince_onClose] at hle
        omega
      exact ⟨(hs.waiting hzero _ (List.mem_of_getElem? hi) hcall).2,hs.not_closePending hzero⟩
    · trivial
  | call call => trivial
  | emit i => trivial
  | finish i => trivial

theorem Exact.step (hs : s.Exact) (hconnects : s.ConnectsAlone act) (hsound : t.Sound)
    (h : s.step act = some t) : t.Exact := by
  cases step_does h with
  | connect =>
    refine ⟨hsound,hs.hasEventTx,?_⟩
    intro _ task ht hcloses
    rcases List.mem_append.mp ht with ht | ht
    · rw [hconnects task ht] at hcloses
      cases hcloses
    · rw [List.mem_singleton.mp ht] at hcloses
      cases hcloses
  | ignored call hcall hflag => exact hs
  | entered call hcall hflag =>
    refine ⟨hsound,hs.hasEventTx,?_⟩
    intro hzero task ht hcloses
    rcases List.mem_append.mp ht with ht | ht
    · exact hs.waiting hzero task ht hcloses
    · rw [List.mem_singleton.mp ht]
      exact ⟨rfl,hflag⟩
  | publish i call hi =>
    refine ⟨hsound,hs.hasEventTx,?_⟩
    intro hzero
    cases hcall : call.closes with
    | true =>
      simp [publish,SocketCall.event,hcall,hs.hasEventTx,closesSince_onClose] at hzero
    | false =>
      have hbefore := hs.waiting ((closesSince_publish (SocketCall.event_ne_onClose hcall s.sid)).symm.trans hzero)
      apply forall_mem_set _ hbefore
      intro hcloses
      rw [hcall] at hcloses
      cases hcloses
  | emit i call packet hi hflag =>
    refine ⟨hsound,hs.hasEventTx,?_⟩
    intro hzero
    apply forall_mem_set _ (hs.waiting hzero)
    intro hcloses
    exact absurd ⟨_,List.mem_of_getElem? hi,hcloses,by simp⟩ (hs.not_closePending hzero)
  | refused i call hi hflag =>
    refine ⟨hsound,hs.hasEventTx,?_⟩
    intro hzero task ht hcloses
    have hbefore := hs.waiting ((closesSince_publish (by simp)).symm.trans hzero)
    exact hbefore task (List.mem_of_mem_eraseIdx ht) hcloses
  | finish i task hi hstage =>
    refine ⟨hsound,hs.hasEventTx,?_⟩
    intro hzero other ho hcloses
    have hcall : task.call.closes = false := by
      by_contra htask
      exact hs.not_closePending hzero ⟨task,List.mem_of_getElem? hi,Bool.of_not_eq_false htask,hstage⟩
    simpa [hcall] using hs.waiting hzero other (List.mem_of_mem_eraseIdx ho) hcloses

end SocketState

open SocketState

/-- If every call publishes `OnClose` while the flag is set and nobody else has still to
clear it, `OnClose` is published once between calls of `connect`. For a socket that is
connected again only when nobody is closing it, this is also necessary. -/
theorem close_once (sid : String) (hasEventTx serverEnd : Bool) (acts : List SocketAct) :
    (Along SocketState.step ClosesAlone (fresh sid hasEventTx serverEnd) acts →
      Along SocketState.step ClosedOnceAfter (fresh sid hasEventTx serverEnd) acts) ∧
    (hasEventTx = true → Along SocketState.step ConnectsAlone (fresh sid hasEventTx serverEnd) acts →
      Along SocketState.step ClosedOnceAfter (fresh sid hasEventTx serverEnd) acts →
      Along SocketState.step ClosesAlone (fresh sid hasEventTx serverEnd) acts) := by
  have hfresh := sound_fresh sid hasEventTx serverEnd
  constructor
  · refine Along.of_along ?_ (fun s act t => step_sound) hfresh
    intro s act hs hp t h
    exact (step_sound hp hs h).once
  · intro htx hconnects honce
    have hexact : Exact (fresh sid hasEventTx serverEnd) := by
      refine ⟨hfresh,htx,?_⟩
      intro _ task ht
      cases ht
    refine Along.of_along ?_ ?_ hexact (honce.and hconnects)
    · intro s act hs hp
      exact hs.closesAlone hp.1
    · intro s act t hp hs h
      exact hs.step hp.2 (step_sound (hs.closesAlone hp.1) hs.sound h) h

/-- A socket is closed by an incoming packet, `disconnect` comes too late, and the socket
is connected and closed again. -/
def orderlyCloses : List SocketAct :=
  [.call .connect,.publish 0,.finish 0,.call .handleClose,.publish 0,.finish 0,.call .disconnect,.call .connect,
    .publish 0,.finish 0,.call .disconnect,.publish 0,.emit 0,.finish 0]

theorem close_once_orderly :
    (run SocketState.step (fresh "MA==" true true) orderlyCloses).map SocketState.log =
      some [.published (.onClose "MA=="),.published (.onOpen "MA=="),.connect,.published (.onClose "MA=="),
        .published (.onOpen "MA=="),.connect] ∧
    Along SocketState.step ClosesAlone (fresh "MA==" true true) orderlyCloses ∧
    Along SocketState.step ClosedOnceAfter (fresh "MA==" true true) orderlyCloses :=
  ⟨by decide +kernel,by decide +kernel,(close_once "MA==" true true orderlyCloses).1 (by decide +kernel)⟩

/-- Two calls of `disconnect`, and `disconnect` beside an incoming close packet, both find
the flag set and both publish. -/
theorem closed_twice :
    (∃ s, run SocketState.step (fresh "MA==" true true) [.call .connect,.publish 0,.finish 0,.call .disconnect,
        .call .disconnect,.publish 0,.publish 1,.emit 0,.emit 1,.finish 0,.finish 0] = some s ∧ s.tasks = [] ∧
      ¬ ClosedOnce s.sid s.log) ∧
    ∃ s, run SocketState.step (fresh "MA==" true true) [.call .connect,.publish 0,.finish 0,.call .disconnect,
        .call .handleClose,.publish 0,.publish 1,.finish 1,.emit 0] = some s ∧ s.tasks = [] ∧
      ¬ ClosedOnce s.sid s.log := by
  constructor
  · refine ⟨_,rfl,rfl,?_⟩
    intro h
    exact absurd h.closesSince_le (by decide +kernel)
  · refine ⟨_,rfl,rfl,?_⟩
    intro h
    exact absurd h.closesSince_le (by decide +kernel)

end SocketIox.EngineIo
