import SocketIox.Proc.Spawned
import SocketIox.SocketIo.Payload

/-! # The order of callbacks

`Socket::callback` spawns a task for every packet, and the task looks up the callback of
the event once it runs. It keeps the entry of the map while the callback is at work, so
one event has one invocation at a time, each packet its own, but it is the scheduler that
decides on their order.
-/
namespace SocketIox.SocketIo
open Proc Proc.Spawned

/-- What `poll_packet` hands to `callback` for an event packet of the namespace of the socket. -/
def Packet.dispatched (nsp : String) (packet : Packet) : Option Dispatch :=
  if packet.nsp = nsp then packet.eventArm else none

/-- A packet arrives; or one of the spawned tasks takes the lock of its entry, or is done. -/
inductive CallbackAct where
  | arrive (packet : Packet)
  | acquire (i : ℕ)
  | release (i : ℕ)

def CallbackAct.arrived (acts : List CallbackAct) : List Packet :=
  acts.filterMap (fun act => match act with
    | .arrive packet => some packet
    | _ => none)

namespace CallbackTasks
variable (shard : Event → ℕ) (nsp : String)

/-- Entries of the map are locked together with their shard. -/
def lock (dispatch : Dispatch) : ℕ := shard dispatch.event

def spawned : CallbackAct → Option (Spawned.Act Dispatch)
  | .arrive packet => (packet.dispatched nsp).map .spawn
  | .acquire i => some (.acquire i)
  | .release i => some (.release i)

def step (s : Spawned.State Dispatch) (act : CallbackAct) : Option (Spawned.State Dispatch) :=
  match spawned nsp act with
  | some act => Spawned.step (lock shard) s act
  | none => some s

/-- The invocations of the callback of an event; a task that finds no callback ends at once. -/
def invoked (on : List Event) (event : Event) (s : Spawned.State Dispatch) : List Dispatch :=
  ofClass Dispatch.event event (s.log.filter (fun dispatch => dispatch.event ∈ on))

def awaited (event : Event) (s : Spawned.State Dispatch) : List Dispatch := ofClass Dispatch.event event s.waiting

def arrivals (event : Event) (acts : List CallbackAct) : List Dispatch :=
  ofClass Dispatch.event event ((CallbackAct.arrived acts).filterMap (Packet.dispatched nsp))

/-- The tasks of an event get its entry in the order in which they were spawned. -/
def InTurn (s : Spawned.State Dispatch) (act : CallbackAct) : Prop :=
  ∀ spawn ∈ spawned nsp act, InOrder Dispatch.event s spawn

instance (s : Spawned.State Dispatch) (act : CallbackAct) : Decidable (InTurn nsp s act) :=
  inferInstanceAs (Decidable (∀ spawn ∈ spawned nsp act, InOrder Dispatch.event s spawn))

variable {shard nsp} {s t : Spawned.State Dispatch} {act : CallbackAct} {acts : List CallbackAct}

theorem step_spawned_or (h : step shard nsp s act = some t) :
    (∃ spawn, spawned nsp act = some spawn ∧ Spawned.step (lock shard) s spawn = some t) ∨ t = s := by
  unfold step at h
  split at h
  · rename_i spawn hspawn
    exact Or.inl ⟨spawn,hspawn,h⟩
  · cases h
    exact Or.inr rfl

theorem step_sound (hs : Sound (lock shard) s) (h : step shard nsp s act = some t) : Sound (lock shard) t := by
  rcases step_spawned_or h with ⟨spawn,-,hstep⟩ | rfl
  · exact Spawned.step_sound hs hstep
  · exact hs

theorem step_ordered (hin : InTurn nsp s act) (hs : Ordered Dispatch.event s) (h : step shard nsp s act = some t) :
    Ordered Dispatch.event t := by
  rcases step_spawned_or h with ⟨spawn,hspawn,hstep⟩ | rfl
  · exact Spawned.step_ordered (hin spawn hspawn) hs hstep
  · exact hs

theorem jobs_spawned (nsp : String) (act : CallbackAct) :
    ((spawned nsp act).map Spawned.Act.jobs).getD [] =
      (CallbackAct.arrived [act]).filterMap (Packet.dispatched nsp) := by
  cases act with
  | arrive packet => cases h : packet.dispatched nsp <;> simp [spawned,CallbackAct.arrived,h,Spawned.Act.jobs]
  | acquire i => rfl
  | release i => rfl

theorem run_spawned (h : run (step shard nsp) s acts = some t) :
    t.spawned = s.spawned ++ (CallbackAct.arrived acts).filterMap (Packet.dispatched nsp) := by
  induction acts generalizing s with
  | nil =>
    cases h
    exact (List.append_nil _).symm
  | cons act rest ih =>
    obtain ⟨u,hstep,hrest⟩ := run_cons h
    have hu : u.spawned = s.spawned ++ (CallbackAct.arrived [act]).filterMap (Packet.dispatched nsp) := by
      rw [← jobs_spawned]
      unfold step at hstep
      split at hstep
      · rename_i spawn hspawn
        rw [Spawned.step_spawned hstep,hspawn]
        rfl
      · rename_i hspawn
        cases hstep
        simp [hspawn]
    have hsplit : CallbackAct.arrived (act :: rest) = CallbackAct.arrived [act] ++ CallbackAct.arrived rest := by
      unfold CallbackAct.arrived
      rw [← List.filterMap_append,List.singleton_append]
    rw [ih hrest,hu,hsplit,List.filterMap_append,List.append_assoc]

theorem invoked_append_awaited {on : List Event} {event : Event} (he : event ∈ on) (s : Spawned.State Dispatch) :
    invoked on event s ++ awaited event s = ofClass Dispatch.event event (s.log ++ s.waiting) := by
  have hlog : invoked on event s = ofClass Dispatch.event event s.log := by
    unfold invoked ofClass
    rw [List.filter_filter]
    apply List.filter_congr
    intro dispatch _
    by_cases hd : dispatch.event = event
    · simp [hd,he]
    · simp [hd]
  rw [hlog]
  simp [awaited,ofClass]

end CallbackTasks

open CallbackTasks

/-- Every packet of a registered event is given to its callback once, never two at a time, and in the
order of arrival as far as the tasks get the entry of the callback in the order of spawning. -/
theorem callbacks_one_by_one (shard : Event → ℕ) (nsp : String) (on : List Event) (acts : List CallbackAct)
    (s : Spawned.State Dispatch) (hrun : run (step shard nsp) initial acts = some s) (event : Event)
    (he : event ∈ on) :
    (ofClass Dispatch.event event s.running).length ≤ 1 ∧
    (invoked on event s ++ awaited event s).Perm (arrivals nsp event acts) ∧
    (Along (step shard nsp) (InTurn nsp) initial acts →
      invoked on event s ++ awaited event s = arrivals nsp event acts) := by
  have hs : Sound (lock shard) s := run_preserves (fun s act t => CallbackTasks.step_sound) sound_initial hrun
  have hspawned : s.spawned = (CallbackAct.arrived acts).filterMap (Packet.dispatched nsp) := run_spawned hrun
  rw [invoked_append_awaited he]
  unfold arrivals
  rw [← hspawned]
  refine ⟨hs.ofClass_running_le_one (fun d d' h => congrArg shard h) event,hs.accounts.filter _,?_⟩
  intro hin
  exact run_preserves_along (fun s act t => CallbackTasks.step_ordered) hin (ordered_initial Dispatch.event) hrun event

def twoPackets : List CallbackAct :=
  [.arrive ⟨.event,"/",some (.array [.string "foo",.null]),some 1,0,none⟩,
    .arrive ⟨.event,"/",some (.array [.string "foo",.null]),some 2,0,none⟩]

theorem callbacks_one_by_one_inTurn :
    ∃ s, run (step (fun _ => 0) "/") initial (twoPackets ++ [.acquire 0,.release 0,.acquire 0]) = some s ∧
      invoked [.custom "foo"] (.custom "foo") s = arrivals "/" (.custom "foo")
        (twoPackets ++ [.acquire 0,.release 0,.acquire 0]) := by
  refine ⟨_,rfl,?_⟩
  have hturn := (callbacks_one_by_one (fun _ => 0) "/" [.custom "foo"]
    (twoPackets ++ [.acquire 0,.release 0,.acquire 0]) _ rfl (.custom "foo") (by decide)).2.2 (by decide)
  rw [← hturn]
  rfl

/-- The task of the second packet gets the entry first. -/
theorem callbacks_out_of_order :
    ∃ s, run (step (fun _ => 0) "/") initial
        (twoPackets ++ [.acquire 1,.release 0,.acquire 0,.release 0]) = some s ∧
      s.waiting = [] ∧ s.running = [] ∧
      (arrivals "/" (.custom "foo") (twoPackets ++ [.acquire 1,.release 0,.acquire 0,.release 0])).map
        Dispatch.needAck = [some 1,some 2] ∧
      (invoked [.custom "foo"] (.custom "foo") s).map Dispatch.needAck = [some 2,some 1] ∧
      invoked [.custom "foo"] (.custom "foo") s ≠ arrivals "/" (.custom "foo")
        (twoPackets ++ [.acquire 1,.release 0,.acquire 0,.release 0]) := by
  refine ⟨_,rfl,rfl,rfl,by decide,by decide,?_⟩
  intro h
  exact absurd (congrArg (List.map Dispatch.needAck) h) (by decide)

end SocketIox.SocketIo
