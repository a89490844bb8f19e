import SocketIox.Proc.Runs
import SocketIox.Proc.Tasks
import SocketIox.SocketIo.Server
import SocketIox.Store.Insertions

/-! # Registering callbacks

`on` of the server builder inserts the callback before it returns. `on` of the client
builder spawns a task for the insertion and nobody waits for that task: `connect` starts
the poll loop whether the insertions have been made or not, and of two callbacks for one
event the one whose task runs last stays. A callback is named by a number.
-/
namespace SocketIox.SocketIo
open Proc Store

abbrev Callbacks := Map Event ℕ

section ServerBuilder

def ServerBuilder.on (handlers : Map NameSpace Callbacks) (nsp : NameSpace) (event : Event) (callback : ℕ) :
    Map NameSpace Callbacks :=
  match handlers.lookup nsp with
  | some callbacks => handlers.insert nsp (callbacks.insert event callback)
  | none => handlers.insert nsp ((∅ : Callbacks).insert event callback)

/-- A chain of calls of `on`, and `build`, which moves every entry into the map of the server. -/
def ServerBuilder.build (calls : List ((NameSpace × Event) × ℕ)) : Map NameSpace Callbacks :=
  mapValues id (calls.foldl (fun handlers call => ServerBuilder.on handlers call.1.1 call.1.2 call.2) ∅)

/-- The namespaces are those of the calls, and each has for every event the callback of its last call. -/
structure ServerBuilder.Registered (handlers : Map NameSpace Callbacks)
    (calls : List ((NameSpace × Event) × ℕ)) : Prop where
  mem_iff : ∀ nsp, nsp ∈ handlers ↔ ∃ call ∈ calls, call.1.1 = nsp
  filled : ∀ nsp callbacks, handlers.lookup nsp = some callbacks →
    ∀ event, callbacks.lookup event = lastValue (nsp,event) calls

variable {handlers : Map NameSpace Callbacks} {calls : List ((NameSpace × Event) × ℕ)}

theorem ServerBuilder.Registered.insert (h : Registered handlers calls) {nsp : NameSpace} {callbacks : Callbacks}
    (hfilled : ∀ event, callbacks.lookup event = lastValue (nsp,event) calls) (event : Event) (callback : ℕ) :
    Registered (handlers.insert nsp (callbacks.insert event callback)) (calls ++ [((nsp,event),callback)]) := by
  constructor
  · intro nsp'
    rw [AList.mem_insert,h.mem_iff]
    simp only [List.mem_append,List.mem_singleton,or_and_right,exists_or,exists_eq_left,eq_comm (a := nsp)]
    exact or_comm
  · intro nsp' callbacks' hlookup event'
    rw [lookup_insert_eq] at hlookup
    rw [lastValue_append]
    split at hlookup
    · rename_i he
      subst he
      cases hlookup
      rw [lookup_insert_eq,hfilled event']
      simp
    · rename_i hne
      rw [h.filled nsp' callbacks' hlookup event',if_neg (fun he => hne (Prod.mk.inj he).1)]

theorem ServerBuilder.Registered.on (h : Registered handlers calls) (nsp : NameSpace) (event : Event)
    (callback : ℕ) : Registered (ServerBuilder.on handlers nsp event callback) (calls ++ [((nsp,event),callback)]) := by
  unfold ServerBuilder.on
  cases hlookup : handlers.lookup nsp with
  | some callbacks => exact h.insert (h.filled nsp callbacks hlookup) event callback
  | none =>
    refine h.insert ?_ event callback
    intro event'
    cases hlast : lastValue (nsp,event') calls with
    | none => rfl
    | some callback' =>
      have hmem := (h.mem_iff nsp).mpr ⟨_,mem_of_lastValue hlast,rfl⟩
      exact absurd hmem (AList.lookup_eq_none.mp hlookup)

/-- On the server every callback is in force as soon as `on` returns. -/
theorem ServerBuilder.registered_build (calls : List ((NameSpace × Event) × ℕ)) :
    Registered (ServerBuilder.build calls) calls := by
  have hempty : Registered ∅ [] := by
    constructor
    · intro nsp
      exact ⟨fun h => absurd h (AList.notMem_empty nsp),fun ⟨call,hcall,_⟩ => absurd hcall List.not_mem_nil⟩
    · intro nsp callbacks h
      cases h
  have h := foldl_history (fun calls handlers => Registered handlers calls)
    (fun _ _ call h => h.on call.1.1 call.1.2 call.2) hempty calls
  unfold ServerBuilder.build
  constructor
  · intro nsp
    rw [← AList.lookup_isSome,lookup_mapValues,Option.isSome_map,AList.lookup_isSome]
    exact h.mem_iff nsp
  · intro nsp callbacks hlookup
    rw [lookup_mapValues,Option.map_id] at hlookup
    exact h.filled nsp callbacks hlookup

end ServerBuilder

/-- What `connect` is at: the chain of calls of `on` goes on, it connects the socket, the poll loop runs,
the first packet has been dispatched, or it has failed. -/
inductive SetupStage where
  | building
  | connecting
  | polling
  | dispatched
  | failed
  deriving DecidableEq, Repr

/-- A client from its builder to its first packet. `calls` are the calls of `on`, `waiting` those whose
tasks have not run and `log` those whose tasks have, the oldest first. -/
structure ClientSetup where
  calls : List (Event × ℕ)
  waiting : List (Event × ℕ)
  log : List (Event × ℕ)
  on : Callbacks
  stage : SetupStage

inductive SetupAct where
  | on (event : Event)
  | insert (i : ℕ)
  | connect
  | connected (ok : Bool)
  | dispatch
  deriving DecidableEq, Repr

namespace ClientSetup

def initial : ClientSetup := ⟨[],[],[],∅,.building⟩

def step (s : ClientSetup) : SetupAct → Option ClientSetup
  | .on event =>
    -- the callback is a new object, which no other call has
    if s.stage = .building then some { s with
      calls := s.calls ++ [(event,s.calls.length)], waiting := s.waiting ++ [(event,s.calls.length)] }
    else none
  | .insert i =>
    match s.waiting[i]? with
    | some (event,callback) => some { s with
      waiting := s.waiting.eraseIdx i, log := s.log ++ [(event,callback)], on := s.on.insert event callback }
    | none => none
  | .connect => if s.stage = .building then some { s with stage := .connecting } else none
  | .connected ok =>
    if s.stage = .connecting then some { s with stage := if ok then .polling else .failed } else none
  | .dispatch => if s.stage = .polling then some { s with stage := .dispatched } else none

/-- Every event of the chain has the callback of the last call of `on` for it. -/
def InForce (s : ClientSetup) : Prop :=
  ∀ event callback, lastValue event s.calls = some callback → s.on.lookup event = some callback

/-- The task of the last call of `on` for an event has run, and no task of that event after it. -/
def LastInserted (s : ClientSetup) : Prop :=
  ∀ event callback, lastValue event s.calls = some callback →
    ∃ before after, s.log = before ++ (event,callback) :: after ∧ ∀ entry ∈ after, entry.1 ≠ event

section Steps
variable {s t : ClientSetup} {act : SetupAct}

def Sound (s : ClientSetup) : Prop := FilledBy s.on s.log

theorem step_sound (hs : s.Sound) (h : step s act = some t) : t.Sound := by
  cases act with
  | insert i =>
    simp only [step] at h
    split at h
    · cases h
      exact FilledBy.insert hs _ _
    · cases h
  | _ =>
    simp only [step] at h
    split at h
    · cases h
      exact hs
    · cases h

theorem step_dispatch (h : step s .dispatch = some t) : s.stage = .polling ∧ { s with stage := .dispatched } = t := by
  simp only [step] at h
  split at h
  · rename_i hstage
    cases h
    exact ⟨hstage,rfl⟩
  · cases h

theorem Sound.inForce_iff (hs : s.Sound) : s.InForce ↔ s.LastInserted := by
  unfold InForce LastInserted
  constructor
  · intro h event callback hlast
    exact lastValue_eq_some_iff.mp ((hs event).symm.trans (h event callback hlast))
  · intro h event callback hlast
    exact (hs event).trans (lastValue_eq_some_iff.mpr (h event callback hlast))

/-- The tasks run in the order in which they were spawned, and the first packet is not dispatched before
all of them have run. -/
def InTurn (s : ClientSetup) : SetupAct → Prop
  | .insert i => i = 0
  | .dispatch => s.waiting = []
  | .on _ | .connect | .connected _ => True

instance (s : ClientSetup) (act : SetupAct) : Decidable (s.InTurn act) :=
  match act with
  | .insert i => inferInstanceAs (Decidable (i = 0))
  | .dispatch => inferInstanceAs (Decidable (s.waiting = []))
  | .on _ | .connect | .connected _ => isTrue trivial

def Ordered (s : ClientSetup) : Prop := s.calls = s.log ++ s.waiting

theorem step_ordered (hturn : s.InTurn act) (hs : s.Ordered) (h : step s act = some t) : t.Ordered := by
  unfold Ordered at hs ⊢
  cases act with
  | on event =>
    simp only [step] at h
    split at h
    · cases h
      simp only [hs,List.append_assoc]
    · cases h
  | insert i =>
    cases hturn
    simp only [step] at h
    split at h
    · rename_i event callback hi
      cases h
      obtain ⟨rest,hrest⟩ := List.head?_eq_some_iff.mp (List.head?_eq_getElem? .. ▸ hi)
      simp only [hs,hrest,List.eraseIdx_zero,List.tail_cons,List.append_assoc,List.singleton_append]
    · cases h
  | _ =>
    simp only [step] at h
    split at h
    · cases h
      exact hs
    · cases h

end Steps
end ClientSetup

open ClientSetup

/-- When the first packet is dispatched, every event of the chain has the callback of the last call of
`on` for it, exactly if by then the task of that call has run and no other task of the event after it. -/
theorem registered_in_force_iff (acts : List SetupAct) :
    Along step (fun s act => act = .dispatch → ∀ t, step s act = some t → t.InForce) initial acts ↔
    Along step (fun s act => act = .dispatch → s.stage = .polling → s.LastInserted) initial acts := by
  have hinitial : initial.Sound := filledBy_empty
  refine along_iff_along ?_ (fun s act t _ => step_sound) hinitial acts
  intro s act hs
  constructor
  · rintro h rfl hstage
    have hstep : step s .dispatch = some { s with stage := .dispatched } := if_pos hstage
    have hforce : InForce { s with stage := .dispatched } := h rfl _ hstep
    exact hs.inForce_iff.mp hforce
  · rintro h rfl t ht
    obtain ⟨hstage,rfl⟩ := step_dispatch ht
    exact hs.inForce_iff.mpr (h rfl hstage)

theorem registered_inTurn (acts : List SetupAct) (hturn : Along step InTurn initial acts) :
    Along step (fun s act => act = .dispatch → ∀ t, step s act = some t → t.InForce) initial acts := by
  apply (registered_in_force_iff acts).mpr
  have hinitial : initial.Ordered := rfl
  refine Along.of_along ?_ (fun s act t => step_ordered) hinitial hturn
  rintro s act hs hact rfl -
  have hempty : s.waiting = [] := hact
  have hcalls : s.calls = s.log := by
    rw [hs,hempty,List.append_nil]
  intro event callback hlast
  rw [hcalls] at hlast
  exact lastValue_eq_some_iff.mp hlast

example : ∃ s, run step initial [.on (.custom "foo"),.on .error,.on (.custom "foo"),.connect,.insert 0,.insert 0,
      .insert 0,.connected true] = some s ∧
    s.on.lookup (.custom "foo") = some 2 ∧ s.on.lookup .error = some 1 :=
  ⟨_,rfl,rfl,rfl⟩

/-- The first packet is dispatched before the callback is inserted, or the callback of the first of two
calls is inserted last. -/
theorem registered_not_in_force :
    (∃ s, run step initial [.on (.custom "foo"),.connect,.connected true,.dispatch] = some s ∧
      s.on.lookup (.custom "foo") = none ∧ ¬ s.InForce) ∧
    ∃ s, run step initial [.on (.custom "foo"),.on (.custom "foo"),.insert 1,.insert 0,.connect,.connected true,
        .dispatch] = some s ∧
      s.on.lookup (.custom "foo") = some 0 ∧ ¬ s.InForce := by
  refine ⟨⟨_,rfl,rfl,?_⟩,⟨_,rfl,rfl,?_⟩⟩
  · intro h
    cases h (.custom "foo") 0 rfl
  · intro h
    cases h (.custom "foo") 1 rfl

end SocketIox.SocketIo
