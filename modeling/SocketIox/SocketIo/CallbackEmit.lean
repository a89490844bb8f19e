import SocketIox.SocketIo.Registry
import SocketIox.SocketIo.RoomMembership

/-! # Callbacks that emit to their own rooms

The callbacks of a client run as soon as the client is made, before it is stored in the
registry. `emit_to` reads the session ids of the rooms first and then looks up the clients
one by one, in the order of a hash set, while everything else goes on. A client that is
stored when its callback calls `emit_to` is among the recipients; one that is not yet
stored is passed over.
-/
namespace SocketIox.SocketIo
open Wire Proc

/-- A call of `emit_to` by a callback of a client, the session ids that it has still to look up
and the clients it has sent to. `member` records that the caller was in one of the rooms. -/
structure EmitTask where
  nsp : NameSpace
  sid : Sid
  member : Bool
  pending : Finset Sid
  recipients : List Client
  deriving DecidableEq

/-- `dropped` are the sessions that are or were being dropped, `done` the finished calls. -/
structure EmitRegistry where
  registry : Registry
  dropped : List EngineSid
  emits : List EmitTask
  done : List EmitTask

def EmitRegistry.empty (on : List NameSpace) : EmitRegistry := ⟨Registry.empty on,[],[],[]⟩

inductive EmitAct where
  | registry (act : RegistryAct)
  | call (nsp : NameSpace) (sid : Sid) (rooms : List Room)
  | lookup (i : ℕ) (sid : Sid)
  | finish (i : ℕ)
  deriving DecidableEq

namespace EmitTask

def Reached (task : EmitTask) : Prop := ∃ client ∈ task.recipients, client.sid = task.sid ∧ client.nsp = task.nsp

instance (task : EmitTask) : Decidable task.Reached := inferInstanceAs (Decidable (∃ client ∈ task.recipients, _))

end EmitTask

namespace EmitRegistry
variable (base64 : EngineIo.Base64Crate)

def step (s : EmitRegistry) : EmitAct → Option EmitRegistry
  | .registry act =>
    (Registry.step base64 s.registry act).map (fun registry => { s with
      registry := registry
      dropped := registry.drops.map DropTask.esid ++ s.dropped })
  | .call nsp sid rooms =>
    if s.registry.created.any (· = (nsp,sid)) then
      some { s with emits := s.emits ++ [⟨nsp,sid,decide (∃ room ∈ rooms, s.registry.server.rooms.Mem nsp room sid),
        s.registry.server.sidsToEmit nsp rooms,[]⟩] }
    else none
  | .lookup i sid =>
    match s.emits[i]? with
    | some task =>
      if sid ∈ task.pending then
        some { s with emits := s.emits.set i { task with
          pending := task.pending.erase sid
          recipients := task.recipients ++ (s.registry.server.client base64 sid task.nsp).toList } }
      else none
    | none => none
  | .finish i =>
    match s.emits[i]? with
    | some task =>
      if task.pending = ∅ then some { s with emits := s.emits.eraseIdx i, done := task :: s.done } else none
    | none => none

/-- Callbacks call `emit_to` when their client is stored. -/
def Registered (s : EmitRegistry) : EmitAct → Prop
  | .call nsp sid _ => (s.registry.server.client base64 sid nsp).isSome = true
  | _ => True

instance (s : EmitRegistry) (act : EmitAct) : Decidable (s.Registered base64 act) :=
  match act with
  | .call nsp sid _ => inferInstanceAs (Decidable ((s.registry.server.client base64 sid nsp).isSome = true))
  | .registry _ | .lookup _ _ | .finish _ => isTrue trivial

end EmitRegistry

section Stored
variable {base64 : EngineIo.Base64Crate} {s t : Registry} {act : RegistryAct}

def Clients.Named (clients : Clients) : Prop :=
  ∀ esid sid nsp client, clients.get esid sid nsp = some client → client.sid = sid ∧ client.nsp = nsp

theorem Registry.step_named (hs : s.server.clients.Named) (h : Registry.step base64 s act = some t) :
    t.server.clients.Named := by
  cases step_does h with
  | insert i task sid nsp hi hsid =>
    intro esid' sid' nsp' client hget
    simp only [Registry.insert,Clients.get_put] at hget
    split at hget
    · rename_i heq
      cases hget
      exact ⟨heq.2.1.symm,heq.2.2.symm⟩
    · exact hs _ _ _ _ hget
  | remove i task hi =>
    intro esid' sid' nsp' client hget
    simp only [Registry.remove,Clients.get_erase] at hget
    split at hget
    · cases hget
    · exact hs _ _ _ _ hget
  | engine | ignored | found | advance | ended | onClose | timeout | closeSocket | sweepBegin | sweep | dropEnd
  | join | leave => exact hs

theorem Registry.step_stored {esid : EngineSid} {sid : Sid} {nsp : NameSpace}
    (hd : ∀ task ∈ s.drops, task.esid ≠ esid) (hs : (s.server.clients.get esid sid nsp).isSome = true)
    (h : Registry.step base64 s act = some t) : (t.server.clients.get esid sid nsp).isSome = true := by
  cases step_does h with
  | insert i task sid' nsp' hi hsid =>
    simp only [Registry.insert,Clients.get_put]
    split
    · rfl
    · exact hs
  | remove i task hi =>
    have hne : esid ≠ task.esid := fun he => hd task (List.mem_of_getElem? hi) he.symm
    simpa only [Registry.remove,Clients.get_erase,if_neg hne] using hs
  | engine | ignored | found | advance | ended | onClose | timeout | closeSocket | sweepBegin | sweep | dropEnd
  | join | leave => exact hs

end Stored

namespace EmitRegistry
variable {base64 : EngineIo.Base64Crate} {s t : EmitRegistry} {act : EmitAct}

/-- The caller was in one of the rooms, and its session has not been dropped. -/
def Counts (base64 : EngineIo.Base64Crate) (s : EmitRegistry) (task : EmitTask) (esid : EngineSid) : Prop :=
  task.member = true ∧ SidGenerator.decode base64 task.sid = some esid ∧ esid ∉ s.dropped

structure Sound (base64 : EngineIo.Base64Crate) (s : EmitRegistry) : Prop where
  named : s.registry.server.clients.Named
  drops : ∀ task ∈ s.registry.drops, task.esid ∈ s.dropped
  emits : ∀ task ∈ s.emits, ∀ esid, s.Counts base64 task esid →
    (s.registry.server.clients.get esid task.sid task.nsp).isSome = true ∧ (task.sid ∈ task.pending ∨ task.Reached)
  done : ∀ task ∈ s.done, ∀ esid, s.Counts base64 task esid → task.Reached

theorem sound_empty (on : List NameSpace) : Sound base64 (EmitRegistry.empty on) := by
  constructor
  · intro esid sid nsp client h
    simp [EmitRegistry.empty,Registry.empty,Server.empty,Clients.get] at h
  · intro task h
    cases h
  · intro task h
    cases h
  · intro task h
    cases h

theorem Sound.registry (hs : s.Sound base64) {registry : Registry} {act : RegistryAct}
    (h : Registry.step base64 s.registry act = some registry) :
    Sound base64 { s with registry := registry, dropped := registry.drops.map DropTask.esid ++ s.dropped } := by
  have hcounts : ∀ task esid, Counts base64 { s with
      registry := registry, dropped := registry.drops.map DropTask.esid ++ s.dropped } task esid →
      s.Counts base64 task esid := by
    rintro task esid ⟨hm,he,hd⟩
    exact ⟨hm,he,fun hmem => hd (List.mem_append_right _ hmem)⟩
  constructor
  · exact Registry.step_named hs.named h
  · intro task ht
    exact List.mem_append_left _ (List.mem_map_of_mem ht)
  · intro task ht esid hc
    obtain ⟨hstored,hreached⟩ := hs.emits task ht esid (hcounts task esid hc)
    refine ⟨Registry.step_stored ?_ hstored h,hreached⟩
    rintro drop hdrop rfl
    exact (hcounts task _ hc).2.2 (hs.drops drop hdrop)
  · intro task ht esid hc
    exact hs.done task ht esid (hcounts task esid hc)

theorem Sound.call (hs : s.Sound base64) {nsp : NameSpace} {sid : Sid}
    (hstored : (s.registry.server.client base64 sid nsp).isSome = true) (rooms : List Room) :
    Sound base64 { s with emits := s.emits ++ [⟨nsp,sid,
      decide (∃ room ∈ rooms, s.registry.server.rooms.Mem nsp room sid),
      s.registry.server.sidsToEmit nsp rooms,[]⟩] } := by
  refine ⟨hs.named,hs.drops,?_,hs.done⟩
  intro task ht esid hc
  rcases List.mem_append.mp ht with ht | ht
  · exact hs.emits task ht esid hc
  · rw [List.mem_singleton] at ht
    subst ht
    obtain ⟨hmember,hesid,-⟩ := hc
    refine ⟨?_,Or.inl (mem_sidsToEmit_of_mem (by simpa using hmember))⟩
    rwa [Server.client_eq_get hesid] at hstored

theorem Sound.lookup (hs : s.Sound base64) {i : ℕ} {task : EmitTask} (hi : s.emits[i]? = some task) (sid : Sid) :
    Sound base64 { s with emits := s.emits.set i { task with
      pending := task.pending.erase sid
      recipients := task.recipients ++ (s.registry.server.client base64 sid task.nsp).toList } } := by
  refine ⟨hs.named,hs.drops,?_,hs.done⟩
  apply forall_mem_set _ hs.emits
  intro esid hc
  obtain ⟨hstored,hwaits⟩ := hs.emits task (List.mem_of_getElem? hi) esid hc
  refine ⟨hstored,?_⟩
  rcases hwaits with hpending | ⟨client,hmem,hclient⟩
  · by_cases he : task.sid = sid
    · right
      obtain ⟨client,hget⟩ := Option.isSome_iff_exists.mp hstored
      have hfound : s.registry.server.client base64 sid task.nsp = some client := by
        rw [← he,Server.client_eq_get hc.2.1,hget]
      refine ⟨client,?_,hs.named _ _ _ _ hget⟩
      simp [hfound]
    · exact Or.inl (Finset.mem_erase.mpr ⟨he,hpending⟩)
  · exact Or.inr ⟨client,List.mem_append_left _ hmem,hclient⟩

theorem Sound.finish (hs : s.Sound base64) {i : ℕ} {task : EmitTask} (hi : s.emits[i]? = some task)
    (hp : task.pending = ∅) : Sound base64 { s with emits := s.emits.eraseIdx i, done := task :: s.done } := by
  refine ⟨hs.named,hs.drops,fun other h => hs.emits other (List.mem_of_mem_eraseIdx h),?_⟩
  intro other ht esid hc
  rcases List.mem_cons.mp ht with rfl | ht
  · rcases (hs.emits other (List.mem_of_getElem? hi) esid hc).2 with hpending | hreached
    · rw [hp] at hpending
      cases hpending
    · exact hreached
  · exact hs.done other ht esid hc

theorem step_sound (hr : s.Registered base64 act) (hs : s.Sound base64) (h : step base64 s act = some t) :
    t.Sound base64 := by
  cases act with
  | registry act =>
    obtain ⟨registry,hregistry,rfl⟩ := Option.map_eq_some_iff.mp h
    exact hs.registry hregistry
  | call nsp sid rooms =>
    simp only [step] at h
    split at h
    · cases h
      exact hs.call hr rooms
    · cases h
  | lookup i sid =>
    simp only [step] at h
    split at h
    · rename_i task hi
      split at h
      · cases h
        exact hs.lookup hi sid
      · cases h
    · cases h
  | finish i =>
    simp only [step] at h
    split at h
    · rename_i task hi
      split at h
      · rename_i hp
        cases h
        exact hs.finish hi hp
      · cases h
    · cases h

end EmitRegistry

open EmitRegistry

/-- In a run in which the callbacks call `emit_to` when their client is stored, a caller that is
in one of the rooms is among the recipients of every finished call, as long as its session has
not been dropped. -/
theorem self_emit_received (base64 : EngineIo.Base64Crate) (on : List NameSpace) (acts : List EmitAct)
    (s : EmitRegistry) (hrun : run (step base64) (EmitRegistry.empty on) acts = some s)
    (hregistered : Along (step base64) (Registered base64) (EmitRegistry.empty on) acts) (task : EmitTask)
    (htask : task ∈ s.done) (hmember : task.member = true) (esid : EngineSid)
    (hesid : SidGenerator.decode base64 task.sid = some esid) (hopen : esid ∉ s.dropped) : task.Reached := by
  have hs : s.Sound base64 := run_preserves_along (fun s act t => step_sound) hregistered (sound_empty on) hrun
  exact hs.done task htask esid ⟨hmember,hesid,hopen⟩

def roomOfOwn : List EmitAct :=
  [.registry (.engineStore "MA==" 0),.registry (.onOpen "MA=="),.registry (.clientInfo 0 none),
    .registry (.generate 0),.registry (.connectPacket 0 "/"),.registry (.join (.call "/" ["a"] "TUE9PS0w")),
    .registry (.join (.getMut 0)),.registry (.join (.insert 0))]

def emitToOwn : List EmitAct := [.call "/" "TUE9PS0w" ["a"],.lookup 0 "TUE9PS0w",.finish 0]

theorem self_emit_received_registered :
    ∃ s, run (step EngineIo.rfc4648) (EmitRegistry.empty ["/"])
        (roomOfOwn ++ [.registry (.insert 0)] ++ emitToOwn) = some s ∧
      ∃ task ∈ s.done, task.member = true ∧ task.Reached := by
  refine ⟨_,rfl,⟨"/","TUE9PS0w",true,∅,[⟨0,"/","TUE9PS0w"⟩]⟩,by decide +kernel,rfl,?_⟩
  exact self_emit_received EngineIo.rfc4648 ["/"] (roomOfOwn ++ [.registry (.insert 0)] ++ emitToOwn) _ rfl
    (by decide +kernel) _ (by decide +kernel) rfl "MA==" (by decide +kernel) (by decide +kernel)

/-- The callback emits before the client is stored. -/
theorem self_emit_missed :
    ∃ s, run (step EngineIo.rfc4648) (EmitRegistry.empty ["/"])
        (roomOfOwn ++ emitToOwn ++ [.registry (.insert 0)]) = some s ∧
      ∃ task ∈ s.done, task.member = true ∧ SidGenerator.decode EngineIo.rfc4648 task.sid = some "MA==" ∧
        "MA==" ∉ s.dropped ∧ ¬ task.Reached :=
  ⟨_,rfl,⟨"/","TUE9PS0w",true,∅,[]⟩,by decide +kernel,rfl,by decide +kernel,by decide +kernel,by decide +kernel⟩

end SocketIox.SocketIo
