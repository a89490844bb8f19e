import SocketIox.SocketIo.Registry

/-! # What is left of a closed connection

`drop_client` removes the clients of a session and its memberships once. A client that is
stored after that, or joins a room in a namespace that the sweep has passed, stays for
good. If neither happens, nothing of a closed session is left.
-/
namespace SocketIox.SocketIo
open Wire Proc

/-- The namespace and the session id for which the step of a join adds a member. -/
def JoinState.adds (s : JoinState) : JoinAct → Option (NameSpace × Sid)
  | .call _ _ _ => none
  | .getMut i =>
    match s.tasks[i]? with
    | some ⟨nsp,sid,_,_ :: _,false⟩ => if nsp ∈ s.rooms then some (nsp,sid) else none
    | _ => none
  | .insert i =>
    match s.tasks[i]? with
    | some ⟨nsp,sid,_,_ :: _,true⟩ => some (nsp,sid)
    | _ => none

theorem JoinState.mem_of_step {s t : JoinState} {act : JoinAct} (h : s.step act = some t) {nsp : NameSpace}
    {room : Room} {sid : Sid} (hmem : t.rooms.Mem nsp room sid) :
    s.rooms.Mem nsp room sid ∨ s.adds act = some (nsp,sid) := by
  rcases step_cases h with ⟨_,_,_,rfl,rfl⟩ | ⟨_,_,_,_,_,_,rfl,_,_,rfl⟩ |
    ⟨i,nsp',sid',joined,room',rest,rfl,hi,hn,rfl⟩ | ⟨i,nsp',sid',joined,room',rest,rfl,hi,rfl⟩
  · exact Or.inl hmem
  · exact Or.inl hmem
  · rcases Store.Nested.mem_add_iff.mp hmem with ⟨rfl,-,rfl⟩ | hmem
    · exact Or.inr (by simp [adds,hi,hn])
    · exact Or.inl hmem
  · rcases Store.Nested.mem_put_iff.mp hmem with ⟨rfl,-,rfl⟩ | ⟨-,hmem⟩
    · exact Or.inr (by simp [adds,hi])
    · exact Or.inl hmem

def DropStage.Awaits (nsp : NameSpace) : DropStage → Prop
  | .sweeping keys seen => nsp ∈ keys ∧ nsp ∉ seen
  | _ => True

instance (nsp : NameSpace) (stage : DropStage) : Decidable (stage.Awaits nsp) :=
  match stage with
  | .sweeping keys seen => inferInstanceAs (Decidable (nsp ∈ keys ∧ nsp ∉ seen))
  | .closing | .disconnecting | .removed => isTrue trivial

def DropTask.Removed (task : DropTask) : Prop := task.stage ≠ .closing ∧ task.stage ≠ .disconnecting

namespace Registry
variable {base64 : EngineIo.Base64Crate} {s t : Registry} {act : RegistryAct}

/-- If the session is closed, its members in the namespace are still to be removed. -/
def Awaits (s : Registry) (esid : EngineSid) (nsp : NameSpace) : Prop :=
  esid ∉ s.closed ∧ ∀ task ∈ s.drops, task.inLoop = true → task.esid = esid → task.stage.Awaits nsp

instance (esid : EngineSid) (nsp : NameSpace) : Decidable (s.Awaits esid nsp) := inferInstanceAs (Decidable (_ ∧ _))

/-- No client is stored after the closing of its session has removed the clients, and no
member is added to a namespace after the closing of its session has passed it. -/
def InTime (base64 : EngineIo.Base64Crate) (s : Registry) : RegistryAct → Prop
  | .insert i => ∀ task ∈ s.connects[i]?, task.esid ∉ s.removed
  | .join act => ∀ p ∈ s.joinState.adds act, ∀ esid ∈ SidGenerator.decode base64 p.2, s.Awaits esid p.1
  | _ => True

instance : Decidable (s.InTime base64 act) :=
  match act with
  | .insert i => inferInstanceAs (Decidable (∀ task ∈ s.connects[i]?, _))
  | .join act => inferInstanceAs (Decidable (∀ p ∈ s.joinState.adds act, ∀ esid ∈ SidGenerator.decode base64 p.2, _))
  | .onOpen _ | .engineStore _ _ | .engineClose _ | .onClose _ | .clientInfo _ _ | .generate _ | .connectPacket _ _
  | .streamEnd _ | .timeout _ | .closeSocket _ | .remove _ | .sweepBegin _ | .sweep _ _ | .dropEnd _
  | .leave _ _ _ => isTrue trivial

def Finished (s : Registry) : Prop := s.connects = [] ∧ s.drops = [] ∧ s.joinState.Finished

instance : Decidable s.Finished := inferInstanceAs (Decidable (_ ∧ _ ∧ _))

def Gone (base64 : EngineIo.Base64Crate) (s : Registry) (esid : EngineSid) : Prop :=
  esid ∉ s.server.clients ∧
    ∀ nsp room sid, s.server.rooms.Mem nsp room sid → SidGenerator.decode base64 sid ≠ some esid

structure Cleaned (base64 : EngineIo.Base64Crate) (s : Registry) : Prop where
  clients : ∀ esid ∈ s.removed, esid ∉ s.server.clients
  drops : ∀ task ∈ s.drops, task.inLoop = true → task.Removed → task.esid ∈ s.removed
  closed : ∀ esid ∈ s.closed, esid ∈ s.removed
  rooms : ∀ nsp room sid, s.server.rooms.Mem nsp room sid → ∀ esid, SidGenerator.decode base64 sid = some esid →
    s.Awaits esid nsp

theorem cleaned_empty (on : List NameSpace) : Cleaned base64 (Registry.empty on) := by
  constructor
  · intro esid h
    cases h
  · intro task h
    cases h
  · intro esid h
    cases h
  · intro nsp room sid h
    exact absurd h (Store.Nested.not_mem_of_lookup (AList.lookup_empty nsp))

theorem Cleaned.startDrop (hs : s.Cleaned base64) (connects : List ConnectTask) (esid : EngineSid) (inLoop : Bool) :
    (s.startDrop connects esid inLoop).Cleaned base64 := by
  refine ⟨hs.clients,?_,hs.closed,?_⟩
  · intro task h
    rcases List.mem_append.mp h with h | h
    · exact hs.drops task h
    · rw [List.mem_singleton.mp h]
      intro _ hremoved
      exact absurd rfl hremoved.1
  · intro nsp room sid hmem esid' hd
    obtain ⟨hclosed,hdrops⟩ := hs.rooms nsp room sid hmem esid' hd
    refine ⟨hclosed,?_⟩
    intro task h
    rcases List.mem_append.mp h with h | h
    · exact hdrops task h
    · rw [List.mem_singleton.mp h]
      intro _ _
      trivial

theorem Cleaned.insert (hs : s.Cleaned base64) {i : ℕ} {task : ConnectTask} (hi : task.esid ∉ s.removed) (sid : Sid)
    (nsp : NameSpace) : (s.insert i task sid nsp).Cleaned base64 := by
  refine ⟨?_,hs.drops,hs.closed,hs.rooms⟩
  intro esid h hmem
  rcases (AList.mem_insert s.server.clients).mp hmem with rfl | hmem
  · exact hi h
  · exact hs.clients esid h hmem

theorem Cleaned.remove (hs : s.Cleaned base64) (i : ℕ) (task : DropTask) :
    (s.remove i task).Cleaned base64 := by
  have hsub : ∀ esid ∈ s.removed, esid ∈ (s.remove i task).removed := by
    intro esid h
    simp only [Registry.remove]
    split
    · exact List.mem_cons_of_mem _ h
    · exact h
  constructor
  · intro esid h hmem
    obtain ⟨hne,hmem⟩ := AList.mem_erase.mp hmem
    simp only [Registry.remove] at h
    split at h
    · exact hs.clients esid ((List.mem_cons.mp h).resolve_left hne) hmem
    · exact hs.clients esid h hmem
  · apply forall_mem_set
    · intro hloop _
      simp only [Registry.remove]
      rw [if_pos hloop]
      exact List.mem_cons_self
    · intro other h hloop hremoved
      exact hsub _ (hs.drops other h hloop hremoved)
  · intro esid h
    exact hsub esid (hs.closed esid h)
  · intro nsp room sid hmem esid hd
    obtain ⟨hclosed,hdrops⟩ := hs.rooms nsp room sid hmem esid hd
    refine ⟨hclosed,forall_mem_set ?_ hdrops⟩
    intro _ _
    trivial

theorem Cleaned.setDrop (hs : s.Cleaned base64) {i : ℕ} {task : DropTask} (hi : s.drops[i]? = some task)
    (stage : DropStage) (hremoved : DropTask.Removed { task with stage := stage } → task.Removed)
    {sockets : Store.Map EngineSid ℕ} {rooms : Rooms}
    (hrooms : ∀ nsp room sid, rooms.Mem nsp room sid → s.server.rooms.Mem nsp room sid ∧
      (SidGenerator.decode base64 sid = some task.esid → task.stage.Awaits nsp → stage.Awaits nsp)) :
    Cleaned base64 { s with
      server.sockets := sockets
      server.rooms := rooms
      drops := s.drops.set i { task with stage := stage } } := by
  have htask := List.mem_of_getElem? hi
  refine ⟨hs.clients,?_,hs.closed,?_⟩
  · apply forall_mem_set _ hs.drops
    intro hloop hr
    exact hs.drops task htask hloop (hremoved hr)
  · intro nsp room sid hmem esid hd
    obtain ⟨hbefore,hstage⟩ := hrooms nsp room sid hmem
    obtain ⟨hclosed,hdrops⟩ := hs.rooms nsp room sid hbefore esid hd
    refine ⟨hclosed,forall_mem_set ?_ hdrops⟩
    intro hloop he
    have hesid : task.esid = esid := he
    subst hesid
    exact hstage hd (hdrops task htask hloop rfl)

theorem Cleaned.dropEnd (hs : s.Cleaned base64) {i : ℕ} {task : DropTask} {keys seen : List NameSpace}
    (hi : s.drops[i]? = some task) (hstage : task.stage = .sweeping keys seen) (hseen : ∀ nsp ∈ keys, nsp ∈ seen) :
    (s.dropEnd i task).Cleaned base64 := by
  have htask := List.mem_of_getElem? hi
  refine ⟨hs.clients,fun other h => hs.drops other (List.mem_of_mem_eraseIdx h),?_,?_⟩
  · intro esid h
    simp only [Registry.dropEnd] at h
    split at h
    · rename_i hloop
      rcases List.mem_cons.mp h with rfl | h
      · exact hs.drops task htask hloop (by simp [DropTask.Removed,hstage])
      · exact hs.closed esid h
    · exact hs.closed esid h
  · intro nsp room sid hmem esid hd
    obtain ⟨hclosed,hdrops⟩ := hs.rooms nsp room sid hmem esid hd
    refine ⟨?_,fun other h => hdrops other (List.mem_of_mem_eraseIdx h)⟩
    simp only [Registry.dropEnd]
    split
    · rename_i hloop
      intro h
      rcases List.mem_cons.mp h with rfl | h
      · have hawaits := hdrops task htask hloop rfl
        rw [hstage] at hawaits
        exact hawaits.2 (hseen nsp hawaits.1)
      · exact hclosed h
    · exact hclosed

theorem step_cleaned (hp : s.InTime base64 act) (hs : s.Cleaned base64) (h : step base64 s act = some t) :
    t.Cleaned base64 := by
  cases step_does h with
  | engine | ignored | found | advance | ended => exact ⟨hs.clients,hs.drops,hs.closed,hs.rooms⟩
  | onClose esid => exact hs.startDrop s.connects esid true
  | timeout i esid => exact hs.startDrop (s.connects.eraseIdx i) esid false
  | insert i task sid nsp hi hsid => exact hs.insert (hp task hi) sid nsp
  | closeSocket i esid inLoop sockets hi =>
    refine hs.setDrop hi .disconnecting ?_ ?_
    · intro hr
      exact absurd rfl hr.2
    · intro nsp room sid hmem
      exact ⟨hmem,fun _ _ => trivial⟩
  | remove i task hi => exact hs.remove i task
  | sweepBegin i esid inLoop hi =>
    refine hs.setDrop hi (.sweeping s.server.rooms.keys []) ?_ ?_
    · intro _
      exact ⟨by simp,by simp⟩
    · intro nsp room sid hmem
      exact ⟨hmem,fun _ _ => ⟨AList.mem_keys.mp (Store.Nested.mem_keys_of_mem hmem),List.not_mem_nil⟩⟩
  | sweep i task nsp keys seen hi hstage =>
    refine hs.setDrop hi (.sweeping keys (nsp :: seen)) ?_ ?_
    · intro _
      exact ⟨by simp [hstage],by simp [hstage]⟩
    · intro nsp' room sid hmem
      obtain ⟨hmem,hkeep⟩ := Store.Nested.mem_retainAt_iff.mp hmem
      refine ⟨hmem,?_⟩
      intro hd hawaits
      rw [hstage] at hawaits
      have hne : nsp' ≠ nsp := by
        intro he
        simpa [hd] using hkeep he
      exact ⟨hawaits.1,List.not_mem_cons_of_ne_of_not_mem hne hawaits.2⟩
  | dropEnd i task keys seen hi hstage hseen => exact hs.dropEnd hi hstage hseen
  | join act j hj =>
    refine ⟨hs.clients,hs.drops,hs.closed,?_⟩
    intro nsp room sid hmem esid hd
    rcases JoinState.mem_of_step hj hmem with hmem | hadds
    · exact hs.rooms nsp room sid hmem esid hd
    · exact hp (nsp,sid) hadds esid hd
  | leave nsp room sid =>
    refine ⟨hs.clients,hs.drops,hs.closed,?_⟩
    intro nsp' room' sid' hmem
    exact hs.rooms nsp' room' sid' (Store.Nested.mem_remove_iff.mp hmem).1

end Registry

open Registry

/-- In a run in which clients are stored and rooms are joined in time, nothing is left of a
session once its closing was handled. -/
theorem closed_connection_gone (base64 : EngineIo.Base64Crate) (on : List NameSpace) (acts : List RegistryAct)
    (s : Registry) (hrun : run (step base64) (Registry.empty on) acts = some s)
    (hintime : Along (step base64) (InTime base64) (Registry.empty on) acts) (esid : EngineSid)
    (hclosed : esid ∈ s.closed) : s.Gone base64 esid := by
  have hs : s.Cleaned base64 := run_preserves_along (fun s act t => step_cleaned) hintime (cleaned_empty on) hrun
  refine ⟨hs.clients esid (hs.closed esid hclosed),?_⟩
  intro nsp room sid hmem hd
  exact (hs.rooms nsp room sid hmem esid hd).1 hclosed

def clientMade : List RegistryAct :=
  [.engineStore "MA==" 0,.onOpen "MA==",.clientInfo 0 none,.generate 0,.connectPacket 0 "/"]

/-- The session is closed; the sweep goes through the given namespaces. -/
def sessionClosed (seen : List NameSpace) : List RegistryAct :=
  [.onClose "MA==",.closeSocket 0,.remove 0,.sweepBegin 0] ++ seen.map (.sweep 0) ++ [.dropEnd 0]

def roomJoined : List RegistryAct :=
  [.join (.call "/" ["a"] "TUE9PS0w"),.join (.getMut 0),.join (.insert 0)]

def orderlySession : List RegistryAct := clientMade ++ roomJoined ++ [.insert 0] ++ sessionClosed ["/"]

theorem closed_connection_gone_orderly :
    ∃ s, run (step EngineIo.rfc4648) (Registry.empty ["/"]) orderlySession = some s ∧ "MA==" ∈ s.closed ∧
      s.Gone EngineIo.rfc4648 "MA==" :=
  ⟨_,rfl,by decide +kernel,closed_connection_gone EngineIo.rfc4648 ["/"] orderlySession _ rfl (by decide +kernel) "MA=="
    (by decide +kernel)⟩

/-- The closing is handled while the handshake is being sent, and the client is stored after
it; or a client joins a room after its session was closed. -/
theorem closed_connection_left :
    (∃ s, run (step EngineIo.rfc4648) (Registry.empty ["/"]) (clientMade ++ sessionClosed [] ++ [.insert 0]) = some s ∧
      "MA==" ∈ s.closed ∧ s.Finished ∧ ¬ s.Gone EngineIo.rfc4648 "MA==") ∧
    ∃ s, run (step EngineIo.rfc4648) (Registry.empty ["/"]) (clientMade ++ [.insert 0] ++ sessionClosed [] ++
        roomJoined) = some s ∧
      "MA==" ∈ s.closed ∧ s.Finished ∧ ¬ s.Gone EngineIo.rfc4648 "MA==" := by
  constructor
  · refine ⟨_,rfl,by decide +kernel,by decide +kernel,?_⟩
    intro h
    exact h.1 (by decide +kernel)
  · refine ⟨_,rfl,by decide +kernel,by decide +kernel,?_⟩
    intro h
    exact h.2 "/" "a" "TUE9PS0w" (by decide +kernel) (by decide +kernel)

end SocketIox.SocketIo
