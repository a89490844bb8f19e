import SocketIox.SocketIo.Registry

/-! # One client for each engine session

Openings of the engine have session ids of their own. Then each of them leads to one task
at most, and the session has either a task or one stored client, never both. The client is
stored under the engine session that its session id decodes to, so the lookup finds it.
-/
namespace SocketIox.SocketIo
open Wire Proc

namespace Registry
variable {base64 : EngineIo.Base64Crate} {s t : Registry} {act : RegistryAct}

def OpensOnce (s : Registry) : RegistryAct → Prop
  | .onOpen esid => esid ∉ s.opened
  | _ => True

instance : Decidable (s.OpensOnce act) :=
  match act with
  | .onOpen esid => inferInstanceAs (Decidable (esid ∉ s.opened))
  | .engineStore _ _ | .engineClose _ | .onClose _ | .clientInfo _ _ | .generate _ | .connectPacket _ _
  | .streamEnd _ | .insert _ | .timeout _ | .closeSocket _ | .remove _ | .sweepBegin _ | .sweep _ _ | .dropEnd _
  | .join _ | .leave _ _ _ => isTrue trivial

/-- The opened sessions that have a task or stored clients. -/
def sessions (s : Registry) : List EngineSid := s.connects.map ConnectTask.esid ++ s.server.clients.keys

def SingleClient (base64 : EngineIo.Base64Crate) (esid : EngineSid)
    (sidMap : Store.Map Sid (Store.Map NameSpace Client)) : Prop :=
  ∃ sid nsp socket, GeneratedFor base64 esid sid ∧
    sidMap = AList.singleton sid (AList.singleton nsp ⟨socket,nsp,sid⟩)

structure OneToOne (base64 : EngineIo.Base64Crate) (s : Registry) : Prop where
  distinct : s.sessions.Nodup
  opened : ∀ esid ∈ s.sessions, esid ∈ s.opened
  issued : ∀ esid ∈ s.opened, EngineIo.Issued base64 esid
  generated : ∀ task ∈ s.connects, ∀ sid, task.sid? = some sid → GeneratedFor base64 task.esid sid
  single : ∀ esid sidMap, s.server.clients.lookup esid = some sidMap → SingleClient base64 esid sidMap

theorem oneToOne_empty (on : List NameSpace) : OneToOne base64 (Registry.empty on) := by
  constructor
  · exact List.nodup_nil
  · intro esid h
    cases h
  · intro esid h
    cases h
  · intro task h
    cases h
  · intro esid sidMap h
    cases h

theorem OneToOne.shrink (hs : s.OneToOne base64) (hopened : t.opened = s.opened)
    (hconnects : t.connects.Sublist s.connects) (hkeys : t.server.clients.keys.Sublist s.server.clients.keys)
    (hlookup : ∀ esid sidMap, t.server.clients.lookup esid = some sidMap →
      s.server.clients.lookup esid = some sidMap) : t.OneToOne base64 := by
  have hsub : t.sessions.Sublist s.sessions := (hconnects.map _).append hkeys
  constructor
  · exact hs.distinct.sublist hsub
  · intro esid h
    rw [hopened]
    exact hs.opened esid (hsub.subset h)
  · rw [hopened]
    exact hs.issued
  · intro task h
    exact hs.generated task (hconnects.subset h)
  · intro esid sidMap h
    exact hs.single esid sidMap (hlookup esid sidMap h)

theorem OneToOne.not_mem_clients (hs : s.OneToOne base64) {i : ℕ} {task : ConnectTask}
    (hi : s.connects[i]? = some task) : task.esid ∉ s.server.clients := by
  intro h
  have hdisjoint := List.disjoint_of_nodup_append hs.distinct
  exact hdisjoint (List.mem_map_of_mem (List.mem_of_getElem? hi)) (AList.mem_keys.mp h)

theorem OneToOne.found (hs : s.OneToOne base64) {esid : EngineSid} (honce : esid ∉ s.opened)
    (hissued : EngineIo.Issued base64 esid) (socket : ℕ) :
    OneToOne base64 { s with opened := esid :: s.opened, connects := s.connects ++ [⟨esid,socket,true,.found⟩] } := by
  have hperm : (sessions { s with
      opened := esid :: s.opened, connects := s.connects ++ [⟨esid,socket,true,.found⟩] }).Perm (esid :: s.sessions) := by
    simp only [sessions,List.map_append,List.map_cons,List.map_nil,List.append_assoc,List.singleton_append]
    exact List.perm_middle
  constructor
  · rw [hperm.nodup_iff,List.nodup_cons]
    exact ⟨fun h => honce (hs.opened esid h),hs.distinct⟩
  · intro esid' h
    rcases List.mem_cons.mp (hperm.mem_iff.mp h) with rfl | h
    · exact List.mem_cons_self
    · exact List.mem_cons_of_mem _ (hs.opened esid' h)
  · intro esid' h
    rcases List.mem_cons.mp h with rfl | h
    · exact hissued
    · exact hs.issued esid' h
  · intro task h
    rcases List.mem_append.mp h with h | h
    · exact hs.generated task h
    · rw [List.mem_singleton.mp h]
      intro sid hsid
      cases hsid
  · exact hs.single

/-- A session that is connecting has no client yet, so its session id is its own. -/
theorem OneToOne.advance (hs : s.OneToOne base64) {i : ℕ} {old new : ConnectTask} {seq : UInt64}
    {created : List (NameSpace × Sid)} (hi : s.connects[i]? = some old) (hesid : new.esid = old.esid)
    (hsid : ∀ sid, new.sid? = some sid → old.sid? = some sid ∨ GeneratedFor base64 old.esid sid ∨
      ∃ nsp, (s.server.clients.get old.esid sid nsp).isSome = true) :
    OneToOne base64 { s with seq := seq, connects := s.connects.set i new, created := created } := by
  have hmap : (s.connects.set i new).map ConnectTask.esid = s.connects.map ConnectTask.esid := map_set_of_eq hi hesid
  constructor
  · unfold sessions
    rw [hmap]
    exact hs.distinct
  · unfold sessions
    rw [hmap]
    exact hs.opened
  · exact hs.issued
  · apply forall_mem_set _ hs.generated
    intro sid hnew
    rw [hesid]
    rcases hsid sid hnew with hold | hgenerated | ⟨nsp,hstored⟩
    · exact hs.generated old (List.mem_of_getElem? hi) sid hold
    · exact hgenerated
    · have hnone := AList.lookup_eq_none.mpr (hs.not_mem_clients hi)
      simp [Clients.get,hnone] at hstored
  · exact hs.single

theorem OneToOne.insert (hs : s.OneToOne base64) {i : ℕ} {task : ConnectTask} {sid : Sid}
    (hi : s.connects[i]? = some task) (hsid : task.sid? = some sid) (nsp : NameSpace) :
    (s.insert i task sid nsp).OneToOne base64 := by
  have hmem := hs.not_mem_clients hi
  have hnone := AList.lookup_eq_none.mpr hmem
  have hperm : (s.insert i task sid nsp).sessions.Perm s.sessions := by
    simp only [sessions,Registry.insert,Clients.put,AList.keys_insert]
    rw [List.erase_of_not_mem (fun h => hmem (AList.mem_keys.mpr h))]
    refine List.perm_middle.trans ?_
    exact List.Perm.append_right _ ((perm_cons_eraseIdx hi).map ConnectTask.esid).symm
  constructor
  · exact hperm.nodup_iff.mpr hs.distinct
  · intro esid h
    exact hs.opened esid (hperm.mem_iff.mp h)
  · exact hs.issued
  · intro other h
    exact hs.generated other (List.mem_of_mem_eraseIdx h)
  · intro esid sidMap h
    simp only [Registry.insert,Clients.put,hnone,Option.getD_none,AList.lookup_empty,AList.insert_empty,
      Store.lookup_insert_eq] at h
    split at h
    · rename_i he
      cases h
      rw [he]
      exact ⟨sid,nsp,task.socket,hs.generated task (List.mem_of_getElem? hi) sid hsid,rfl⟩
    · exact hs.single esid sidMap h

theorem OneToOne.remove (hs : s.OneToOne base64) (i : ℕ) (task : DropTask) :
    (s.remove i task).OneToOne base64 := by
  refine hs.shrink rfl (List.Sublist.refl _) ?_ ?_
  · simp only [Registry.remove,AList.keys_erase]
    exact List.erase_sublist
  · intro esid sidMap h
    simp only [Registry.remove,Store.lookup_erase_eq] at h
    split at h
    · cases h
    · exact h

theorem step_oneToOne (honce : s.OpensOnce act) (hissued : ∀ esid, act = .onOpen esid → EngineIo.Issued base64 esid)
    (hs : s.OneToOne base64) (h : step base64 s act = some t) : t.OneToOne base64 := by
  cases step_does h with
  | ignored esid =>
    refine ⟨hs.distinct,fun esid' h => List.mem_cons_of_mem _ (hs.opened esid' h),?_,hs.generated,hs.single⟩
    intro esid' h
    rcases List.mem_cons.mp h with rfl | h
    · exact hissued _ rfl
    · exact hs.issued esid' h
  | found esid socket => exact hs.found honce (hissued esid rfl) socket
  | advance i old new seq created hi hesid hsid => exact hs.advance hi hesid hsid
  | insert i task sid nsp hi hsid => exact hs.insert hi hsid nsp
  | remove i task hi => exact hs.remove i task
  | ended | timeout => exact hs.shrink rfl (List.eraseIdx_sublist _ _) (List.Sublist.refl _) (fun _ _ h => h)
  | engine | onClose | closeSocket | sweepBegin | sweep | dropEnd | join | leave =>
    exact ⟨hs.distinct,hs.opened,hs.issued,hs.generated,hs.single⟩

theorem OneToOne.get (hs : s.OneToOne base64) {esid : EngineSid} {sid : Sid} {nsp : NameSpace} {client : Client}
    (h : s.server.clients.get esid sid nsp = some client) :
    GeneratedFor base64 esid sid ∧ EngineIo.Issued base64 esid ∧
      s.server.clients.lookup esid = some (AList.singleton sid (AList.singleton nsp client)) := by
  simp only [Clients.get,Option.bind_eq_bind,Option.bind_eq_some_iff] at h
  obtain ⟨sidMap,hsidMap,nspMap,hnspMap,hclient⟩ := h
  obtain ⟨sid',nsp',socket,hgenerated,rfl⟩ := hs.single esid sidMap hsidMap
  rw [← AList.insert_empty,Store.lookup_insert_eq] at hnspMap
  split at hnspMap
  · rename_i hsid
    cases hnspMap
    rw [← AList.insert_empty,Store.lookup_insert_eq] at hclient
    split at hclient
    · rename_i hnsp
      cases hclient
      subst hsid hnsp
      have hmem : esid ∈ s.server.clients := AList.lookup_isSome.mp (by simp [hsidMap])
      exact ⟨hgenerated,hs.issued esid (hs.opened esid (List.mem_append_right _ (AList.mem_keys.mp hmem))),hsidMap⟩
    · cases hclient
  · cases hnspMap

theorem OneToOne.keyedByDecode (hb : base64.Standard) (hs : s.OneToOne base64) :
    KeyedByDecode base64 s.server.clients := by
  intro esid sid nsp client h
  obtain ⟨hgenerated,hissued,-⟩ := hs.get h
  exact hgenerated.decode hb hissued

end Registry

open Registry

/-- Each engine session has one session id in the registry and each session id one
namespace, stored under what it decodes to, and the lookup finds what is stored and
nothing else. -/
theorem registry_one_to_one (base64 : EngineIo.Base64Crate) (hb : base64.Standard) (on : List NameSpace)
    (acts : List RegistryAct) (s : Registry) (hrun : run (step base64) (Registry.empty on) acts = some s)
    (honce : Along (step base64) OpensOnce (Registry.empty on) acts)
    (hissued : ∀ esid, .onOpen esid ∈ acts → EngineIo.Issued base64 esid) :
    (∀ esid sidMap, s.server.clients.lookup esid = some sidMap → ∀ sid ∈ sidMap, ∀ sid' ∈ sidMap, sid' = sid) ∧
    (∀ sid esid esid' nsp nsp' client client', s.server.clients.get esid sid nsp = some client →
      s.server.clients.get esid' sid nsp' = some client' → nsp' = nsp) ∧
    (∀ esid sid nsp client, s.server.clients.get esid sid nsp = some client →
      SidGenerator.decode base64 sid = some esid) ∧
    ∀ sid nsp client, s.server.client base64 sid nsp = some client ↔
      ∃ esid, s.server.clients.get esid sid nsp = some client := by
  have hs : s.OneToOne base64 := by
    have hissues : ∀ act ∈ acts, ∀ esid, act = .onOpen esid → EngineIo.Issued base64 esid := by
      intro act hact esid he
      exact hissued esid (he ▸ hact)
    refine run_preserves_along ?_ (honce.and (along_of_forall hissues _)) (oneToOne_empty on) hrun
    intro s act t hp hs h
    exact step_oneToOne hp.1 hp.2 hs h
  have hkeyed := hs.keyedByDecode hb
  refine ⟨?_,?_,hkeyed,fun sid nsp client => hkeyed.client_eq_some_iff⟩
  · intro esid sidMap h sid hsid sid' hsid'
    obtain ⟨stored,nsp,socket,-,rfl⟩ := hs.single esid sidMap h
    rw [AList.mem_keys,AList.keys_singleton,List.mem_singleton] at hsid hsid'
    rw [hsid,hsid']
  · intro sid esid esid' nsp nsp' client client' h h'
    have hesid : esid' = esid := (hs.get h).1.owner_unique hb (hs.get h').1
    subst hesid
    have hlookup := (hs.get h).2.2.symm.trans (hs.get h').2.2
    have hkeys := congrArg (fun m => (m.lookup sid).map AList.keys) (Option.some.inj hlookup)
    simpa [← AList.insert_empty] using hkeys.symm

def connectedSession : List RegistryAct :=
  [.engineStore "MA==" 0,.onOpen "MA==",.clientInfo 0 none,.generate 0,.engineStore "MQ==" 1,.onOpen "MQ==",
    .connectPacket 0 "/",.insert 0,.clientInfo 0 none,.generate 0,.timeout 0,.closeSocket 0,.remove 0,.sweepBegin 0,
    .dropEnd 0]

theorem registry_one_to_one_session :
    ∃ s, run (step EngineIo.rfc4648) (Registry.empty ["/"]) connectedSession = some s ∧
      s.server.client EngineIo.rfc4648 "TUE9PS0w" "/" = some ⟨0,"/","TUE9PS0w"⟩ := by
  have hissued : ∀ esid, .onOpen esid ∈ connectedSession → EngineIo.Issued EngineIo.rfc4648 esid := by
    intro esid h
    simp only [connectedSession,List.mem_cons,RegistryAct.onOpen.injEq,reduceCtorEq,false_or,or_false,
      List.not_mem_nil] at h
    rcases h with rfl | rfl
    · exact ⟨0,by decide +kernel⟩
    · exact ⟨1,by decide +kernel⟩
  refine ⟨_,rfl,?_⟩
  have hregistry := registry_one_to_one EngineIo.rfc4648 EngineIo.rfc4648_standard ["/"] connectedSession _ rfl
    (by decide +kernel) hissued
  exact (hregistry.2.2.2 _ _ _).mpr ⟨"MA==",by decide +kernel⟩

end SocketIox.SocketIo
