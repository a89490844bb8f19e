import SocketIox.SocketIo.JoinRace

/-! # Registering and dropping clients

The event loop creates a client when the engine opens a session and drops it when the
session closes, one event after the other. Connecting is done by a task of its own: it
generates a session id, waits for the connect packet, spawns the user's callback and the poll
task, sends the handshake and stores the client last of all; when it takes too long it drops
the session itself. Dropping takes the session out of the registry and then goes through the
rooms, namespace by namespace. Clients may join rooms as soon as they are made. All tasks
interleave.
-/
namespace SocketIox.SocketIo
open Wire Proc

/-- How far a client has come: the event loop has found its socket, its task runs, it waits
for the connect packet, it exists and is about to be stored. -/
inductive ConnectStage where
  | found
  | started
  | polling (sid : Sid)
  | inserting (sid : Sid) (nsp : NameSpace)
  deriving DecidableEq, Repr

/-- `inLoop` as long as the event loop itself is at work. -/
structure ConnectTask where
  esid : EngineSid
  socket : ℕ
  inLoop : Bool
  stage : ConnectStage
  deriving DecidableEq, Repr

/-- `drop_client`: before `close_socket`, before removing the clients, before the rooms, and
while it goes through them, with the namespaces that were there in the beginning and those
that it has seen. -/
inductive DropStage where
  | closing
  | disconnecting
  | removed
  | sweeping (keys seen : List NameSpace)
  deriving DecidableEq, Repr

/-- `inLoop` when the engine has closed the session, not a timeout. -/
structure DropTask where
  esid : EngineSid
  inLoop : Bool
  stage : DropStage
  deriving DecidableEq, Repr

/-- `created` are the clients that exist. `opened` records the received openings, `removed`
the closed sessions whose clients were removed, and `closed` those whose closing was
handled completely. -/
structure Registry where
  server : Server
  seq : UInt64
  connects : List ConnectTask
  drops : List DropTask
  joins : List JoinTask
  created : List (NameSpace × Sid)
  opened : List EngineSid
  removed : List EngineSid
  closed : List EngineSid

def Registry.empty (on : List NameSpace) : Registry := ⟨Server.empty on,0,[],[],[],[],[],[],[]⟩

/-- The first two act on the sockets of the engine. `clientInfo` holds the answer, which
depends on the order of a hash map. -/
inductive RegistryAct where
  | engineStore (esid : EngineSid) (socket : ℕ)
  | engineClose (esid : EngineSid)
  | onOpen (esid : EngineSid)
  | onClose (esid : EngineSid)
  | clientInfo (i : ℕ) (info : Option (Sid × NameSpace))
  | generate (i : ℕ)
  | connectPacket (i : ℕ) (nsp : NameSpace)
  | streamEnd (i : ℕ)
  | insert (i : ℕ)
  | timeout (i : ℕ)
  | closeSocket (i : ℕ)
  | remove (i : ℕ)
  | sweepBegin (i : ℕ)
  | sweep (i : ℕ) (nsp : NameSpace)
  | dropEnd (i : ℕ)
  | join (act : JoinAct)
  | leave (nsp : NameSpace) (room : Room) (sid : Sid)
  deriving DecidableEq, Repr

/-- What `client_info` can answer: the first entries of the maps, in any order. -/
def Clients.Info (clients : Clients) (esid : EngineSid) : Option (Sid × NameSpace) → Prop
  | some (sid,nsp) => (clients.get esid sid nsp).isSome = true
  | none => ∀ sidMap ∈ clients.lookup esid, sidMap.entries = [] ∨ ∃ entry ∈ sidMap.entries, entry.2.entries = []

instance (clients : Clients) (esid : EngineSid) (info : Option (Sid × NameSpace)) :
    Decidable (clients.Info esid info) :=
  match info with
  | some (sid,nsp) => inferInstanceAs (Decidable ((clients.get esid sid nsp).isSome = true))
  | none => inferInstanceAs (Decidable (∀ sidMap ∈ clients.lookup esid, _ ∨ ∃ entry ∈ sidMap.entries, _))

namespace Registry
variable (base64 : EngineIo.Base64Crate) (s : Registry)

def LoopBusy : Prop := (∃ task ∈ s.connects, task.inLoop = true) ∨ ∃ task ∈ s.drops, task.inLoop = true

instance : Decidable s.LoopBusy := inferInstanceAs (Decidable (_ ∨ _))

def joinState : JoinState := ⟨s.server.rooms,s.joins⟩

/-- `insert_clients` up to the handshake that it awaits; the user's callback is spawned. -/
def enter (connects : List ConnectTask) (nsp : NameSpace) (sid : Sid) : Registry :=
  { s with connects := connects, created := (nsp,sid) :: s.created }

def startDrop (connects : List ConnectTask) (esid : EngineSid) (inLoop : Bool) : Registry :=
  { s with connects := connects, drops := s.drops ++ [⟨esid,inLoop,.closing⟩] }

/-- `insert_clients` after the handshake. -/
def insert (i : ℕ) (task : ConnectTask) (sid : Sid) (nsp : NameSpace) : Registry := { s with
  server.clients := s.server.clients.put task.esid sid nsp ⟨task.socket,nsp,sid⟩
  connects := s.connects.eraseIdx i }

def remove (i : ℕ) (task : DropTask) : Registry := { s with
  server.clients := s.server.clients.erase task.esid
  drops := s.drops.set i { task with stage := .removed }
  removed := if task.inLoop then task.esid :: s.removed else s.removed }

/-- One namespace of the loop over the rooms. -/
def sweep (i : ℕ) (task : DropTask) (nsp : NameSpace) (keys seen : List NameSpace) : Registry := { s with
  server.rooms := s.server.rooms.retainAt nsp (fun sid => SidGenerator.decode base64 sid != some task.esid)
  drops := s.drops.set i { task with stage := .sweeping keys (nsp :: seen) } }

def dropEnd (i : ℕ) (task : DropTask) : Registry := { s with
  drops := s.drops.eraseIdx i
  closed := if task.inLoop then task.esid :: s.closed else s.closed }

def MayJoin : JoinAct → Prop
  | .call nsp _ sid => (nsp,sid) ∈ s.created
  | _ => True

instance (act : JoinAct) : Decidable (s.MayJoin act) :=
  match act with
  | .call nsp _ sid => inferInstanceAs (Decidable ((nsp,sid) ∈ s.created))
  | .getMut _ => isTrue trivial
  | .insert _ => isTrue trivial

def step (s : Registry) : RegistryAct → Option Registry
  | .engineStore esid socket => some { s with server.sockets := s.server.sockets.insert esid socket }
  | .engineClose esid => some { s with server.sockets := s.server.sockets.erase esid }
  | .onOpen esid =>
    if s.LoopBusy then none else
    match s.server.sockets.lookup esid with
    | none => some { s with opened := esid :: s.opened }
    | some socket => some { s with
        opened := esid :: s.opened
        connects := s.connects ++ [⟨esid,socket,true,.found⟩] }
  | .onClose esid => if s.LoopBusy then none else some (s.startDrop s.connects esid true)
  | .clientInfo i info =>
    match s.connects[i]? with
    | some ⟨esid,socket,true,.found⟩ =>
      if s.server.clients.Info esid info then
        match info with
        | none => some { s with connects := s.connects.set i ⟨esid,socket,false,.started⟩ }
        | some (sid,nsp) =>
          if nsp ∈ s.server.on then
            some (s.enter (s.connects.set i ⟨esid,socket,true,.inserting sid nsp⟩) nsp sid)
          else some { s with connects := s.connects.eraseIdx i }
      else none
    | _ => none
  | .generate i =>
    match s.connects[i]? with
    | some ⟨esid,socket,false,.started⟩ => some { s with
        seq := s.seq+1
        connects := s.connects.set i ⟨esid,socket,false,.polling (SidGenerator.generate base64 esid s.seq)⟩ }
    | _ => none
  | .connectPacket i nsp =>
    -- packets of other types are skipped
    match s.connects[i]? with
    | some ⟨esid,socket,false,.polling sid⟩ =>
      if nsp ∈ s.server.on then
        some (s.enter (s.connects.set i ⟨esid,socket,false,.inserting sid nsp⟩) nsp sid)
      else some { s with connects := s.connects.eraseIdx i }
    | _ => none
  | .streamEnd i =>
    match s.connects[i]? with
    | some ⟨_,_,false,.polling _⟩ => some { s with connects := s.connects.eraseIdx i }
    | _ => none
  | .insert i =>
    match s.connects[i]? with
    | some ⟨esid,socket,inLoop,.inserting sid nsp⟩ => some (s.insert i ⟨esid,socket,inLoop,.inserting sid nsp⟩ sid nsp)
    | _ => none
  | .timeout i =>
    match s.connects[i]? with
    | some task =>
      if task.inLoop = false ∧ task.stage ≠ .started then
        some (s.startDrop (s.connects.eraseIdx i) task.esid false)
      else none
    | none => none
  | .closeSocket i =>
    match s.drops[i]? with
    | some ⟨esid,inLoop,.closing⟩ => some { s with
        server.sockets := s.server.sockets.erase esid
        drops := s.drops.set i ⟨esid,inLoop,.disconnecting⟩ }
    | _ => none
  | .remove i =>
    match s.drops[i]? with
    | some ⟨esid,inLoop,.disconnecting⟩ => some (s.remove i ⟨esid,inLoop,.disconnecting⟩)
    | _ => none
  | .sweepBegin i =>
    match s.drops[i]? with
    | some ⟨esid,inLoop,.removed⟩ =>
      some { s with drops := s.drops.set i ⟨esid,inLoop,.sweeping s.server.rooms.keys []⟩ }
    | _ => none
  | .sweep i nsp =>
    match s.drops[i]? with
    | some ⟨esid,inLoop,.sweeping keys seen⟩ =>
      if nsp ∈ s.server.rooms ∧ nsp ∉ seen then
        some (s.sweep base64 i ⟨esid,inLoop,.sweeping keys seen⟩ nsp keys seen)
      else none
    | _ => none
  | .dropEnd i =>
    match s.drops[i]? with
    | some ⟨esid,inLoop,.sweeping keys seen⟩ =>
      -- namespaces that were inserted on the way may have been missed
      if ∀ nsp ∈ keys, nsp ∈ seen then some (s.dropEnd i ⟨esid,inLoop,.sweeping keys seen⟩) else none
    | _ => none
  | .join act =>
    if s.MayJoin act then
      (s.joinState.step act).map (fun j => { s with server.rooms := j.rooms, joins := j.tasks })
    else none
  | .leave nsp room sid =>
    if (nsp,sid) ∈ s.created then some { s with server.rooms := s.server.rooms.remove nsp room sid } else none

end Registry

def ConnectTask.sid? (task : ConnectTask) : Option Sid :=
  match task.stage with
  | .polling sid => some sid
  | .inserting sid _ => some sid
  | _ => none

namespace Registry
variable (base64 : EngineIo.Base64Crate) (s : Registry)

/-- What a step can do. Connecting goes on in the same way in several actions: the session
id stays, is generated, or is that of a client of the same session. -/
inductive Does (s : Registry) : RegistryAct → Registry → Prop
  | engine {act : RegistryAct} (sockets : Store.Map EngineSid ℕ) : Does s act { s with server.sockets := sockets }
  | ignored (esid : EngineSid) : Does s (.onOpen esid) { s with opened := esid :: s.opened }
  | found (esid : EngineSid) (socket : ℕ) : Does s (.onOpen esid) { s with
      opened := esid :: s.opened
      connects := s.connects ++ [⟨esid,socket,true,.found⟩] }
  | onClose (esid : EngineSid) : Does s (.onClose esid) (s.startDrop s.connects esid true)
  | advance {act : RegistryAct} (i : ℕ) (old new : ConnectTask) (seq : UInt64) (created : List (NameSpace × Sid))
      (hi : s.connects[i]? = some old) (hesid : new.esid = old.esid)
      (hsid : ∀ sid, new.sid? = some sid → old.sid? = some sid ∨ GeneratedFor base64 old.esid sid ∨
        ∃ nsp, (s.server.clients.get old.esid sid nsp).isSome = true) :
      Does s act { s with seq := seq, connects := s.connects.set i new, created := created }
  | ended {act : RegistryAct} (i : ℕ) : Does s act { s with connects := s.connects.eraseIdx i }
  | insert (i : ℕ) (task : ConnectTask) (sid : Sid) (nsp : NameSpace) (hi : s.connects[i]? = some task)
      (hsid : task.sid? = some sid) : Does s (.insert i) (s.insert i task sid nsp)
  | timeout (i : ℕ) (esid : EngineSid) : Does s (.timeout i) (s.startDrop (s.connects.eraseIdx i) esid false)
  | closeSocket (i : ℕ) (esid : EngineSid) (inLoop : Bool) (sockets : Store.Map EngineSid ℕ)
      (hi : s.drops[i]? = some ⟨esid,inLoop,.closing⟩) : Does s (.closeSocket i) { s with
        server.sockets := sockets
        drops := s.drops.set i ⟨esid,inLoop,.disconnecting⟩ }
  | remove (i : ℕ) (task : DropTask) (hi : s.drops[i]? = some task) : Does s (.remove i) (s.remove i task)
  | sweepBegin (i : ℕ) (esid : EngineSid) (inLoop : Bool) (hi : s.drops[i]? = some ⟨esid,inLoop,.removed⟩) :
      Does s (.sweepBegin i) { s with drops := s.drops.set i ⟨esid,inLoop,.sweeping s.server.rooms.keys []⟩ }
  | sweep (i : ℕ) (task : DropTask) (nsp : NameSpace) (keys seen : List NameSpace) (hi : s.drops[i]? = some task)
      (hstage : task.stage = .sweeping keys seen) : Does s (.sweep i nsp) (s.sweep base64 i task nsp keys seen)
  | dropEnd (i : ℕ) (task : DropTask) (keys seen : List NameSpace) (hi : s.drops[i]? = some task)
      (hstage : task.stage = .sweeping keys seen) (hseen : ∀ nsp ∈ keys, nsp ∈ seen) :
      Does s (.dropEnd i) (s.dropEnd i task)
  | join (act : JoinAct) (j : JoinState) (hj : s.joinState.step act = some j) :
      Does s (.join act) { s with server.rooms := j.rooms, joins := j.tasks }
  | leave (nsp : NameSpace) (room : Room) (sid : Sid) :
      Does s (.leave nsp room sid) { s with server.rooms := s.server.rooms.remove nsp room sid }

variable {base64} {s} {t : Registry} {act : RegistryAct}

theorem step_does (h : step base64 s act = some t) : Does base64 s act t := by
  cases act with
  | engineStore esid socket =>
    cases h
    exact .engine _
  | engineClose esid =>
    cases h
    exact .engine _
  | onOpen esid =>
    simp only [step] at h
    split at h
    · cases h
    · split at h
      · cases h
        exact .ignored esid
      · cases h
        exact .found esid _
  | onClose esid =>
    simp only [step] at h
    split at h
    · cases h
    · cases h
      exact .onClose esid
  | clientInfo i info =>
    simp only [step] at h
    split at h
    · rename_i esid socket hi
      split at h
      · rename_i hinfo
        split at h
        · cases h
          refine .advance i _ ⟨esid,socket,false,.started⟩ s.seq s.created hi rfl ?_
          intro sid hsid
          cases hsid
        · rename_i sid nsp
          split at h
          · cases h
            refine .advance i _ ⟨esid,socket,true,.inserting sid nsp⟩ s.seq ((nsp,sid) :: s.created) hi rfl ?_
            intro sid' hsid
            cases hsid
            exact Or.inr (Or.inr ⟨nsp,hinfo⟩)
          · cases h
            exact .ended i
      · cases h
    · cases h
  | generate i =>
    simp only [step] at h
    split at h
    · rename_i esid socket hi
      cases h
      refine .advance i _ _ (s.seq+1) s.created hi rfl ?_
      intro sid hsid
      cases hsid
      exact Or.inr (Or.inl ⟨s.seq,rfl⟩)
    · cases h
  | connectPacket i nsp =>
    simp only [step] at h
    split at h
    · rename_i esid socket sid hi
      split at h
      · cases h
        refine .advance i _ ⟨esid,socket,false,.inserting sid nsp⟩ s.seq ((nsp,sid) :: s.created) hi rfl ?_
        intro sid' hsid
        exact Or.inl hsid
      · cases h
        exact .ended i
    · cases h
  | streamEnd i =>
    simp only [step] at h
    split at h
    · cases h
      exact .ended i
    · cases h
  | insert i =>
    simp only [step] at h
    split at h
    · rename_i esid socket inLoop sid nsp hi
      cases h
      exact .insert i _ sid nsp hi rfl
    · cases h
  | timeout i =>
    simp only [step] at h
    split at h
    · rename_i task hi
      split at h
      · cases h
        exact .timeout i task.esid
      · cases h
    · cases h
  | closeSocket i =>
    simp only [step] at h
    split at h
    · rename_i esid inLoop hi
      cases h
      exact .closeSocket i esid inLoop _ hi
    · cases h
  | remove i =>
    simp only [step] at h
    split at h
    · rename_i esid inLoop hi
      cases h
      exact .remove i _ hi
    · cases h
  | sweepBegin i =>
    simp only [step] at h
    split at h
    · rename_i esid inLoop hi
      cases h
      exact .sweepBegin i esid inLoop hi
    · cases h
  | sweep i nsp =>
    simp only [step] at h
    split at h
    · rename_i esid inLoop keys seen hi
      split at h
      · cases h
        exact .sweep i _ nsp keys seen hi rfl
      · cases h
    · cases h
  | dropEnd i =>
    simp only [step] at h
    split at h
    · rename_i esid inLoop keys seen hi
      split at h
      · rename_i hseen
        cases h
        exact .dropEnd i _ keys seen hi rfl hseen
      · cases h
    · cases h
  | join act =>
    simp only [step] at h
    split at h
    · obtain ⟨j,hj,rfl⟩ := Option.map_eq_some_iff.mp h
      exact .join act j hj
    · cases h
  | leave nsp room sid =>
    simp only [step] at h
    split at h
    · cases h
      exact .leave nsp room sid
    · cases h

section Alone

theorem insert_server (i : ℕ) (task : ConnectTask) (sid : Sid) {nsp : NameSpace} (hnsp : nsp ∈ s.server.on) :
    (s.insert i task sid nsp).server = s.server.insertClients task.socket nsp task.esid sid := by
  rw [Server.insertClients,if_pos hnsp]
  rfl

variable {i : ℕ} {esid : EngineSid} {inLoop : Bool} {keys seen pending : List NameSpace}

theorem exists_run_sweep (base64 : EngineIo.Base64Crate) (hi : s.drops[i]? = some ⟨esid,inLoop,.sweeping keys seen⟩)
    (hpending : pending.Nodup) (hseen : ∀ nsp ∈ pending, nsp ∈ s.server.rooms ∧ nsp ∉ seen) :
    ∃ acts t, run (step base64) s acts = some t ∧ t.server.clients = s.server.clients ∧
      t.drops[i]? = some ⟨esid,inLoop,.sweeping keys (pending.reverse ++ seen)⟩ ∧
      ∀ nsp room sid, t.server.rooms.Mem nsp room sid ↔
        s.server.rooms.Mem nsp room sid ∧ (nsp ∈ pending → SidGenerator.decode base64 sid ≠ some esid) := by
  induction pending generalizing s seen with
  | nil => exact ⟨[],s,rfl,rfl,hi,by simp⟩
  | cons nsp rest ih =>
    obtain ⟨hfirst,hrest⟩ := List.nodup_cons.mp hpending
    have hstep : step base64 s (.sweep i nsp) =
        some (s.sweep base64 i ⟨esid,inLoop,.sweeping keys seen⟩ nsp keys seen) := by
      simp only [step,hi,if_pos (hseen nsp List.mem_cons_self)]
    have hset := List.getElem?_set_self (a := ⟨esid,inLoop,.sweeping keys (nsp :: seen)⟩)
      (List.getElem?_eq_some_iff.mp hi).1
    have hnext : ∀ nsp' ∈ rest,
        nsp' ∈ (s.sweep base64 i ⟨esid,inLoop,.sweeping keys seen⟩ nsp keys seen).server.rooms ∧ nsp' ∉ nsp :: seen := by
      intro nsp' h
      obtain ⟨hmem,hnot⟩ := hseen nsp' (List.mem_cons_of_mem _ h)
      refine ⟨Store.Nested.mem_keys_retainAt_iff.mpr hmem,List.not_mem_cons_of_ne_of_not_mem ?_ hnot⟩
      rintro rfl
      exact hfirst h
    obtain ⟨acts,t,hrun,hclients,htask,hrooms⟩ := ih hset hrest hnext
    refine ⟨.sweep i nsp :: acts,t,?_,hclients,?_,?_⟩
    · simp only [run,hstep,Option.bind_some]
      exact hrun
    · rw [htask,List.reverse_cons,List.append_assoc,List.singleton_append]
    · intro nsp' room sid
      rw [hrooms,Registry.sweep,Store.Nested.mem_retainAt_iff,bne_iff_ne,List.mem_cons]
      tauto

theorem exists_run_rooms (base64 : EngineIo.Base64Crate) (hi : s.drops[i]? = some ⟨esid,inLoop,.removed⟩) :
    ∃ acts t, run (step base64) s acts = some t ∧ t.server.clients = s.server.clients ∧
      ∀ nsp room sid, t.server.rooms.Mem nsp room sid ↔
        s.server.rooms.Mem nsp room sid ∧ SidGenerator.decode base64 sid ≠ some esid := by
  have hset := List.getElem?_set_self (a := ⟨esid,inLoop,.sweeping s.server.rooms.keys []⟩)
    (List.getElem?_eq_some_iff.mp hi).1
  obtain ⟨acts,t,hrun,hclients,htask,hrooms⟩ := exists_run_sweep base64
    (s := { s with drops := s.drops.set i ⟨esid,inLoop,.sweeping s.server.rooms.keys []⟩ }) hset
    s.server.rooms.keys_nodup (fun nsp h => ⟨h,List.not_mem_nil⟩)
  have hend : ∃ task, run (step base64) t [.dropEnd i] = some (t.dropEnd i task) := by
    have hseen : ∀ nsp ∈ s.server.rooms.keys, nsp ∈ s.server.rooms.keys.reverse ++ [] := by simp
    simp only [run,step,htask,if_pos hseen,Option.bind_some]
    exact ⟨_,rfl⟩
  obtain ⟨task,hend⟩ := hend
  refine ⟨.sweepBegin i :: (acts ++ [.dropEnd i]),t.dropEnd i task,?_,hclients,?_⟩
  · simp only [run,step,hi,Option.bind_some]
    exact (run_append hrun).trans hend
  · intro nsp room sid
    refine (hrooms nsp room sid).trans (and_congr_right ?_)
    intro hmem
    have hkey : nsp ∈ s.server.rooms.keys := AList.mem_keys.mp (Store.Nested.mem_keys_of_mem hmem)
    exact ⟨fun h => h hkey,fun h _ => h⟩

/-- A drop that is not interrupted has the effect of `Server::drop_client` as a whole. -/
theorem exists_run_drop (base64 : EngineIo.Base64Crate) (hi : s.drops[i]? = some ⟨esid,inLoop,.disconnecting⟩) :
    ∃ acts t, run (step base64) s acts = some t ∧
      t.server.clients = (s.server.dropClient base64 esid).clients ∧
      ∀ nsp room sid, t.server.rooms.Mem nsp room sid ↔
        (s.server.dropClient base64 esid).rooms.Mem nsp room sid := by
  have hremoved : (s.remove i ⟨esid,inLoop,.disconnecting⟩).drops[i]? = some ⟨esid,inLoop,.removed⟩ :=
    List.getElem?_set_self (List.getElem?_eq_some_iff.mp hi).1
  obtain ⟨acts,t,hrun,hclients,hrooms⟩ := exists_run_rooms base64 hremoved
  refine ⟨.remove i :: acts,t,?_,hclients,?_⟩
  · simp only [run,step,hi,Option.bind_some]
    exact hrun
  · intro nsp room sid
    rw [hrooms,Server.dropClient,Store.Nested.mem_retain_iff,bne_iff_ne]
    rfl

end Alone

end Registry

end SocketIox.SocketIo
