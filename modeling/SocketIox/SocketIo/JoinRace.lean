import SocketIox.Proc.Runs
import SocketIox.Proc.Tasks
import SocketIox.SocketIo.Server

/-! # Concurrent joins

A join goes through its rooms one by one. For each of them it asks the map for the
namespace; if there is an entry it adds its session id under the entry's lock, and if
there is none it inserts a new entry in a second step. Joins of different clients
interleave between any two of these steps.
-/
namespace SocketIox.SocketIo
open Wire Proc

/-- A call of `join` that has joined some rooms and has others before it. It is
`inserting` when it found no entry of its namespace for the next of them. -/
structure JoinTask where
  nsp : NameSpace
  sid : Sid
  joined : List Room
  rooms : List Room
  inserting : Bool
  deriving DecidableEq, Repr

structure JoinState where
  rooms : Rooms
  tasks : List JoinTask

inductive JoinAct where
  | call (nsp : NameSpace) (rooms : List Room) (sid : Sid)
  | getMut (i : ℕ)
  | insert (i : ℕ)
  deriving DecidableEq, Repr

def JoinState.step (s : JoinState) : JoinAct → Option JoinState
  | .call nsp rooms sid => some { s with tasks := s.tasks ++ [⟨nsp,sid,[],rooms,false⟩] }
  | .getMut i =>
    match s.tasks[i]? with
    | some ⟨nsp,sid,joined,room :: rest,false⟩ =>
      match s.rooms.lookup nsp with
      | none => some { s with tasks := s.tasks.set i ⟨nsp,sid,joined,room :: rest,true⟩ }
      | some rooms => some {
          rooms := s.rooms.insert nsp (rooms.add room sid)
          tasks := s.tasks.set i ⟨nsp,sid,joined ++ [room],rest,false⟩ }
    | _ => none
  | .insert i =>
    match s.tasks[i]? with
    | some ⟨nsp,sid,joined,room :: rest,true⟩ => some {
        rooms := s.rooms.put nsp room sid
        tasks := s.tasks.set i ⟨nsp,sid,joined ++ [room],rest,false⟩ }
    | _ => none

namespace JoinState
variable {s t : JoinState} {act : JoinAct}

def Finished (s : JoinState) : Prop := ∀ task ∈ s.tasks, task.rooms = []

instance : Decidable s.Finished := inferInstanceAs (Decidable (∀ task ∈ s.tasks, task.rooms = []))

theorem step_cases (h : s.step act = some t) :
    (∃ nsp rooms sid, act = .call nsp rooms sid ∧
      t = { s with tasks := s.tasks ++ [⟨nsp,sid,[],rooms,false⟩] }) ∨
    (∃ i nsp sid joined room rest, act = .getMut i ∧
      s.tasks[i]? = some ⟨nsp,sid,joined,room :: rest,false⟩ ∧ s.rooms.lookup nsp = none ∧
      t = { s with tasks := s.tasks.set i ⟨nsp,sid,joined,room :: rest,true⟩ }) ∨
    (∃ i nsp sid joined room rest, act = .getMut i ∧
      s.tasks[i]? = some ⟨nsp,sid,joined,room :: rest,false⟩ ∧ nsp ∈ s.rooms ∧
      t = ⟨s.rooms.add nsp room sid,s.tasks.set i ⟨nsp,sid,joined ++ [room],rest,false⟩⟩) ∨
    (∃ i nsp sid joined room rest, act = .insert i ∧
      s.tasks[i]? = some ⟨nsp,sid,joined,room :: rest,true⟩ ∧
      t = ⟨s.rooms.put nsp room sid,s.tasks.set i ⟨nsp,sid,joined ++ [room],rest,false⟩⟩) := by
  cases act with
  | call nsp rooms sid =>
    cases h
    exact Or.inl ⟨nsp,rooms,sid,rfl,rfl⟩
  | getMut i =>
    right
    simp only [step] at h
    split at h
    · rename_i nsp sid joined room rest hi
      split at h
      · rename_i hn
        cases h
        exact Or.inl ⟨i,nsp,sid,joined,room,rest,rfl,hi,hn,rfl⟩
      · rename_i rooms hn
        cases h
        refine Or.inr (Or.inl ⟨i,nsp,sid,joined,room,rest,rfl,hi,AList.lookup_isSome.mp (by simp [hn]),?_⟩)
        simp only [Store.Nested.add,hn]
    · cases h
  | insert i =>
    right
    right
    right
    simp only [step] at h
    split at h
    · rename_i nsp sid joined room rest hi
      cases h
      exact ⟨i,nsp,sid,joined,room,rest,rfl,hi,rfl⟩
    · cases h

def Joined (s : JoinState) (nsp : NameSpace) (room : Room) (sid : Sid) : Prop :=
  ∃ task ∈ s.tasks, task.nsp = nsp ∧ task.sid = sid ∧ room ∈ task.joined

/-- Whoever has joined a room is a member of it. -/
def Kept (s : JoinState) : Prop := ∀ nsp room sid, s.Joined nsp room sid → s.rooms.Mem nsp room sid

/-- While a call is about to insert its namespace, all members there came by joining. -/
def Origin (s : JoinState) : Prop :=
  ∀ task ∈ s.tasks, task.inserting = true → ∀ room sid, s.rooms.Mem task.nsp room sid → s.Joined task.nsp room sid

end JoinState

/-- An insert that finds no other members in its namespace. -/
def ReplacesNothing (s : JoinState) : JoinAct → Prop
  | .insert i =>
    match s.tasks[i]? with
    | some ⟨nsp,sid,_,room :: _,true⟩ =>
      ∀ room' sid', s.rooms.Mem nsp room' sid' → room' = room ∧ sid' = sid
    | _ => True
  | _ => True

def KeptAfter (s : JoinState) (act : JoinAct) : Prop := ∀ t, s.step act = some t → t.Kept

namespace JoinState
variable {s t : JoinState} {act : JoinAct} {nsp nsp' : NameSpace} {sid sid' : Sid} {room room' : Room}
  {rooms : Rooms} {joined rest : List Room} {i : ℕ} {inserting : Bool}

theorem joined_call_iff {names : List Room} :
    Joined { s with tasks := s.tasks ++ [⟨nsp,sid,[],names,false⟩] } nsp' room sid' ↔ s.Joined nsp' room sid' := by
  unfold Joined
  simp [or_and_right,exists_or]

theorem joined_wait_iff (h : s.tasks[i]? = some ⟨nsp,sid,joined,rest,false⟩) :
    Joined { s with tasks := s.tasks.set i ⟨nsp,sid,joined,rest,true⟩ } nsp' room' sid' ↔
      s.Joined nsp' room' sid' := by
  unfold Joined
  refine (exists_mem_set_iff (Q := False) h ?_).trans ?_
  · simp
  · simp

theorem joined_done_iff (h : s.tasks[i]? = some ⟨nsp,sid,joined,room :: rest,inserting⟩) :
    Joined ⟨rooms,s.tasks.set i ⟨nsp,sid,joined ++ [room],rest,false⟩⟩ nsp' room' sid' ↔
      s.Joined nsp' room' sid' ∨ nsp = nsp' ∧ sid = sid' ∧ room' = room := by
  unfold Joined
  apply exists_mem_set_iff h
  simp only [List.mem_append,List.mem_singleton]
  tauto

theorem kept_add (hk : s.Kept) (h : s.tasks[i]? = some ⟨nsp,sid,joined,room :: rest,false⟩) :
    Kept ⟨s.rooms.add nsp room sid,s.tasks.set i ⟨nsp,sid,joined ++ [room],rest,false⟩⟩ := by
  intro nsp' room' sid' hj
  refine Store.Nested.mem_add_iff.mpr ?_
  rcases (joined_done_iff h).mp hj with hj | ⟨rfl,rfl,rfl⟩
  · exact Or.inr (hk _ _ _ hj)
  · exact Or.inl ⟨rfl,rfl,rfl⟩

theorem kept_put_iff (hk : s.Kept) (ho : s.Origin)
    (h : s.tasks[i]? = some ⟨nsp,sid,joined,room :: rest,true⟩) :
    Kept ⟨s.rooms.put nsp room sid,s.tasks.set i ⟨nsp,sid,joined ++ [room],rest,false⟩⟩ ↔
      ∀ room' sid', s.rooms.Mem nsp room' sid' → room' = room ∧ sid' = sid := by
  constructor
  · intro hput room' sid' hmem
    have hj := ho _ (List.mem_of_getElem? h) rfl room' sid' hmem
    have hm := hput _ _ _ ((joined_done_iff h).mpr (Or.inl hj))
    rcases Store.Nested.mem_put_iff.mp hm with ⟨-,he⟩ | ⟨hne,-⟩
    · exact he
    · exact absurd rfl hne
  · intro hnone nsp' room' sid' hj
    refine Store.Nested.mem_put_iff.mpr ?_
    rcases (joined_done_iff h).mp hj with hj | ⟨rfl,rfl,rfl⟩
    · have hmem := hk _ _ _ hj
      by_cases hn : nsp' = nsp
      · subst hn
        exact Or.inl ⟨rfl,hnone _ _ hmem⟩
      · exact Or.inr ⟨hn,hmem⟩
    · exact Or.inl ⟨rfl,rfl,rfl⟩

structure Sound (s : JoinState) : Prop where
  kept : s.Kept
  origin : s.Origin

theorem sound_initial (rooms : Rooms) : Sound ⟨rooms,[]⟩ := by
  constructor
  · rintro nsp room sid ⟨task,ht,-⟩
    cases ht
  · intro task ht
    cases ht

theorem Sound.keptAfter_iff (hs : s.Sound) (act : JoinAct) : KeptAfter s act ↔ ReplacesNothing s act := by
  obtain ⟨hk,ho⟩ := hs
  cases act with
  | call nsp names sid =>
    refine iff_of_true ?_ trivial
    intro t h
    cases h
    intro nsp' room sid' hj
    exact hk _ _ _ (joined_call_iff.mp hj)
  | getMut i =>
    refine iff_of_true ?_ trivial
    intro t h
    rcases step_cases h with ⟨_,_,_,hact,-⟩ | ⟨j,nsp,sid,joined,room,rest,-,hj,-,rfl⟩ |
      ⟨j,nsp,sid,joined,room,rest,-,hj,-,rfl⟩ | ⟨_,_,_,_,_,_,hact,-⟩
    · cases hact
    · intro nsp' room' sid' hjoined
      exact hk _ _ _ ((joined_wait_iff hj).mp hjoined)
    · exact kept_add hk hj
    · cases hact
  | insert i =>
    unfold KeptAfter ReplacesNothing
    simp only [step]
    split
    · rename_i nsp sid joined room rest hi
      simp only [Option.some.injEq,forall_eq']
      exact kept_put_iff hk ho hi
    · simp

theorem step_origin (ho : s.Origin) (h : s.step act = some t) : t.Origin := by
  rcases step_cases h with ⟨nsp,names,sid,-,rfl⟩ | ⟨i,nsp,sid,joined,room,rest,-,hi,hnone,rfl⟩ |
    ⟨i,nsp,sid,joined,room,rest,-,hi,-,rfl⟩ | ⟨i,nsp,sid,joined,room,rest,-,hi,rfl⟩
  · intro task ht hins room sid' hmem
    rcases List.mem_append.mp ht with ht | ht
    · exact joined_call_iff.mpr (ho task ht hins room sid' hmem)
    · rw [List.mem_singleton.mp ht] at hins
      cases hins
  · intro task ht hins room' sid' hmem
    rcases List.mem_or_eq_of_mem_set ht with ht | rfl
    · exact (joined_wait_iff hi).mpr (ho task ht hins room' sid' hmem)
    · exact absurd hmem (Store.Nested.not_mem_of_lookup hnone)
  · intro task ht hins room' sid' hmem
    rcases List.mem_or_eq_of_mem_set ht with ht | rfl
    · refine (joined_done_iff hi).mpr ?_
      rcases Store.Nested.mem_add_iff.mp hmem with ⟨hn,hr,hs⟩ | hmem
      · exact Or.inr ⟨hn.symm,hs.symm,hr⟩
      · exact Or.inl (ho task ht hins room' sid' hmem)
    · cases hins
  · intro task ht hins room' sid' hmem
    rcases List.mem_or_eq_of_mem_set ht with ht | rfl
    · refine (joined_done_iff hi).mpr ?_
      rcases Store.Nested.mem_put_iff.mp hmem with ⟨hn,hr,hs⟩ | ⟨-,hmem⟩
      · exact Or.inr ⟨hn.symm,hs.symm,hr⟩
      · exact Or.inl (ho task ht hins room' sid' hmem)
    · cases hins

def Asked (s : JoinState) (nsp : NameSpace) (names : List Room) (sid : Sid) : Prop :=
  ∃ task ∈ s.tasks, task.nsp = nsp ∧ task.sid = sid ∧ task.joined ++ task.rooms = names

theorem Asked.set {names : List Room} {old new : JoinTask} (ha : s.Asked nsp names sid) (hi : s.tasks[i]? = some old)
    (hnsp : new.nsp = old.nsp) (hsid : new.sid = old.sid)
    (hnames : new.joined ++ new.rooms = old.joined ++ old.rooms) (rooms : Rooms) :
    Asked ⟨rooms,s.tasks.set i new⟩ nsp names sid := by
  obtain ⟨task,ht,hasked⟩ := ha
  rcases eq_or_mem_set hi ht with rfl | ht
  · exact ⟨new,mem_set_new hi,hnsp.trans hasked.1,hsid.trans hasked.2.1,hnames.trans hasked.2.2⟩
  · exact ⟨task,ht,hasked⟩

theorem step_asked {names : List Room} (h : s.step act = some t)
    (ha : s.Asked nsp names sid ∨ act = .call nsp names sid) : t.Asked nsp names sid := by
  rcases step_cases h with ⟨nsp',names',sid',hact,rfl⟩ | ⟨i,nsp',sid',joined,room,rest,hact,hi,-,rfl⟩ |
    ⟨i,nsp',sid',joined,room,rest,hact,hi,-,rfl⟩ | ⟨i,nsp',sid',joined,room,rest,hact,hi,rfl⟩
  · rcases ha with ⟨task,ht,hasked⟩ | ha
    · exact ⟨task,List.mem_append_left _ ht,hasked⟩
    · rw [ha,JoinAct.call.injEq] at hact
      obtain ⟨rfl,rfl,rfl⟩ := hact
      exact ⟨_,List.mem_append_right _ List.mem_cons_self,rfl,rfl,List.nil_append _⟩
  · have ha := ha.resolve_right (by simp [hact])
    exact ha.set hi (by rfl) (by rfl) (by simp) _
  · have ha := ha.resolve_right (by simp [hact])
    exact ha.set hi (by rfl) (by rfl) (by simp) _
  · have ha := ha.resolve_right (by simp [hact])
    exact ha.set hi (by rfl) (by rfl) (by simp) _

theorem run_asked {names : List Room} {acts : List JoinAct} (hrun : run step s acts = some t)
    (ha : s.Asked nsp names sid ∨ .call nsp names sid ∈ acts) : t.Asked nsp names sid := by
  induction acts generalizing s with
  | nil =>
    cases hrun
    exact ha.resolve_right List.not_mem_nil
  | cons act rest ih =>
    obtain ⟨u,hstep,hrest⟩ := run_cons hrun
    apply ih hrest
    rcases ha with ha | ha
    · exact Or.inl (step_asked hstep (Or.inl ha))
    · rcases List.mem_cons.mp ha with ha | ha
      · exact Or.inl (step_asked hstep (Or.inr ha.symm))
      · exact Or.inr ha

theorem exists_run_joinRoom (h : s.tasks[i]? = some ⟨nsp,sid,joined,room :: rest,false⟩) :
    ∃ acts, run step s acts =
      some ⟨s.rooms.add nsp room sid,s.tasks.set i ⟨nsp,sid,joined ++ [room],rest,false⟩⟩ := by
  have hset := List.getElem?_set_self (a := ⟨nsp,sid,joined,room :: rest,true⟩) (List.getElem?_eq_some_iff.mp h).1
  cases hn : s.rooms.lookup nsp with
  | none => exact ⟨[.getMut i,.insert i],by simp only [run,step,h,hn,hset,Option.bind_some,List.set_set,Store.Nested.add]⟩
  | some groups => exact ⟨[.getMut i],by simp only [run,step,h,hn,Option.bind_some,Store.Nested.add]⟩

/-- A call that is not interrupted has the effect of `Server::join` as a whole. -/
theorem exists_run_join (server : Server) (hserver : server.rooms = s.rooms)
    (h : s.tasks[i]? = some ⟨nsp,sid,joined,rest,false⟩) :
    ∃ acts t, run step s acts = some t ∧ t.rooms = (server.join nsp rest sid).rooms ∧
      t.tasks[i]? = some ⟨nsp,sid,joined ++ rest,[],false⟩ := by
  induction rest generalizing s joined server with
  | nil => exact ⟨[],s,rfl,hserver.symm,by simpa using h⟩
  | cons room rest ih =>
    obtain ⟨first,hfirst⟩ := exists_run_joinRoom h
    have hset := List.getElem?_set_self (a := ⟨nsp,sid,joined ++ [room],rest,false⟩) (List.getElem?_eq_some_iff.mp h).1
    have hrooms : (server.joinRoom nsp sid room).rooms = s.rooms.add nsp room sid := by
      simp only [Server.joinRoom,hserver]
    obtain ⟨acts,t,hrun,ht,htask⟩ := ih (s := ⟨_,_⟩) (server.joinRoom nsp sid room) hrooms hset
    refine ⟨first ++ acts,t,(run_append hfirst).trans hrun,ht,?_⟩
    rw [List.append_assoc,List.singleton_append] at htask
    exact htask

end JoinState

open JoinState

/-- In a run of joins on any rooms, every completed join is kept throughout precisely when
no insert replaces other members; then in the end everybody is where they asked to be. -/
theorem no_lost_join_iff (rooms : Rooms) (acts : List JoinAct) (s : JoinState)
    (hrun : run JoinState.step ⟨rooms,[]⟩ acts = some s) :
    (Along JoinState.step KeptAfter ⟨rooms,[]⟩ acts ↔ Along JoinState.step ReplacesNothing ⟨rooms,[]⟩ acts) ∧
    (Along JoinState.step ReplacesNothing ⟨rooms,[]⟩ acts → s.Finished →
      ∀ nsp names sid, .call nsp names sid ∈ acts → ∀ room ∈ names, s.rooms.Mem nsp room sid) := by
  have hkeep : ∀ s act t, KeptAfter s act → s.Sound → s.step act = some t → t.Sound := by
    intro s act t hkept hs h
    exact ⟨hkept t h,step_origin hs.origin h⟩
  constructor
  · exact along_iff_along (fun s act hs => Sound.keptAfter_iff hs act) hkeep (sound_initial rooms) acts
  · intro hreplaces hfinished nsp names sid hcall room hroom
    have hsound : s.Sound := by
      apply run_preserves_along _ hreplaces (sound_initial rooms) hrun
      intro s act t hr hs h
      exact hkeep s act t ((hs.keptAfter_iff act).mpr hr) hs h
    obtain ⟨task,ht,hn,hsid,hnames⟩ := run_asked hrun (Or.inr hcall)
    rw [hfinished task ht,List.append_nil] at hnames
    exact hsound.kept nsp room sid ⟨task,ht,hn,hsid,hnames ▸ hroom⟩

def orderlyJoins : List JoinAct :=
  [.call "/" ["a"] "x",.getMut 0,.insert 0,.call "/" ["a","b"] "y",.getMut 1,.getMut 1]

theorem no_lost_join_orderly :
    ∃ s, run JoinState.step ⟨∅,[]⟩ orderlyJoins = some s ∧ s.Finished ∧ s.rooms.Mem "/" "b" "y" ∧
      (Along JoinState.step KeptAfter ⟨∅,[]⟩ orderlyJoins ↔
        Along JoinState.step ReplacesNothing ⟨∅,[]⟩ orderlyJoins) :=
  ⟨_,rfl,by decide,by decide,(no_lost_join_iff ∅ orderlyJoins _ rfl).1⟩

/-- Both clients find the namespace missing, and the second insert replaces the first. -/
theorem join_lost :
    ∃ s, run JoinState.step ⟨∅,[]⟩ [.call "/" ["a"] "x",.call "/" ["b"] "y",.getMut 0,.getMut 1,.insert 0,
        .insert 1] = some s ∧ s.Finished ∧ ¬ s.rooms.Mem "/" "a" "x" :=
  ⟨_,rfl,by decide,by decide⟩

end SocketIox.SocketIo
