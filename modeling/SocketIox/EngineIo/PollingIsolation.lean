import SocketIox.Proc.Views
import SocketIox.EngineIo.SessionTasks
import SocketIox.EngineIo.SidUniqueness

/-! # Sessions do not show to each other

Requests of all sessions come in over connections of their own, in any order and from anyone,
well formed or not. The session that a request belongs to is what its bytes say. The sessions
share the event channel and the shards of two maps, so that one may keep another one waiting.
Apart from that, what a session is answered, and what gets to its socket and its events,
depends on its own requests and its own doings alone.
-/
namespace SocketIox.EngineIo
open Wire Proc

/-- A reference into a map, on which a task holds the lock of a shard. -/
structure Guard where
  table : Table
  sid : String
  exclusive : Bool
  deriving DecidableEq, Repr

/-- `opened` counts the sessions. Events, references and answers come with the session of the task that they are
from; an answer to a bad request is from none. -/
structure PollingServer where
  opened : ℕ
  ends : Store.Map String SessionEnd
  handles : Finset String
  tasks : Store.Map String (List SessionTask)
  channel : List (String × Event)
  guards : List Guard
  answers : List (Option String × Option Bytes)

/-- A request with what had arrived at the peek and at the read, and whether it is accepted where it is one for a
websocket. `run` is a step of a task of a session, with how
something over a websocket comes out; `receive` takes the next event of a session from the channel, and `read` the
next body from its stream. -/
inductive PollingAct where
  | request (peeked read : Bytes) (accepted : Bool)
  | method (sid : String) (method : SocketMethod)
  | run (sid : String) (i : ℕ) (outcome : Option String)
  | receive (sid : String)
  | read (sid : String)
  | drop (sid : String)

def HttpAction.sid? : HttpAction → Option String
  | .upgrade sid => sid
  | .get sid => some sid
  | .post sid _ => some sid
  | .open_ | .badRequest => none

namespace PollingServer
variable (setup : PollingSetup) (s : PollingServer)

/-- No reference is in the way of one into the entry of the session. -/
def Free (guards : List Guard) (table : Table) (sid : String) (exclusive : Bool) : Prop :=
  ∀ g ∈ guards, g.table = table → setup.shard table g.sid = setup.shard table sid →
    g.exclusive = false ∧ exclusive = false

instance (guards : List Guard) (table : Table) (sid : String) (exclusive : Bool) :
    Decidable (Free setup guards table sid exclusive) := inferInstanceAs (Decidable (∀ g ∈ guards, _))

def tasksOf (sid : String) : List SessionTask := (s.tasks.lookup sid).getD []

def spawn (sid : String) (task : SessionTask) : PollingServer :=
  { s with tasks := s.tasks.insert sid (s.tasksOf sid ++ [task]) }

def respond (sid : Option String) (text : Option Bytes) : PollingServer :=
  { s with answers := s.answers ++ [(sid,text)] }

def openSession (upgraded : Bool) (task : String → SessionTask) : PollingServer :=
  let sid := Server.sidOf setup.base64 s.opened
  PollingServer.spawn { s with opened := s.opened+1, ends := s.ends.insert sid (.fresh upgraded) } sid (task sid)

def postSession (sid : String) (data : Bytes) : Option PollingServer :=
  if Free setup s.guards .handles sid true then
    some (if sid ∈ s.handles then
        PollingServer.spawn { s with guards := s.guards ++ [⟨.handles,sid,true⟩] } sid (.post data)
      else s.respond sid (SessionTask.written setup (.post sid data) [] none))
  else none

def getSession (sid : String) : Option PollingServer :=
  if Free setup s.guards .handles sid false then
    match s.ends.lookup sid with
    | some e =>
      some (if sid ∈ s.handles then
          PollingServer.spawn { s with ends := s.ends.insert sid { e with receivers := e.receivers+1 } } sid .awaitGet
        else s.respond sid (SessionTask.written setup (.get sid) [] none))
    | none => some (s.respond sid (SessionTask.written setup (.get sid) [] none))
  else none

/-- `handle_http`, once it has read the request. -/
def serve (accepted : Bool) : HttpAction → Option PollingServer
  | .upgrade none => some (if accepted then s.openSession setup true directTask else s)
  | .upgrade (some sid) => some (if accepted then s.spawn sid (probeTask sid) else s)
  | .open_ => some (s.openSession setup false openTask)
  | .post sid data => s.postSession setup sid data
  | .get sid => s.getSession setup sid
  | .badRequest => some (s.respond none (SessionTask.written setup .badRequest [] none))

def Allows (sid : String) (p : Progress) : Prop :=
  (p.event.isSome = true → s.channel.length < setup.eventSize) ∧
    ∀ need ∈ p.needs, Free setup s.guards need.1 sid need.2

instance (sid : String) (p : Progress) : Decidable (s.Allows setup sid p) := inferInstanceAs (Decidable (_ ∧ _))

def held (guards : List Guard) (sid : String) : Holding → List Guard
  | .keep => guards
  | .borrow table exclusive => guards ++ [⟨table,sid,exclusive⟩]
  | .giveBack table exclusive => guards.erase ⟨table,sid,exclusive⟩

def advance (sid : String) (tasks : List SessionTask) (p : Progress) : PollingServer where
  opened := s.opened
  ends := match p.session with
    | some e => s.ends.insert sid e
    | none => s.ends
  handles := match p.handle with
    | some true => insert sid s.handles
    | some false => s.handles.erase sid
    | none => s.handles
  tasks := s.tasks.insert sid tasks
  channel := s.channel ++ p.event.toList.map (fun event => (sid,event))
  guards := held s.guards sid p.holding
  answers := s.answers ++ p.answer.toList.map (fun text => (some sid,text))

def runTask (sid : String) (i : ℕ) (outcome : Option String) : Option PollingServer := do
  let task ← (s.tasksOf sid)[i]?
  let p ← task.step setup sid (sid ∈ s.handles) outcome (s.ends.lookup sid)
  if s.Allows setup sid p then some (s.advance sid ((s.tasksOf sid).set i p.next) p) else none

def step (s : PollingServer) : PollingAct → Option PollingServer
  | .request peeked read accepted =>
    match handleHttp setup.crates setup.checked setup.addr peeked read with
    | .ok action => s.serve setup accepted action
    -- the task of the connection panics
    | .error _ => some s
  | .method sid method =>
    match s.ends.lookup sid with
    | some e => if e.dropped then none else some (s.spawn sid (method.task sid))
    | none => none
  | .run sid i outcome => s.runTask setup sid i outcome
  | .receive sid =>
    match s.channel with
    | (sid',_) :: rest => if sid' = sid then some { s with channel := rest } else none
    | [] => none
  | .read sid =>
    match s.ends.lookup sid with
    | some e => some { s with ends := s.ends.insert sid { e with inbox := e.inbox.tail } }
    | none => none
  | .drop sid =>
    match s.ends.lookup sid with
    | some e => if e.stored then none else some { s with ends := s.ends.insert sid { e with dropped := true } }
    | none => none

def concerns (sid : String) : PollingAct → Bool
  | .request peeked read _ =>
    match handleHttp setup.crates setup.checked setup.addr peeked read with
    | .ok action => action.sid? = some sid
    | .error _ => false
  | .method sid' _ | .run sid' _ _ | .receive sid' | .read sid' | .drop sid' => sid' = sid

/-- The second server has everything of the session that the first one has, and of other sessions neither events
nor references nor answers. -/
structure Alone (sid : String) (s s' : PollingServer) : Prop where
  session : s'.ends.lookup sid = s.ends.lookup sid
  handle : sid ∈ s'.handles ↔ sid ∈ s.handles
  tasks : s'.tasks.lookup sid = s.tasks.lookup sid
  channel : s'.channel = s.channel.filter (fun event => event.1 = sid)
  guards : s'.guards = s.guards.filter (fun g => g.sid = sid)
  answers : s'.answers = s.answers.filter (fun answer => answer.1 = some sid)

def entry {v : Type} (m : Store.Map String v) (sid : String) : Store.Map String v :=
  match m.lookup sid with
  | some x => AList.insert sid x ∅
  | none => ∅

def alone (sid : String) : PollingServer where
  opened := s.opened
  ends := entry s.ends sid
  handles := s.handles.filter (fun other => other = sid)
  tasks := entry s.tasks sid
  channel := s.channel.filter (fun event => event.1 = sid)
  guards := s.guards.filter (fun g => g.sid = sid)
  answers := s.answers.filter (fun answer => answer.1 = some sid)

/-- Something else is in the way: the channel is full, the event of another session is first in it, or a reference of
another session locks the same shard. -/
def Delayed (sid : String) : Prop :=
  setup.eventSize ≤ s.channel.length ∨ (∃ event ∈ s.channel.head?, event.1 ≠ sid) ∨
    ∃ g ∈ s.guards, g.sid ≠ sid ∧ setup.shard g.table g.sid = setup.shard g.table sid

section Own
variable {setup} {s s' t : PollingServer} {sid : String}

theorem lookup_entry {v : Type} (m : Store.Map String v) (sid : String) : (entry m sid).lookup sid = m.lookup sid := by
  unfold entry
  split
  · rename_i x hx
    rw [AList.lookup_insert,hx]
  · rename_i hx
    rw [hx]
    rfl

theorem alone_alone (sid : String) (s : PollingServer) : Alone sid s (s.alone sid) where
  session := lookup_entry s.ends sid
  handle := by simp [alone]
  tasks := lookup_entry s.tasks sid
  channel := rfl
  guards := rfl
  answers := rfl

theorem Alone.tasksOf (h : Alone sid s s') : s'.tasksOf sid = s.tasksOf sid := by
  unfold PollingServer.tasksOf
  rw [h.tasks]

theorem Free.mono {guards guards' : List Guard} (hsub : guards' ⊆ guards) {table : Table} {sid : String}
    {exclusive : Bool} (h : Free setup guards table sid exclusive) : Free setup guards' table sid exclusive :=
  fun g hm => h g (hsub hm)

theorem Alone.free (h : Alone sid s s') {table : Table} {exclusive : Bool}
    (hfree : Free setup s.guards table sid exclusive) : Free setup s'.guards table sid exclusive := by
  rw [h.guards]
  exact hfree.mono (fun g hm => (List.mem_filter.mp hm).1)

theorem Alone.allows (h : Alone sid s s') {p : Progress} (ha : s.Allows setup sid p) : s'.Allows setup sid p := by
  refine ⟨?_,fun need hm => h.free (ha.2 need hm)⟩
  intro hevent
  rw [h.channel]
  exact (List.length_filter_le _ _).trans_lt (ha.1 hevent)

theorem Alone.spawn (h : Alone sid s s') (task : SessionTask) : Alone sid (s.spawn sid task) (s'.spawn sid task) :=
  ⟨h.session,h.handle,by simp [PollingServer.spawn,h.tasksOf],h.channel,h.guards,h.answers⟩

theorem Alone.respond (h : Alone sid s s') (text : Option Bytes) :
    Alone sid (s.respond sid text) (s'.respond sid text) := by
  refine ⟨h.session,h.handle,h.tasks,h.channel,h.guards,?_⟩
  simp only [PollingServer.respond,List.filter_append,h.answers]
  simp

theorem Alone.insertEnd (h : Alone sid s s') (e : SessionEnd) :
    Alone sid { s with ends := s.ends.insert sid e } { s' with ends := s'.ends.insert sid e } :=
  ⟨by simp,h.handle,h.tasks,h.channel,h.guards,h.answers⟩

theorem Alone.held (h : Alone sid s s') (holding : Holding) :
    held s'.guards sid holding = (held s.guards sid holding).filter (fun g => g.sid = sid) := by
  cases holding with
  | keep => exact h.guards
  | borrow table exclusive =>
    simp only [PollingServer.held,List.filter_append,h.guards]
    simp
  | giveBack table exclusive =>
    simp only [PollingServer.held,h.guards]
    rw [List.erase_filter]

theorem Alone.advance (h : Alone sid s s') (tasks : List SessionTask) (p : Progress) :
    Alone sid (s.advance sid tasks p) (s'.advance sid tasks p) where
  session := by
    cases hp : p.session with
    | some e => simp [PollingServer.advance,hp]
    | none =>
      simp only [PollingServer.advance,hp]
      exact h.session
  handle := by
    simp only [PollingServer.advance]
    split
    · simp
    · simp
    · exact h.handle
  tasks := by simp [PollingServer.advance]
  channel := by
    simp only [PollingServer.advance,List.filter_append,h.channel]
    congr 1
    cases p.event <;> simp
  guards := h.held p.holding
  answers := by
    simp only [PollingServer.advance,List.filter_append,h.answers]
    congr 1
    cases p.answer <;> simp

theorem Alone.runTask (h : Alone sid s s') {i : ℕ} {outcome : Option String}
    (ht : s.runTask setup sid i outcome = some t) :
    ∃ t', s'.runTask setup sid i outcome = some t' ∧ Alone sid t t' := by
  obtain ⟨task,htask,ht⟩ := Option.bind_eq_some_iff.mp ht
  obtain ⟨p,hp,ht⟩ := Option.bind_eq_some_iff.mp ht
  simp only [Option.ite_none_right_eq_some,Option.some.injEq] at ht
  obtain ⟨hallows,rfl⟩ := ht
  have hhandle : decide (sid ∈ s'.handles) = decide (sid ∈ s.handles) := decide_eq_decide.mpr h.handle
  refine ⟨s'.advance sid ((s.tasksOf sid).set i p.next) p,?_,h.advance _ p⟩
  simp only [PollingServer.runTask,h.tasksOf,h.session,hhandle,htask,hp,Option.bind_eq_bind,Option.bind_some,
    if_pos (h.allows hallows)]

theorem Alone.postSession (h : Alone sid s s') {data : Bytes} (ht : s.postSession setup sid data = some t) :
    ∃ t', s'.postSession setup sid data = some t' ∧ Alone sid t t' := by
  simp only [PollingServer.postSession,Option.ite_none_right_eq_some,Option.some.injEq] at ht
  obtain ⟨hfree,rfl⟩ := ht
  have hguards : Alone sid { s with guards := s.guards ++ [⟨.handles,sid,true⟩] }
      { s' with guards := s'.guards ++ [⟨.handles,sid,true⟩] } :=
    ⟨h.session,h.handle,h.tasks,h.channel,h.held (.borrow .handles true),h.answers⟩
  refine ⟨_,by rw [PollingServer.postSession,if_pos (h.free hfree)],?_⟩
  by_cases hhandle : sid ∈ s.handles
  · rw [if_pos hhandle,if_pos (h.handle.mpr hhandle)]
    exact hguards.spawn _
  · rw [if_neg hhandle,if_neg (fun hm => hhandle (h.handle.mp hm))]
    exact h.respond _

theorem Alone.getSession (h : Alone sid s s') (ht : s.getSession setup sid = some t) :
    ∃ t', s'.getSession setup sid = some t' ∧ Alone sid t t' := by
  simp only [PollingServer.getSession,Option.ite_none_right_eq_some] at ht
  obtain ⟨hfree,ht⟩ := ht
  rw [PollingServer.getSession,if_pos (h.free hfree),h.session]
  cases he : s.ends.lookup sid with
  | none =>
    rw [he] at ht
    cases ht
    exact ⟨_,rfl,h.respond _⟩
  | some e =>
    rw [he] at ht
    cases ht
    refine ⟨_,rfl,?_⟩
    by_cases hhandle : sid ∈ s.handles
    · rw [if_pos hhandle,if_pos (h.handle.mpr hhandle)]
      exact (h.insertEnd _).spawn _
    · rw [if_neg hhandle,if_neg (fun hm => hhandle (h.handle.mp hm))]
      exact h.respond _

theorem Alone.serve (h : Alone sid s s') {accepted : Bool} {action : HttpAction} (ha : action.sid? = some sid)
    (ht : s.serve setup accepted action = some t) :
    ∃ t', s'.serve setup accepted action = some t' ∧ Alone sid t t' := by
  cases action with
  | open_ => cases ha
  | badRequest => cases ha
  | get sid' =>
    cases ha
    exact h.getSession ht
  | post sid' data =>
    cases ha
    exact h.postSession ht
  | upgrade sid' =>
    cases ha
    cases accepted with
    | true =>
      cases ht
      exact ⟨_,rfl,h.spawn _⟩
    | false =>
      cases ht
      exact ⟨_,rfl,h⟩

/-- A session can do alone what it does among others. -/
theorem step_followed : Followed (step setup) (step setup) (concerns setup sid) (Alone sid) := by
  intro s s' act t ha h ht
  cases act with
  | request peeked read accepted =>
    simp only [step,concerns] at ht ha ⊢
    split at ht
    · rename_i action haction
      simp only [haction,decide_eq_true_eq] at ha
      exact h.serve ha ht
    · rename_i hfault
      simp only [hfault] at ha
      cases ha
  | method sid' method =>
    obtain rfl : sid' = sid := of_decide_eq_true ha
    simp only [step,h.session] at ht ⊢
    split at ht
    · split at ht
      · cases ht
      · rename_i hdropped
        cases ht
        exact ⟨_,by rw [if_neg hdropped],h.spawn _⟩
    · cases ht
  | run sid' i outcome =>
    obtain rfl : sid' = sid := of_decide_eq_true ha
    exact h.runTask ht
  | receive sid' =>
    obtain rfl : sid' = sid := of_decide_eq_true ha
    simp only [step] at ht ⊢
    split at ht
    · rename_i first event rest hchannel
      simp only [Option.ite_none_right_eq_some,Option.some.injEq] at ht
      obtain ⟨rfl,rfl⟩ := ht
      have hfirst : s'.channel = (first,event) :: rest.filter (fun event => event.1 = first) := by
        rw [h.channel,hchannel]
        simp
      rw [hfirst]
      refine ⟨_,if_pos rfl,h.session,h.handle,h.tasks,rfl,h.guards,h.answers⟩
    · cases ht
  | read sid' =>
    obtain rfl : sid' = sid := of_decide_eq_true ha
    simp only [step,h.session] at ht ⊢
    split at ht
    · cases ht
      exact ⟨_,rfl,h.insertEnd _⟩
    · cases ht
  | drop sid' =>
    obtain rfl : sid' = sid := of_decide_eq_true ha
    simp only [step,h.session] at ht ⊢
    split at ht
    · split at ht
      · cases ht
      · rename_i hstored
        cases ht
        exact ⟨_,by rw [if_neg hstored],h.insertEnd _⟩
    · cases ht

end Own

section Others
variable {setup} {s s' t : PollingServer} {sid sid' : String} {act : PollingAct}

theorem Alone.spawn_other (h : Alone sid s s') (hne : sid ≠ sid') (task : SessionTask) :
    Alone sid (s.spawn sid' task) s' := by
  refine ⟨h.session,h.handle,?_,h.channel,h.guards,h.answers⟩
  rw [PollingServer.spawn,AList.lookup_insert_ne hne]
  exact h.tasks

theorem Alone.respond_other (h : Alone sid s s') {from? : Option String} (hne : from? ≠ some sid)
    (text : Option Bytes) : Alone sid (s.respond from? text) s' := by
  refine ⟨h.session,h.handle,h.tasks,h.channel,h.guards,?_⟩
  rw [PollingServer.respond,List.filter_append,List.filter_cons_of_neg (by simpa using hne),List.filter_nil,
    List.append_nil]
  exact h.answers

theorem Alone.insertEnd_other (h : Alone sid s s') (hne : sid ≠ sid') (e : SessionEnd) :
    Alone sid { s with ends := s.ends.insert sid' e } s' :=
  ⟨by rw [AList.lookup_insert_ne hne]; exact h.session,h.handle,h.tasks,h.channel,h.guards,h.answers⟩

theorem filter_held_other (hne : sid ≠ sid') (guards : List Guard) (holding : Holding) :
    (held guards sid' holding).filter (fun g => g.sid = sid) = guards.filter (fun g => g.sid = sid) := by
  cases holding with
  | keep => rfl
  | borrow table exclusive =>
    rw [held,List.filter_append,List.filter_cons_of_neg (by simpa using Ne.symm hne),List.filter_nil,List.append_nil]
  | giveBack table exclusive =>
    rw [held,← List.erase_filter,List.erase_of_not_mem]
    simp [hne.symm]

theorem Alone.advance_other (h : Alone sid s s') (hne : sid ≠ sid') (tasks : List SessionTask) (p : Progress) :
    Alone sid (s.advance sid' tasks p) s' where
  session := by
    cases hp : p.session with
    | some e =>
      simp only [PollingServer.advance,hp,AList.lookup_insert_ne hne]
      exact h.session
    | none =>
      simp only [PollingServer.advance,hp]
      exact h.session
  handle := by
    simp only [PollingServer.advance]
    split
    · simp [h.handle,hne]
    · simp [h.handle,hne]
    · exact h.handle
  tasks := by
    rw [PollingServer.advance,AList.lookup_insert_ne hne]
    exact h.tasks
  channel := by
    rw [h.channel,PollingServer.advance,List.filter_append]
    cases p.event <;> simp [Ne.symm hne]
  guards := by
    rw [h.guards]
    exact (filter_held_other hne _ _).symm
  answers := by
    rw [h.answers,PollingServer.advance,List.filter_append]
    cases p.answer <;> simp [Ne.symm hne]

theorem Alone.openSession_other (h : Alone sid s s') (hne : sid ≠ Server.sidOf setup.base64 s.opened) (upgraded : Bool)
    (task : String → SessionTask) : Alone sid (s.openSession setup upgraded task) s' := by
  have hcounted : Alone sid { s with opened := s.opened+1 } s' :=
    ⟨h.session,h.handle,h.tasks,h.channel,h.guards,h.answers⟩
  exact (hcounted.insertEnd_other hne _).spawn_other hne _

theorem Alone.runTask_other (h : Alone sid s s') (hne : sid ≠ sid') {i : ℕ} {outcome : Option String}
    (ht : s.runTask setup sid' i outcome = some t) : Alone sid t s' := by
  obtain ⟨task,_,ht⟩ := Option.bind_eq_some_iff.mp ht
  obtain ⟨p,_,ht⟩ := Option.bind_eq_some_iff.mp ht
  simp only [Option.ite_none_right_eq_some,Option.some.injEq] at ht
  obtain ⟨_,rfl⟩ := ht
  exact h.advance_other hne _ p

theorem Alone.postSession_other (h : Alone sid s s') (hne : sid ≠ sid') {data : Bytes}
    (ht : s.postSession setup sid' data = some t) : Alone sid t s' := by
  simp only [PollingServer.postSession,Option.ite_none_right_eq_some,Option.some.injEq] at ht
  obtain ⟨_,rfl⟩ := ht
  have hguards : Alone sid { s with guards := s.guards ++ [⟨.handles,sid',true⟩] } s' :=
    ⟨h.session,h.handle,h.tasks,h.channel,
      h.guards.trans (filter_held_other hne _ (.borrow .handles true)).symm,h.answers⟩
  split
  · exact hguards.spawn_other hne _
  · exact h.respond_other (by simpa using Ne.symm hne) _

theorem Alone.getSession_other (h : Alone sid s s') (hne : sid ≠ sid') (ht : s.getSession setup sid' = some t) :
    Alone sid t s' := by
  have hanswer : ∀ text, Alone sid (s.respond (some sid') text) s' := h.respond_other (by simpa using Ne.symm hne)
  simp only [PollingServer.getSession,Option.ite_none_right_eq_some] at ht
  obtain ⟨_,ht⟩ := ht
  cases he : s.ends.lookup sid' with
  | none =>
    rw [he] at ht
    cases ht
    exact hanswer _
  | some e =>
    rw [he] at ht
    cases ht
    split
    · exact (h.insertEnd_other hne _).spawn_other hne _
    · exact hanswer _

theorem Alone.serve_other (h : Alone sid s s') {accepted : Bool} {action : HttpAction} (ha : action.sid? ≠ some sid)
    (ht : s.serve setup accepted action = some t)
    (hnext : s.opened < t.opened → sid ≠ Server.sidOf setup.base64 s.opened) : Alone sid t s' := by
  cases action with
  | open_ =>
    cases ht
    exact h.openSession_other (hnext (Nat.lt_succ_self _)) _ _
  | badRequest =>
    cases ht
    exact h.respond_other (by simp) _
  | get sid' => exact h.getSession_other (fun he => ha (congrArg some he.symm)) ht
  | post sid' data => exact h.postSession_other (fun he => ha (congrArg some he.symm)) ht
  | upgrade sid' =>
    cases sid' with
    | none =>
      cases ht
      cases accepted with
      | true => exact h.openSession_other (hnext (Nat.lt_succ_self _)) _ _
      | false => exact h
    | some sid' =>
      cases ht
      split
      · exact h.spawn_other (fun he => ha (congrArg some he.symm)) _
      · exact h

/-- What another session does does not show, as long as it is not given the id. -/
theorem step_unseen
    (hnext : ∀ t, step setup s act = some t → s.opened < t.opened → sid ≠ Server.sidOf setup.base64 s.opened) :
    Unseen (step setup) (concerns setup sid) (Alone sid) s act := by
  intro ha s' t h ht
  have hopens := hnext t ht
  have hne : ∀ {sid' : String}, decide (sid' = sid) = false → sid ≠ sid' :=
    fun hd he => of_decide_eq_false hd he.symm
  cases act with
  | request peeked read accepted =>
    simp only [step,concerns] at ht ha
    split at ht
    · rename_i action haction
      simp only [haction,decide_eq_false_iff_not] at ha
      exact h.serve_other ha ht hopens
    · cases ht
      exact h
  | method sid' method =>
    simp only [step] at ht
    split at ht
    · simp only [Option.ite_none_left_eq_some,Option.some.injEq] at ht
      obtain ⟨_,rfl⟩ := ht
      exact h.spawn_other (hne ha) _
    · cases ht
  | run sid' i outcome => exact h.runTask_other (hne ha) ht
  | receive sid' =>
    simp only [step] at ht
    split at ht
    · rename_i first event rest hchannel
      simp only [Option.ite_none_right_eq_some,Option.some.injEq] at ht
      obtain ⟨rfl,rfl⟩ := ht
      refine ⟨h.session,h.handle,h.tasks,?_,h.guards,h.answers⟩
      rw [h.channel,hchannel,List.filter_cons_of_neg (by simpa using (hne ha).symm)]
    · cases ht
  | read sid' =>
    simp only [step] at ht
    split at ht
    · cases ht
      exact h.insertEnd_other (hne ha) _
    · cases ht
  | drop sid' =>
    simp only [step] at ht
    split at ht
    · simp only [Option.ite_none_left_eq_some,Option.some.injEq] at ht
      obtain ⟨_,rfl⟩ := ht
      exact h.insertEnd_other (hne ha) _
    · cases ht

end Others

section Delays
variable {setup} {s s' : PollingServer} {sid : String}

theorem Alone.free_of (h : Alone sid s s') (hd : ¬ s.Delayed setup sid) {table : Table} {exclusive : Bool}
    (hfree : Free setup s'.guards table sid exclusive) : Free setup s.guards table sid exclusive := by
  rintro g hm rfl hshard
  by_cases hsid : g.sid = sid
  · refine hfree g ?_ rfl hshard
    rw [h.guards]
    exact List.mem_filter.mpr ⟨hm,decide_eq_true hsid⟩
  · exact (hd (Or.inr (Or.inr ⟨g,hm,hsid,hshard⟩))).elim

theorem Alone.allows_of (h : Alone sid s s') (hd : ¬ s.Delayed setup sid) {p : Progress}
    (ha : s'.Allows setup sid p) : s.Allows setup sid p :=
  ⟨fun _ => Nat.lt_of_not_le (fun hfull => hd (Or.inl hfull)),fun need hm => h.free_of hd (ha.2 need hm)⟩

theorem Alone.serve_of (h : Alone sid s s') (hd : ¬ s.Delayed setup sid) {accepted : Bool} {action : HttpAction}
    (ha : action.sid? = some sid) (hnone : s.serve setup accepted action = none) :
    s'.serve setup accepted action = none := by
  cases action with
  | open_ => cases hnone
  | badRequest => cases hnone
  | upgrade sid' =>
    cases ha
    cases hnone
  | post sid' data =>
    cases ha
    simp only [PollingServer.serve,PollingServer.postSession,ite_eq_right_iff,reduceCtorEq,imp_false] at hnone ⊢
    exact fun hfree => hnone (h.free_of hd hfree)
  | get sid' =>
    cases ha
    simp only [PollingServer.serve,PollingServer.getSession,ite_eq_right_iff] at hnone ⊢
    intro hfree
    have hget := hnone (h.free_of hd hfree)
    split at hget
    · cases hget
    · cases hget

theorem Alone.runTask_of (h : Alone sid s s') (hd : ¬ s.Delayed setup sid) {i : ℕ} {outcome : Option String}
    (hnone : s.runTask setup sid i outcome = none) : s'.runTask setup sid i outcome = none := by
  cases ht : s'.runTask setup sid i outcome with
  | none => rfl
  | some t =>
    obtain ⟨task,htask,ht⟩ := Option.bind_eq_some_iff.mp ht
    obtain ⟨p,hp,ht⟩ := Option.bind_eq_some_iff.mp ht
    simp only [Option.ite_none_right_eq_some,Option.some.injEq] at ht
    have hhandle : decide (sid ∈ s'.handles) = decide (sid ∈ s.handles) := decide_eq_decide.mpr h.handle
    rw [h.tasksOf] at htask
    rw [h.session,hhandle] at hp
    simp only [PollingServer.runTask,htask,hp,Option.bind_eq_bind,Option.bind_some,
      if_pos (h.allows_of hd ht.1),reduceCtorEq] at hnone

theorem Alone.step_or_delayed (h : Alone sid s s') {act : PollingAct} (ha : concerns setup sid act = true)
    (hnone : step setup s act = none) : step setup s' act = none ∨ s.Delayed setup sid := by
  refine or_iff_not_imp_right.mpr (fun hd => ?_)
  cases act with
  | request peeked read accepted =>
    simp only [step,concerns] at hnone ha ⊢
    split at hnone
    · rename_i action haction
      simp only [haction,decide_eq_true_eq] at ha
      exact h.serve_of hd ha hnone
    · cases hnone
  | method sid' method =>
    obtain rfl : sid' = sid := of_decide_eq_true ha
    simp only [step,h.session] at hnone ⊢
    split at hnone
    · split at hnone
      · rename_i hdropped
        rw [if_pos hdropped]
      · cases hnone
    · rfl
  | run sid' i outcome =>
    obtain rfl : sid' = sid := of_decide_eq_true ha
    exact h.runTask_of hd hnone
  | receive sid' =>
    obtain rfl : sid' = sid := of_decide_eq_true ha
    simp only [step] at hnone ⊢
    cases hchannel : s.channel with
    | nil => simp [h.channel,hchannel]
    | cons first rest =>
      have hfirst : first.1 = sid' := by
        refine not_not.mp (fun hne => hd (Or.inr (Or.inl ⟨first,?_,hne⟩)))
        simp [hchannel]
      simp only [hchannel,if_pos hfirst,reduceCtorEq] at hnone
  | read sid' =>
    obtain rfl : sid' = sid := of_decide_eq_true ha
    simp only [step,h.session] at hnone ⊢
    split at hnone
    · cases hnone
    · rfl
  | drop sid' =>
    obtain rfl : sid' = sid := of_decide_eq_true ha
    simp only [step,h.session] at hnone ⊢
    split at hnone
    · split at hnone
      · rename_i hstored
        rw [if_pos hstored]
      · cases hnone
    · rfl

end Delays

section Opened
variable {setup} {s t : PollingServer}

theorem serve_opened {accepted : Bool} {action : HttpAction} (h : s.serve setup accepted action = some t) :
    s.opened ≤ t.opened := by
  cases action with
  | open_ =>
    cases h
    exact Nat.le_succ _
  | badRequest =>
    cases h
    exact Nat.le_refl _
  | get sid =>
    simp only [serve,getSession,Option.ite_none_right_eq_some] at h
    obtain ⟨_,h⟩ := h
    split at h
    · cases h
      split
      · exact Nat.le_refl _
      · exact Nat.le_refl _
    · cases h
      exact Nat.le_refl _
  | post sid data =>
    simp only [serve,postSession,Option.ite_none_right_eq_some,Option.some.injEq] at h
    obtain ⟨_,rfl⟩ := h
    split
    · exact Nat.le_refl _
    · exact Nat.le_refl _
  | upgrade sid =>
    cases sid with
    | none =>
      cases h
      split
      · exact Nat.le_succ _
      · exact Nat.le_refl _
    | some sid =>
      cases h
      split
      · exact Nat.le_refl _
      · exact Nat.le_refl _

theorem step_opened {act : PollingAct} (h : step setup s act = some t) : s.opened ≤ t.opened := by
  cases act with
  | request peeked read accepted =>
    simp only [step] at h
    split at h
    · exact serve_opened h
    · cases h
      exact Nat.le_refl _
  | run sid i outcome =>
    obtain ⟨task,_,h⟩ := Option.bind_eq_some_iff.mp h
    obtain ⟨p,_,h⟩ := Option.bind_eq_some_iff.mp h
    simp only [Option.ite_none_right_eq_some,Option.some.injEq] at h
    obtain ⟨_,rfl⟩ := h
    exact Nat.le_refl _
  | receive sid =>
    simp only [step] at h
    split at h
    · simp only [Option.ite_none_right_eq_some,Option.some.injEq] at h
      obtain ⟨_,rfl⟩ := h
      exact Nat.le_refl _
    · cases h
  | read sid =>
    simp only [step] at h
    split at h
    · cases h
      exact Nat.le_refl _
    · cases h
  | method sid _ | drop sid =>
    simp only [step] at h
    split at h
    · simp only [Option.ite_none_left_eq_some,Option.some.injEq] at h
      obtain ⟨_,rfl⟩ := h
      exact Nat.le_refl _
    · cases h

end Opened

def sampleSetup : PollingSetup where
  crates := postCrates "2"
  checked := true
  addr := "127.0.0.1:4201"
  base64 := rfc4648
  json := sampleJson
  option := default
  reason _ := []
  pollingBuffer := 1
  eventSize := 1
  shard _ _ := 0

def twoSessions : PollingServer where
  opened := 2
  ends := (AList.insert "MA==" { SessionEnd.fresh false with stored := true } ∅ : Store.Map String SessionEnd).insert
    "MQ==" { SessionEnd.fresh false with stored := true }
  handles := {"MA==","MQ=="}
  tasks := ∅
  channel := []
  guards := []
  answers := []

def postAmongOthers : List PollingAct :=
  [.method "MQ==" .disconnect,.run "MQ==" 0 none,.request (postText "2" ++ [52,97]) (postText "2" ++ [52,97]) true,
    .run "MQ==" 0 none,.run "MA==" 0 none]

end PollingServer

end SocketIox.EngineIo
