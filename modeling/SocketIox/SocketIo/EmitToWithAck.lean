import SocketIox.SocketIo.AckSafety
import SocketIox.SocketIo.CallbackEmit

/-! # Broadcasts that ask for acks

`emit_to_with_ack` looks up one client after the other and spawns a task for every one that it
finds. Whenever a task gets to run, it calls `emit_with_ack` on the socket of its client, with
a clone of the callback. Every socket has ids and outstanding acks of its own, and goes on
with everything else in the meantime.
-/
namespace SocketIox.SocketIo
open Wire Proc

/-- A call, with all session ids of its rooms and those that it has still to look up. -/
structure AckCall where
  nsp : NameSpace
  event : Event
  payload : Payload
  timeout : ℕ
  sids : Finset Sid
  pending : Finset Sid

structure AckTask where
  call : ℕ
  client : Client
  index : ℕ

/-- The task has called `emit_with_ack`: `number` is the number of the call on the socket. -/
structure Issue where
  call : ℕ
  client : Client
  index : ℕ
  number : ℕ
  packet : Packet

/-- All sockets that were ever made for clients, and the number of each is its index. -/
structure AckBroadcast where
  registry : Registry
  sockets : List (Client × AckState)
  calls : List AckCall
  tasks : List AckTask
  issued : List Issue

/-- A lookup finds one of the sockets that were made for the client. A task is refused by a
socket that is not connected. -/
inductive AckBroadcastAct where
  | registry (act : RegistryAct)
  | create (client : Client) (now : ℕ)
  | call (nsp : NameSpace) (rooms : List Room) (event : Event) (payload : Payload) (timeout : ℕ)
  | lookup (k : ℕ) (sid : Sid) (index : ℕ)
  | start (i : ℕ)
  | refuse (i : ℕ)
  | acks (index : ℕ) (act : AckAct)

namespace AckBroadcast

def empty (on : List NameSpace) : AckBroadcast := ⟨Registry.empty on,[],[],[],[]⟩

/-- `emit_with_ack` up to the packet. -/
def issue (s : AckBroadcast) (i : ℕ) (task : AckTask) : Option AckBroadcast := do
  let call ← s.calls[task.call]?
  let (client,acks) ← s.sockets[task.index]?
  let packet := buildPacketForPayload call.payload (some call.event) acks.nsp (some acks.seq) false
  some { s with
    sockets := s.sockets.set task.index (client,acks.generate call.timeout)
    tasks := s.tasks.eraseIdx i
    issued := s.issued ++ [⟨task.call,task.client,task.index,acks.calls,packet⟩] }

variable (base64 : EngineIo.Base64Crate)

def step (s : AckBroadcast) : AckBroadcastAct → Option AckBroadcast
  | .registry act => (Registry.step base64 s.registry act).map (fun registry => { s with registry := registry })
  | .create client now => some { s with sockets := s.sockets ++ [(client,.fresh client.nsp now)] }
  | .call nsp rooms event payload timeout =>
    let sids := s.registry.server.sidsToEmit nsp rooms
    some { s with calls := s.calls ++ [⟨nsp,event,payload,timeout,sids,sids⟩] }
  | .lookup k sid index =>
    match s.calls[k]? with
    | some call =>
      if sid ∈ call.pending then
        let calls := s.calls.set k { call with pending := call.pending.erase sid }
        match s.registry.server.client base64 sid call.nsp with
        | some client =>
          if s.sockets[index]?.map Prod.fst = some client then
            some { s with calls := calls, tasks := s.tasks ++ [⟨k,client,index⟩] }
          else none
        | none => some { s with calls := calls }
      else none
    | none => none
  | .start i =>
    match s.tasks[i]? with
    | some task => s.issue i task
    | none => none
  | .refuse i => if i < s.tasks.length then some { s with tasks := s.tasks.eraseIdx i } else none
  | .acks index act =>
    match s.sockets[index]? with
    | some (client,acks) => (acks.step act).map (fun acks => { s with sockets := s.sockets.set index (client,acks) })
    | none => none

def callbacks (s : AckBroadcast) (k : ℕ) (sid : Sid) : List Invocation :=
  (s.issued.filter (fun issue => issue.call = k ∧ issue.client.sid = sid)).flatMap (fun issue =>
    match s.sockets[issue.index]? with
    | some (_,acks) => acks.invoked.filter (fun inv => inv.ack.callback = issue.number)
    | none => [])

end AckBroadcast

section Numbers
variable {s t : AckState} {act : AckAct}

structure Numbered (s : AckState) : Prop where
  seq : s.seq = UInt64.ofNat s.calls
  flights : ∀ call ∈ s.inFlight, call.id = UInt64.ofNat call.callback ∧ call.callback < s.calls
  entries : ∀ ack ∈ s.outstanding, ack.id = UInt64.ofNat ack.callback ∧ ack.callback < s.calls
  invoked : ∀ inv ∈ s.invoked, inv.ack.id = UInt64.ofNat inv.ack.callback ∧ inv.ack.callback < s.calls

theorem numbered_fresh (nsp : NameSpace) (now : ℕ) : Numbered (.fresh nsp now) := ⟨rfl,nofun,nofun,nofun⟩

theorem mem_scan {id : UInt64} {now index : ℕ} {acks : List Ack} {ack : Ack} (h : ack ∈ (scan id now index acks).2) :
    ack ∈ acks := by
  induction acks generalizing index with
  | nil => cases h
  | cons first rest ih =>
    simp only [scan] at h
    split at h
    · split at h
      · rcases List.mem_cons.mp h with rfl | h
        · exact List.mem_cons_self
        · exact List.mem_cons_of_mem _ (ih h)
      · exact List.mem_cons_of_mem _ (ih h)
    · exact List.mem_cons_of_mem _ (ih h)

theorem mem_receive_invoked {packet : Packet} {inv : Invocation} (h : inv ∈ (s.receive packet).invoked) :
    inv ∈ s.invoked ∨ inv.ack ∈ s.outstanding := by
  unfold AckState.receive at h
  split at h
  · rcases List.mem_append.mp h with h | h
    · exact Or.inl h
    · obtain ⟨ack,hm,rfl⟩ := List.mem_map.mp h
      exact Or.inr (mem_scan hm)
  · exact Or.inl h

theorem receive_kept (s : AckState) (packet : Packet) : (s.receive packet).seq = s.seq ∧
    (s.receive packet).inFlight = s.inFlight ∧ (s.receive packet).outstanding = s.outstanding := by
  unfold AckState.receive
  split <;> exact ⟨rfl,rfl,rfl⟩

theorem remove_kept (s : AckState) (index : ℕ) (rest : List ℕ) : (s.remove index rest).seq = s.seq ∧
    (s.remove index rest).inFlight = s.inFlight ∧ (s.remove index rest).invoked = s.invoked := by
  unfold AckState.remove
  split <;> exact ⟨rfl,rfl,rfl⟩

theorem mem_remove_outstanding {index : ℕ} {rest : List ℕ} {ack : Ack}
    (h : ack ∈ (s.remove index rest).outstanding) : ack ∈ s.outstanding := by
  unfold AckState.remove at h
  split at h
  · exact List.mem_of_mem_eraseIdx h
  · exact h

theorem step_numbered (hs : Numbered s) (h : s.step act = some t) : Numbered t := by
  rcases step_cases h with ⟨timeout,-,rfl⟩ | ⟨i,call,timeStarted,-,hi,rfl⟩ | ⟨elapsed,-,rfl⟩ |
    ⟨packet,-,-,rfl⟩ | ⟨index,rest,-,-,rfl⟩
  · refine ⟨?_,?_,fun ack ha => (hs.entries ack ha).imp_right Nat.lt_succ_of_lt,
      fun inv hv => (hs.invoked inv hv).imp_right Nat.lt_succ_of_lt⟩
    · simp only [AckState.generate,hs.seq,UInt64.ofNat_add]
      rfl
    · intro call hc
      rcases List.mem_append.mp hc with hc | hc
      · exact (hs.flights call hc).imp_right Nat.lt_succ_of_lt
      · rw [List.mem_singleton.mp hc]
        exact ⟨hs.seq,Nat.lt_succ_self _⟩
  · refine ⟨hs.seq,fun other hc => hs.flights other (List.mem_of_mem_eraseIdx hc),?_,hs.invoked⟩
    intro ack ha
    rcases List.mem_append.mp ha with ha | ha
    · exact hs.entries ack ha
    · rw [List.mem_singleton.mp ha]
      exact hs.flights call (List.mem_of_getElem? hi)
  · exact ⟨hs.seq,hs.flights,hs.entries,hs.invoked⟩
  · obtain ⟨hseq,hflights,hentries⟩ := receive_kept s packet
    have hcalls := receive_calls s packet
    refine ⟨by rw [hseq,hcalls]; exact hs.seq,?_,?_,?_⟩
    · rw [hflights,hcalls]
      exact hs.flights
    · rw [hentries,hcalls]
      exact hs.entries
    · intro inv hv
      rw [hcalls]
      exact (mem_receive_invoked hv).elim (hs.invoked inv) (hs.entries inv.ack)
  · obtain ⟨hseq,hflights,hinvoked⟩ := remove_kept s index rest
    have hcalls := remove_calls s index rest
    refine ⟨by rw [hseq,hcalls]; exact hs.seq,?_,?_,?_⟩
    · rw [hflights,hcalls]
      exact hs.flights
    · intro ack ha
      rw [hcalls]
      exact hs.entries ack (mem_remove_outstanding ha)
    · rw [hinvoked,hcalls]
      exact hs.invoked

structure Timed (number timeout : ℕ) (s : AckState) : Prop where
  lt : number < s.calls
  flights : ∀ call ∈ s.inFlight, call.callback = number → call.timeout = timeout
  entries : ∀ ack ∈ s.outstanding, ack.callback = number → ack.timeout = timeout
  invoked : ∀ inv ∈ s.invoked, inv.ack.callback = number → inv.ack.timeout = timeout

theorem timed_generate (hs : Numbered s) (timeout : ℕ) : Timed s.calls timeout (s.generate timeout) where
  lt := Nat.lt_succ_self _
  flights := by
    intro call hc he
    rcases List.mem_append.mp hc with hc | hc
    · exact absurd he (hs.flights call hc).2.ne
    · rw [List.mem_singleton.mp hc]
  entries := fun ack ha he => absurd he (hs.entries ack ha).2.ne
  invoked := fun inv hv he => absurd he (hs.invoked inv hv).2.ne

theorem step_timed {number timeout : ℕ} (hs : Timed number timeout s) (h : s.step act = some t) :
    Timed number timeout t := by
  rcases step_cases h with ⟨timeout',-,rfl⟩ | ⟨i,call,timeStarted,-,hi,rfl⟩ | ⟨elapsed,-,rfl⟩ |
    ⟨packet,-,-,rfl⟩ | ⟨index,rest,-,-,rfl⟩
  · refine ⟨Nat.lt_succ_of_lt hs.lt,?_,hs.entries,hs.invoked⟩
    intro call hc he
    rcases List.mem_append.mp hc with hc | hc
    · exact hs.flights call hc he
    · rw [List.mem_singleton.mp hc] at he
      exact absurd he.symm hs.lt.ne
  · refine ⟨hs.lt,fun other hc => hs.flights other (List.mem_of_mem_eraseIdx hc),?_,hs.invoked⟩
    intro ack ha he
    rcases List.mem_append.mp ha with ha | ha
    · exact hs.entries ack ha he
    · rw [List.mem_singleton.mp ha] at he ⊢
      exact hs.flights call (List.mem_of_getElem? hi) he
  · exact ⟨hs.lt,hs.flights,hs.entries,hs.invoked⟩
  · obtain ⟨-,hflights,hentries⟩ := receive_kept s packet
    refine ⟨by rw [receive_calls]; exact hs.lt,by rw [hflights]; exact hs.flights,
      by rw [hentries]; exact hs.entries,?_⟩
    intro inv hv
    exact (mem_receive_invoked hv).elim (hs.invoked inv) (hs.entries inv.ack)
  · obtain ⟨-,hflights,hinvoked⟩ := remove_kept s index rest
    exact ⟨by rw [remove_calls]; exact hs.lt,by rw [hflights]; exact hs.flights,
      fun ack ha => hs.entries ack (mem_remove_outstanding ha),by rw [hinvoked]; exact hs.invoked⟩

end Numbers

namespace AckBroadcast
variable (base64 : EngineIo.Base64Crate)

inductive Does (s : AckBroadcast) : AckBroadcastAct → AckBroadcast → Prop
  | registry (act : RegistryAct) (registry : Registry) (h : Registry.step base64 s.registry act = some registry) :
      Does s (.registry act) { s with registry := registry }
  | create (client : Client) (now : ℕ) :
      Does s (.create client now) { s with sockets := s.sockets ++ [(client,.fresh client.nsp now)] }
  | call {act : AckBroadcastAct} (call : AckCall) (hpending : call.pending = call.sids) :
      Does s act { s with calls := s.calls ++ [call] }
  | lookup (k : ℕ) (sid : Sid) (index : ℕ) (call : AckCall) (hk : s.calls[k]? = some call) (hsid : sid ∈ call.pending)
      (tasks : List AckTask)
      (htasks : tasks = s.tasks ∨ ∃ client, s.registry.server.client base64 sid call.nsp = some client ∧
        s.sockets[index]?.map Prod.fst = some client ∧ tasks = s.tasks ++ [⟨k,client,index⟩]) :
      Does s (.lookup k sid index) { s with
        calls := s.calls.set k { call with pending := call.pending.erase sid }, tasks := tasks }
  | start (i : ℕ) (task : AckTask) (call : AckCall) (client : Client) (acks : AckState) (hi : s.tasks[i]? = some task)
      (hcall : s.calls[task.call]? = some call) (hget : s.sockets[task.index]? = some (client,acks)) :
      Does s (.start i) { s with
        sockets := s.sockets.set task.index (client,acks.generate call.timeout)
        tasks := s.tasks.eraseIdx i
        issued := s.issued ++ [⟨task.call,task.client,task.index,acks.calls,
          buildPacketForPayload call.payload (some call.event) acks.nsp (some acks.seq) false⟩] }
  | refuse (i : ℕ) : Does s (.refuse i) { s with tasks := s.tasks.eraseIdx i }
  | acks (index : ℕ) (act : AckAct) (client : Client) (acks acks' : AckState)
      (hget : s.sockets[index]? = some (client,acks)) (h : acks.step act = some acks') :
      Does s (.acks index act) { s with sockets := s.sockets.set index (client,acks') }

variable {base64} {s t : AckBroadcast} {act : AckBroadcastAct}

theorem step_does (h : step base64 s act = some t) : Does base64 s act t := by
  cases act with
  | registry act =>
    obtain ⟨registry,hr,rfl⟩ := Option.map_eq_some_iff.mp h
    exact .registry act registry hr
  | create client now =>
    cases h
    exact .create client now
  | call nsp rooms event payload timeout =>
    cases h
    exact .call _ rfl
  | lookup k sid index =>
    simp only [step] at h
    split at h
    · rename_i call hk
      split at h
      · rename_i hsid
        split at h
        · rename_i client hclient
          split at h
          · rename_i hindex
            cases h
            exact .lookup k sid index call hk hsid _ (Or.inr ⟨client,hclient,hindex,rfl⟩)
          · cases h
        · cases h
          exact .lookup k sid index call hk hsid s.tasks (Or.inl rfl)
      · cases h
    · cases h
  | start i =>
    simp only [step] at h
    split at h
    · rename_i task hi
      obtain ⟨call,hcall,h⟩ := Option.bind_eq_some_iff.mp h
      obtain ⟨⟨client,acks⟩,hget,h⟩ := Option.bind_eq_some_iff.mp h
      cases h
      exact .start i task call client acks hi hcall hget
    · cases h
  | refuse i =>
    simp only [step,Option.ite_none_right_eq_some,Option.some.injEq] at h
    obtain ⟨-,rfl⟩ := h
    exact .refuse i
  | acks index act =>
    simp only [step] at h
    split at h
    · rename_i client acks hget
      obtain ⟨acks',hstep,rfl⟩ := Option.map_eq_some_iff.mp h
      exact .acks index act client acks acks' hget hstep
    · cases h

structure Before (s t : AckBroadcast) : Prop where
  sockets : ∀ (index : ℕ) (client : Client) (acks : AckState), s.sockets[index]? = some (client,acks) → ∃ acks',
    t.sockets[index]? = some (client,acks') ∧ ∀ number timeout, Timed number timeout acks → Timed number timeout acks'
  calls : ∀ (k : ℕ) (call : AckCall), s.calls[k]? = some call → ∃ pending ⊆ call.pending,
    t.calls[k]? = some { call with pending := pending }

theorem getElem?_append_some {β : Type} {xs : List β} {k : ℕ} {x : β} (h : xs[k]? = some x) (ys : List β) :
    (xs ++ ys)[k]? = some x := by
  rw [List.getElem?_append_left (List.getElem?_eq_some_iff.mp h).1]
  exact h

theorem before_sockets_set {index : ℕ} {client : Client} {acks acks' : AckState}
    (hget : s.sockets[index]? = some (client,acks))
    (hkeep : ∀ number timeout, Timed number timeout acks → Timed number timeout acks')
    (hsockets : t.sockets = s.sockets.set index (client,acks')) (hcalls : t.calls = s.calls) : s.Before t where
  sockets := by
    intro index' client' other h
    rw [hsockets]
    by_cases he : index = index'
    · subst he
      rw [hget] at h
      cases h
      exact ⟨acks',List.getElem?_set_self (List.getElem?_eq_some_iff.mp hget).1,hkeep⟩
    · exact ⟨other,by rw [List.getElem?_set_ne he]; exact h,fun _ _ ht => ht⟩
  calls := fun k call h => ⟨call.pending,Finset.Subset.refl _,by rw [hcalls]; exact h⟩

theorem before_of_does (h : Does base64 s act t) : s.Before t := by
  have hsockets : ∀ (index : ℕ) (client : Client) (acks : AckState), s.sockets[index]? = some (client,acks) → ∃ acks',
      s.sockets[index]? = some (client,acks') ∧
        ∀ number timeout, Timed number timeout acks → Timed number timeout acks' :=
    fun _ _ acks hget => ⟨acks,hget,fun _ _ ht => ht⟩
  have hcalls : ∀ (k : ℕ) (call : AckCall), s.calls[k]? = some call → ∃ pending ⊆ call.pending,
      s.calls[k]? = some { call with pending := pending } :=
    fun _ call hk => ⟨call.pending,Finset.Subset.refl _,hk⟩
  cases h with
  | registry | refuse => exact ⟨hsockets,hcalls⟩
  | create client now =>
    refine ⟨?_,hcalls⟩
    intro index client' acks hget
    exact ⟨acks,getElem?_append_some hget _,fun _ _ ht => ht⟩
  | call call hpending =>
    refine ⟨hsockets,?_⟩
    intro k other hk
    exact ⟨other.pending,Finset.Subset.refl _,getElem?_append_some hk _⟩
  | lookup k sid index call hk hsid tasks htasks =>
    refine ⟨hsockets,?_⟩
    intro k' other hk'
    by_cases he : k = k'
    · subst he
      rw [hk] at hk'
      cases hk'
      exact ⟨_,Finset.erase_subset _ _,List.getElem?_set_self (List.getElem?_eq_some_iff.mp hk).1⟩
    · exact ⟨other.pending,Finset.Subset.refl _,by rw [List.getElem?_set_ne he]; exact hk'⟩
  | start i task call client acks hi hcall hget =>
    refine before_sockets_set hget ?_ rfl rfl
    exact fun number timeout ht => step_timed ht (show acks.step (.generate call.timeout) = _ from rfl)
  | acks index act client acks acks' hget hstep =>
    exact before_sockets_set hget (fun number timeout ht => step_timed ht hstep) rfl rfl

def keys (s : AckBroadcast) : List (ℕ × Client) :=
  s.tasks.map (fun task => (task.call,task.client)) ++ s.issued.map (fun issue => (issue.call,issue.client))

def Looked (s : AckBroadcast) (key : ℕ × Client) : Prop :=
  ∃ call, s.calls[key.1]? = some call ∧ key.2.nsp = call.nsp ∧ key.2.sid ∈ call.sids ∧ key.2.sid ∉ call.pending

/-- The packet of the call went out under the id of a call of the client's socket. -/
def Asks (s : AckBroadcast) (issue : Issue) : Prop :=
  ∃ call acks, s.calls[issue.call]? = some call ∧ s.sockets[issue.index]? = some (issue.client,acks) ∧
    Timed issue.number call.timeout acks ∧ issue.packet =
      buildPacketForPayload call.payload (some call.event) call.nsp (some (UInt64.ofNat issue.number)) false

def Fits (s : AckBroadcast) (task : AckTask) : Prop := ∃ acks, s.sockets[task.index]? = some (task.client,acks)

theorem Before.looked (h : s.Before t) {key : ℕ × Client} (hk : s.Looked key) : t.Looked key := by
  obtain ⟨call,hcall,hnsp,hsid,hnot⟩ := hk
  obtain ⟨pending,hsub,hcall'⟩ := h.calls _ _ hcall
  exact ⟨_,hcall',hnsp,hsid,fun hm => hnot (hsub hm)⟩

theorem Before.asks (h : s.Before t) {issue : Issue} (ha : s.Asks issue) : t.Asks issue := by
  obtain ⟨call,acks,hcall,hget,htimed,hpacket⟩ := ha
  obtain ⟨acks',hget',hkeep⟩ := h.sockets _ _ _ hget
  obtain ⟨pending,-,hcall'⟩ := h.calls _ _ hcall
  exact ⟨_,acks',hcall',hget',hkeep _ _ htimed,hpacket⟩

theorem Before.fits (h : s.Before t) {task : AckTask} (hf : s.Fits task) : t.Fits task := by
  obtain ⟨acks,hget⟩ := hf
  obtain ⟨acks',hget',-⟩ := h.sockets _ _ _ hget
  exact ⟨acks',hget'⟩

/-- Every client is looked up once for every call, and every task asks once. -/
structure Sound (s : AckBroadcast) : Prop where
  named : s.registry.server.clients.Named
  made : ∀ entry ∈ s.sockets, entry.2.nsp = entry.1.nsp ∧ Numbered entry.2 ∧ AckSafe entry.2
  pending : ∀ call ∈ s.calls, call.pending ⊆ call.sids
  tasks : ∀ task ∈ s.tasks, s.Fits task
  issued : ∀ issue ∈ s.issued, s.Asks issue
  looked : ∀ key ∈ s.keys, s.Looked key
  once : (s.keys.map (fun key => (key.1,key.2.sid))).Nodup
  numbers : (s.issued.map (fun issue => (issue.index,issue.number))).Nodup

theorem sound_empty (on : List NameSpace) : (empty on).Sound := by
  refine ⟨?_,nofun,nofun,nofun,nofun,nofun,List.nodup_nil,List.nodup_nil⟩
  intro esid sid nsp client h
  cases h

theorem Sound.unasked (hs : s.Sound) (hbefore : s.Before t) (hnamed : t.registry.server.clients.Named)
    (hmade : ∀ entry ∈ t.sockets, entry.2.nsp = entry.1.nsp ∧ Numbered entry.2 ∧ AckSafe entry.2)
    (hpending : ∀ call ∈ t.calls, call.pending ⊆ call.sids) (htasks : t.tasks.Sublist s.tasks)
    (hissued : t.issued = s.issued) : t.Sound := by
  have hkeys : t.keys.Sublist s.keys := by
    rw [keys,keys,hissued]
    exact (htasks.map _).append_right _
  refine ⟨hnamed,hmade,hpending,?_,?_,?_,(hkeys.map _).nodup hs.once,by rw [hissued]; exact hs.numbers⟩
  · exact fun task hm => hbefore.fits (hs.tasks task (htasks.subset hm))
  · intro issue hm
    rw [hissued] at hm
    exact hbefore.asks (hs.issued issue hm)
  · exact fun key hm => hbefore.looked (hs.looked key (hkeys.subset hm))

theorem made_set (hs : s.Sound) {index : ℕ} {client : Client} {acks acks' : AckState} {act : AckAct}
    (hget : s.sockets[index]? = some (client,acks)) (h : acks.step act = some acks') :
    ∀ entry ∈ s.sockets.set index (client,acks'), entry.2.nsp = entry.1.nsp ∧ Numbered entry.2 ∧ AckSafe entry.2 := by
  intro entry hm
  rcases List.mem_or_eq_of_mem_set hm with hm | rfl
  · exact hs.made entry hm
  · obtain ⟨hnsp,hnumbered,hsafe⟩ := hs.made _ (List.mem_of_getElem? hget)
    exact ⟨(step_nsp h).trans hnsp,step_numbered hnumbered h,step_safe _ _ _ hsafe h⟩

theorem Sound.lookup (hs : s.Sound) {k : ℕ} {sid : Sid} {index : ℕ} {call : AckCall} (hk : s.calls[k]? = some call)
    (hsid : sid ∈ call.pending) {client : Client} (hclient : s.registry.server.client base64 sid call.nsp = some client)
    (hindex : s.sockets[index]?.map Prod.fst = some client)
    (hbefore : s.Before { s with
      calls := s.calls.set k { call with pending := call.pending.erase sid }, tasks := s.tasks ++ [⟨k,client,index⟩] })
    (hpending : ∀ c ∈ s.calls.set k { call with pending := call.pending.erase sid }, c.pending ⊆ c.sids) :
    Sound { s with
      calls := s.calls.set k { call with pending := call.pending.erase sid }, tasks := s.tasks ++ [⟨k,client,index⟩] } := by
  obtain ⟨esid,-,hget⟩ := Option.bind_eq_some_iff.mp hclient
  obtain ⟨hname,hnsp⟩ := hs.named _ _ _ _ hget
  have hperm : (keys { s with
      calls := s.calls.set k { call with pending := call.pending.erase sid }, tasks := s.tasks ++ [⟨k,client,index⟩] }).Perm
        ((k,client) :: s.keys) := by
    simp only [keys,List.map_append,List.map_cons,List.map_nil,List.append_assoc,List.singleton_append]
    exact List.perm_middle
  refine ⟨hs.named,hs.made,hpending,?_,fun issue hm => hbefore.asks (hs.issued issue hm),?_,?_,hs.numbers⟩
  · intro task hm
    rcases List.mem_append.mp hm with hm | hm
    · exact hbefore.fits (hs.tasks task hm)
    · rw [List.mem_singleton.mp hm]
      obtain ⟨⟨client',acks⟩,hsocket,rfl⟩ := Option.map_eq_some_iff.mp hindex
      exact ⟨acks,hsocket⟩
  · intro key hm
    rcases List.mem_cons.mp (hperm.mem_iff.mp hm) with rfl | hm
    · refine ⟨_,List.getElem?_set_self (List.getElem?_eq_some_iff.mp hk).1,hnsp,?_,?_⟩
      · rw [hname]
        exact hs.pending call (List.mem_of_getElem? hk) hsid
      · rw [hname]
        exact Finset.notMem_erase _ _
    · exact hbefore.looked (hs.looked key hm)
  · refine ((hperm.map _).nodup_iff).mpr (List.nodup_cons.mpr ⟨?_,hs.once⟩)
    intro hm
    obtain ⟨key,hkey,heq⟩ := List.mem_map.mp hm
    rw [Prod.mk.injEq,hname] at heq
    obtain ⟨other,hother,-,-,hnot⟩ := hs.looked key hkey
    rw [heq.1,hk] at hother
    cases hother
    exact hnot (heq.2 ▸ hsid)

theorem Sound.start (hs : s.Sound) {i : ℕ} {task : AckTask} {call : AckCall} {client : Client} {acks : AckState}
    (hi : s.tasks[i]? = some task) (hcall : s.calls[task.call]? = some call)
    (hget : s.sockets[task.index]? = some (client,acks)) (hbefore : s.Before t)
    (ht : t = { s with
      sockets := s.sockets.set task.index (client,acks.generate call.timeout)
      tasks := s.tasks.eraseIdx i
      issued := s.issued ++ [⟨task.call,task.client,task.index,acks.calls,
        buildPacketForPayload call.payload (some call.event) acks.nsp (some acks.seq) false⟩] }) : t.Sound := by
  subst ht
  obtain ⟨hnsp,hnumbered,-⟩ := hs.made _ (List.mem_of_getElem? hget)
  obtain ⟨acks',hfits⟩ := hs.tasks task (List.mem_of_getElem? hi)
  rw [hget] at hfits
  cases hfits
  obtain ⟨hlt,htask⟩ := List.getElem?_eq_some_iff.mp hi
  have hperm : (keys { s with
      sockets := s.sockets.set task.index (task.client,acks.generate call.timeout)
      tasks := s.tasks.eraseIdx i
      issued := s.issued ++ [⟨task.call,task.client,task.index,acks.calls,
        buildPacketForPayload call.payload (some call.event) acks.nsp (some acks.seq) false⟩] }).Perm s.keys := by
    have htasks := (List.getElem_cons_eraseIdx_perm hlt).map (fun task : AckTask => (task.call,task.client))
    rw [htask,List.map_cons] at htasks
    simp only [keys,List.map_append,List.map_cons,List.map_nil]
    refine List.Perm.trans ?_ (htasks.append_right _)
    rw [← List.append_assoc,List.cons_append]
    exact List.perm_append_singleton _ _
  have hlooked := hs.looked (task.call,task.client)
    (List.mem_append_left _ (List.mem_map.mpr ⟨task,List.mem_of_getElem? hi,rfl⟩))
  refine ⟨hs.named,made_set hs hget (show acks.step (.generate call.timeout) = _ from rfl),hs.pending,?_,?_,?_,
    ((hperm.map _).nodup_iff).mpr hs.once,?_⟩
  · exact fun other hm => hbefore.fits (hs.tasks other (List.mem_of_mem_eraseIdx hm))
  · intro issue hm
    rcases List.mem_append.mp hm with hm | hm
    · exact hbefore.asks (hs.issued issue hm)
    · rw [List.mem_singleton.mp hm]
      refine ⟨call,_,hcall,List.getElem?_set_self (List.getElem?_eq_some_iff.mp hget).1,timed_generate hnumbered _,?_⟩
      obtain ⟨other,hother,hnsp',-⟩ := hlooked
      rw [hcall] at hother
      cases hother
      rw [hnsp,hnsp',hnumbered.seq]
  · exact fun key hm => hbefore.looked (hs.looked key (hperm.mem_iff.mp hm))
  · rw [List.map_append,List.map_singleton]
    refine pairwise_append_singleton hs.numbers ?_
    intro pair hm heq
    obtain ⟨issue,hissue,rfl⟩ := List.mem_map.mp hm
    obtain ⟨other,acks',-,hget',htimed,-⟩ := hs.issued issue hissue
    rw [Prod.mk.injEq] at heq
    rw [heq.1,hget] at hget'
    obtain ⟨-,rfl⟩ := Prod.mk.inj (Option.some.inj hget')
    exact absurd heq.2 htimed.lt.ne

theorem step_sound (hs : s.Sound) (h : step base64 s act = some t) : t.Sound := by
  have hdoes := step_does h
  have hbefore := before_of_does hdoes
  cases hdoes with
  | registry act registry hr =>
    exact hs.unasked hbefore (Registry.step_named hs.named hr) hs.made hs.pending (List.Sublist.refl _) rfl
  | create client now =>
    refine hs.unasked hbefore hs.named ?_ hs.pending (List.Sublist.refl _) rfl
    intro entry hm
    rcases List.mem_append.mp hm with hm | hm
    · exact hs.made entry hm
    · rw [List.mem_singleton.mp hm]
      exact ⟨rfl,numbered_fresh _ _,fun _ => ackInv_fresh _ _⟩
  | call call hpending =>
    refine hs.unasked hbefore hs.named hs.made ?_ (List.Sublist.refl _) rfl
    intro other hm
    rcases List.mem_append.mp hm with hm | hm
    · exact hs.pending other hm
    · rw [List.mem_singleton.mp hm,hpending]
  | lookup k sid index call hk hsid tasks htasks =>
    have hpending : ∀ c ∈ s.calls.set k { call with pending := call.pending.erase sid }, c.pending ⊆ c.sids := by
      intro c hm
      rcases List.mem_or_eq_of_mem_set hm with hm | rfl
      · exact hs.pending c hm
      · exact (Finset.erase_subset _ _).trans (hs.pending call (List.mem_of_getElem? hk))
    rcases htasks with rfl | ⟨client,hclient,hindex,rfl⟩
    · exact hs.unasked hbefore hs.named hs.made hpending (List.Sublist.refl _) rfl
    · exact hs.lookup hk hsid hclient hindex hbefore hpending
  | start i task call client acks hi hcall hget =>
    exact hs.start hi hcall hget hbefore rfl
  | refuse i => exact hs.unasked hbefore hs.named hs.made hs.pending (List.eraseIdx_sublist _ _) rfl
  | acks index act client acks acks' hget hstep =>
    exact hs.unasked hbefore hs.named (made_set hs hget hstep) hs.pending (List.Sublist.refl _) rfl

theorem length_filter_le_one {β γ : Type} [DecidableEq γ] {f : β → γ} {xs : List β} (h : (xs.map f).Nodup) (c : γ) :
    (xs.filter (fun x => f x = c)).length ≤ 1 := by
  have hcount := List.nodup_iff_count_le_one.mp h c
  rw [List.count_eq_countP,List.countP_map,List.countP_eq_length_filter] at hcount
  exact hcount

theorem Sound.nodup_ids (hs : s.Sound) (hcalls : ∀ entry ∈ s.sockets, entry.2.calls ≤ 2^64) :
    (s.issued.map (fun issue => (issue.index,issue.packet.id))).Nodup := by
  refine hs.numbers.of_map.map_on ?_
  intro issue hissue other hother heq
  refine List.inj_on_of_nodup_map hs.numbers hissue hother ?_
  obtain ⟨hindex,hid⟩ := Prod.mk.inj heq
  obtain ⟨call,acks,-,hget,htimed,hpacket⟩ := hs.issued issue hissue
  obtain ⟨call',acks',-,hget',htimed',hpacket'⟩ := hs.issued other hother
  have hlt := htimed.lt.trans_le (hcalls _ (List.mem_of_getElem? hget))
  have hlt' := htimed'.lt.trans_le (hcalls _ (List.mem_of_getElem? hget'))
  rw [hpacket,hpacket'] at hid
  have hnat := congrArg UInt64.toNat (Option.some.inj hid)
  rw [UInt64.toNat_ofNat_of_lt' hlt,UInt64.toNat_ofNat_of_lt' hlt'] at hnat
  rw [hindex,hnat]

/-- As long as no socket has made more than `2^64` calls: every client that a call asks is one of its session ids and
its namespace, and is sent the event once, under an id that no other call on its socket has; and the callback of the
call is called at most once for this client, by an ack of the namespace with that id, before the timeout of the call. -/
theorem emit_to_with_ack_once (base64 : EngineIo.Base64Crate) (on : List NameSpace) (acts : List AckBroadcastAct)
    (s : AckBroadcast) (hrun : run (step base64) (empty on) acts = some s)
    (hcalls : ∀ entry ∈ s.sockets, entry.2.calls ≤ 2^64) :
    (∀ issue ∈ s.issued, s.Looked (issue.call,issue.client) ∧ s.Asks issue) ∧
    (∀ k sid, (s.issued.filter (fun issue => issue.call = k ∧ issue.client.sid = sid)).length ≤ 1) ∧
    (∀ k sid, (s.callbacks k sid).length ≤ 1) ∧
    (∀ k sid, ∀ inv ∈ s.callbacks k sid, ∃ call, s.calls[k]? = some call ∧ sid ∈ call.sids ∧ inv.Valid call.nsp ∧
      inv.ack.timeout = call.timeout ∧ ∃ issue ∈ s.issued, issue.call = k ∧ issue.client.sid = sid ∧
        inv.packet.id = issue.packet.id) ∧
    (s.issued.map (fun issue => (issue.index,issue.packet.id))).Nodup := by
  have hs : s.Sound := run_preserves (fun _ _ _ => step_sound) (sound_empty on) hrun
  have honce : ∀ k sid, (s.issued.filter (fun issue => issue.call = k ∧ issue.client.sid = sid)).length ≤ 1 := by
    intro k sid
    have hnodup : (s.issued.map (fun issue => (issue.call,issue.client.sid))).Nodup := by
      have hright := (List.nodup_append.mp ((List.map_append (f := fun key : ℕ × Client => (key.1,key.2.sid))) ▸ hs.once)).2.1
      rw [List.map_map] at hright
      exact hright
    simpa only [Prod.mk.injEq] using length_filter_le_one hnodup (k,sid)
  refine ⟨?_,honce,?_,?_,hs.nodup_ids hcalls⟩
  · intro issue hm
    exact ⟨hs.looked _ (List.mem_append_right _ (List.mem_map.mpr ⟨issue,hm,rfl⟩)),hs.issued issue hm⟩
  · intro k sid
    have hle := honce k sid
    unfold callbacks
    cases hfilter : s.issued.filter (fun issue => issue.call = k ∧ issue.client.sid = sid) with
    | nil => exact Nat.zero_le _
    | cons issue rest =>
      rw [hfilter,List.length_cons] at hle
      have hrest : rest = [] := List.eq_nil_of_length_eq_zero (by omega)
      have hissue : issue ∈ s.issued := by
        have hm : issue ∈ s.issued.filter (fun issue => issue.call = k ∧ issue.client.sid = sid) := by
          rw [hfilter]
          exact List.mem_cons_self
        exact List.mem_of_mem_filter hm
      obtain ⟨call,acks,-,hget,-,-⟩ := hs.issued issue hissue
      have hentry := List.mem_of_getElem? hget
      have hinv := (hs.made _ hentry).2.2 (hcalls _ hentry)
      rw [hrest,List.flatMap_singleton,hget]
      exact length_filter_le_one hinv.once issue.number
  · intro k sid inv hm
    obtain ⟨issue,hfilter,hinv⟩ := List.mem_flatMap.mp hm
    obtain ⟨hissue,hkey⟩ := List.mem_filter.mp hfilter
    obtain ⟨rfl,rfl⟩ := of_decide_eq_true hkey
    obtain ⟨call,acks,hcall,hget,htimed,hpacket⟩ := hs.issued issue hissue
    obtain ⟨other,hother,hnsp,hsid,-⟩ :=
      hs.looked (issue.call,issue.client) (List.mem_append_right _ (List.mem_map.mpr ⟨issue,hissue,rfl⟩))
    rw [hcall] at hother
    cases hother
    rw [hget] at hinv
    obtain ⟨hinvoked,hnumber⟩ := List.mem_filter.mp hinv
    have hnumber := of_decide_eq_true hnumber
    have hentry := List.mem_of_getElem? hget
    have hacks := (hs.made _ hentry).2.2 (hcalls _ hentry)
    have hvalid := hacks.valid inv hinvoked
    rw [(hs.made _ hentry).1,hnsp] at hvalid
    refine ⟨call,hcall,hsid,hvalid,htimed.invoked inv hinvoked hnumber,issue,hissue,rfl,rfl,?_⟩
    rw [hvalid.id,((hs.made _ hentry).2.1.invoked inv hinvoked).1,hnumber,hpacket]
    rfl

def askedRoom : List AckBroadcastAct :=
  [.registry (.engineStore "MA==" 0),.registry (.onOpen "MA=="),.registry (.clientInfo 0 none),
    .registry (.generate 0),.registry (.connectPacket 0 "/"),.registry (.join (.call "/" ["a"] "TUE9PS0w")),
    .registry (.join (.getMut 0)),.registry (.join (.insert 0)),.create ⟨0,"/","TUE9PS0w"⟩ 0,.registry (.insert 0),
    .call "/" ["a"] (.custom "foo") (.binary [7]) 10,.lookup 0 "TUE9PS0w" 0,.start 0,.acks 0 (.push 0 0),
    .acks 0 (.tick 5),.acks 0 (.receive ⟨.ack,"/",none,some 0,0,none⟩),.acks 0 .remove,
    .acks 0 (.receive ⟨.ack,"/",none,some 0,0,none⟩)]

theorem emit_to_with_ack_once_room : ∃ s, run (step EngineIo.rfc4648) (empty ["/"]) askedRoom = some s ∧
    (s.callbacks 0 "TUE9PS0w").map Invocation.time = [5] ∧ (s.callbacks 0 "TUE9PS0w").length ≤ 1 := by
  obtain ⟨s,hs⟩ : ∃ s, run (step EngineIo.rfc4648) (empty ["/"]) askedRoom = some s := ⟨_,rfl⟩
  refine ⟨s,hs,?_,(emit_to_with_ack_once EngineIo.rfc4648 ["/"] askedRoom s hs ?_).2.2.1 0 "TUE9PS0w"⟩
  · cases hs
    rfl
  · cases hs
    decide +kernel

end AckBroadcast

end SocketIox.SocketIo
