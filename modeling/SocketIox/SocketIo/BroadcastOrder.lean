import SocketIox.Proc.Spawned
import SocketIox.SocketIo.Server

/-! # The order of broadcasts

`emit_to` reads the session ids, looks up one client after the other and spawns a task for
every client that it finds. It returns when all tasks are spawned, whether they have sent
anything or not. The tasks of one client compete for the transport lock of its socket.
Every recipient is sent the event of every call once, but two calls that were made one
after the other keep their order only if the scheduler keeps it.
-/
namespace SocketIox.SocketIo
open Wire Proc Proc.Spawned

/-- A call of `emit_to`, with the session ids that it has still to look up. `after` records the calls
that had returned when it was made. -/
structure Broadcast where
  nsp : NameSpace
  event : Event
  payload : Payload
  pending : Finset Sid
  after : List ℕ

structure Send where
  call : ℕ
  sid : Sid
  client : Client
  event : Event
  payload : Payload

structure BroadcastState where
  server : Server
  calls : List Broadcast
  sends : Spawned.State Send

/-- Other tasks change rooms and clients; `emit_to` is called, or looks up a session id; a spawned task
takes the transport lock of its client and sends, or is done. -/
inductive BroadcastAct where
  | change (server : Server)
  | call (nsp : NameSpace) (rooms : List Room) (event : Event) (payload : Payload)
  | lookup (k : ℕ) (sid : Sid)
  | acquire (i : ℕ)
  | release (i : ℕ)

namespace BroadcastState
variable (base64 : EngineIo.Base64Crate)

def initial (server : Server) : BroadcastState := ⟨server,[],Spawned.initial⟩

def transport (send : Send) : ℕ := send.client.socket

def returned (s : BroadcastState) : List ℕ :=
  (List.range s.calls.length).filter (fun k => s.calls[k]?.map Broadcast.pending = some ∅)

def Precedes (s : BroadcastState) (k later : ℕ) : Prop := ∃ call ∈ s.calls[later]?, k ∈ call.after

instance (s : BroadcastState) (k later : ℕ) : Decidable (s.Precedes k later) :=
  inferInstanceAs (Decidable (∃ call ∈ s.calls[later]?, k ∈ call.after))

def found (s : BroadcastState) (k : ℕ) (sid : Sid) (call : Broadcast) : Option Send :=
  (s.server.client base64 sid call.nsp).map (fun client => ⟨k,sid,client,call.event,call.payload⟩)

def step (s : BroadcastState) : BroadcastAct → Option BroadcastState
  | .change server => some { s with server := server }
  | .call nsp rooms event payload => some { s with
      calls := s.calls ++ [⟨nsp,event,payload,s.server.sidsToEmit nsp rooms,s.returned⟩] }
  | .lookup k sid =>
    match s.calls[k]? with
    | some call =>
      if sid ∈ call.pending then
        let calls := s.calls.set k { call with pending := call.pending.erase sid }
        match s.found base64 k sid call with
        | some send => (Spawned.step transport s.sends (.spawn send)).map (fun sends =>
            { s with calls := calls, sends := sends })
        | none => some { s with calls := calls }
      else none
    | none => none
  | .acquire i => (Spawned.step transport s.sends (.acquire i)).map (fun sends => { s with sends := sends })
  | .release i => (Spawned.step transport s.sends (.release i)).map (fun sends => { s with sends := sends })

/-- The tasks of a client get its transport lock in the order in which they were spawned. -/
def InTurn (s : BroadcastState) : BroadcastAct → Prop
  | .acquire i => InOrder transport s.sends (.acquire i)
  | _ => True

instance (s : BroadcastState) (act : BroadcastAct) : Decidable (s.InTurn act) :=
  match act with
  | .acquire i => inferInstanceAs (Decidable (InOrder transport s.sends (.acquire i)))
  | .change _ | .call _ _ _ _ | .lookup _ _ | .release _ => isTrue trivial

def CallsInOrder (s : BroadcastState) (sends : List Send) : Prop :=
  sends.Pairwise (fun x y => transport x = transport y → ¬ s.Precedes y.call x.call)

instance (s : BroadcastState) (sends : List Send) : Decidable (s.CallsInOrder sends) :=
  inferInstanceAs (Decidable (List.Pairwise _ _))

inductive Does (s : BroadcastState) : BroadcastAct → BroadcastState → Prop
  | change (server : Server) : Does s (.change server) { s with server := server }
  | call {act : BroadcastAct} (call : Broadcast) (hafter : call.after = s.returned) :
      Does s act { s with calls := s.calls ++ [call] }
  | lookup (k : ℕ) (sid : Sid) (call : Broadcast) (hk : s.calls[k]? = some call) (hsid : sid ∈ call.pending)
      (sends : Spawned.State Send)
      (hsends : sends = s.sends ∨ ∃ send : Send, send.call = k ∧ send.sid = sid ∧
        Spawned.step transport s.sends (.spawn send) = some sends) :
      Does s (.lookup k sid) { s with
        calls := s.calls.set k { call with pending := call.pending.erase sid }, sends := sends }
  | work {act : BroadcastAct} (spawn : Spawned.Act Send) (sends : Spawned.State Send) (hjobs : spawn.jobs = [])
      (hin : s.InTurn act → InOrder transport s.sends spawn) (hsends : Spawned.step transport s.sends spawn = some sends) :
      Does s act { s with sends := sends }

variable {base64} {s t : BroadcastState} {act : BroadcastAct}

theorem step_does (h : step base64 s act = some t) : Does s act t := by
  cases act with
  | change server =>
    cases h
    exact .change server
  | call nsp rooms event payload =>
    cases h
    exact .call _ rfl
  | lookup k sid =>
    simp only [step] at h
    split at h
    · rename_i call hk
      split at h
      · rename_i hsid
        split at h
        · rename_i send hfound
          obtain ⟨sends,hsends,rfl⟩ := Option.map_eq_some_iff.mp h
          obtain ⟨client,-,rfl⟩ := Option.map_eq_some_iff.mp hfound
          exact .lookup k sid call hk hsid sends (Or.inr ⟨_,rfl,rfl,hsends⟩)
        · cases h
          exact .lookup k sid call hk hsid s.sends (Or.inl rfl)
      · cases h
    · cases h
  | acquire i =>
    obtain ⟨sends,hsends,rfl⟩ := Option.map_eq_some_iff.mp h
    exact .work (.acquire i) sends rfl (fun hin => hin) hsends
  | release i =>
    obtain ⟨sends,hsends,rfl⟩ := Option.map_eq_some_iff.mp h
    exact .work (.release i) sends rfl (fun _ => trivial) hsends

theorem precedes_iff (s : BroadcastState) (k later : ℕ) :
    s.Precedes k later ↔ ∃ after ∈ (s.calls.map Broadcast.after)[later]?, k ∈ after := by
  unfold Precedes
  rw [List.getElem?_map]
  cases s.calls[later]? <;> simp

theorem precedes_congr (h : t.calls.map Broadcast.after = s.calls.map Broadcast.after) (k later : ℕ) :
    t.Precedes k later ↔ s.Precedes k later := by
  rw [precedes_iff,precedes_iff,h]

theorem precedes_set {k : ℕ} {call : Broadcast} (hk : s.calls[k]? = some call) (pending : Finset Sid)
    (j later : ℕ) :
    Precedes { s with calls := s.calls.set k { call with pending := pending } } j later ↔ s.Precedes j later := by
  have hmap : (s.calls.set k { call with pending := pending }).map Broadcast.after = s.calls.map Broadcast.after :=
    map_set_of_eq hk rfl
  exact precedes_congr hmap j later

theorem precedes_append {call : Broadcast} {k later : ℕ}
    (h : Precedes { s with calls := s.calls ++ [call] } k later) :
    s.Precedes k later ∨ later = s.calls.length ∧ k ∈ call.after := by
  obtain ⟨other,hother,hk⟩ := h
  rcases Nat.lt_or_ge later s.calls.length with hlt | hge
  · rw [Option.mem_def,List.getElem?_append_left hlt] at hother
    exact Or.inl ⟨other,hother,hk⟩
  · rw [Option.mem_def,List.getElem?_append_right hge] at hother
    obtain ⟨hlast,hcall⟩ := List.getElem?_eq_some_iff.mp hother
    simp only [List.length_singleton] at hlast
    simp only [List.getElem_singleton] at hcall
    rw [hcall]
    exact Or.inr ⟨by omega,hk⟩

/-- Nothing is spawned for a call after it has returned, and nothing twice for a session id. -/
structure Sound (s : BroadcastState) : Prop where
  tasks : Spawned.Sound transport s.sends
  known : ∀ x ∈ s.sends.spawned, ∃ call, s.calls[x.call]? = some call ∧ x.sid ∉ call.pending
  returned : ∀ k later, s.Precedes k later → ∃ call, s.calls[k]? = some call ∧ call.pending = ∅
  order : s.sends.spawned.Pairwise (fun x y => ¬ s.Precedes y.call x.call)
  once : (s.sends.spawned.map (fun x => (x.call,x.sid))).Nodup

theorem sound_initial (server : Server) : (initial server).Sound := by
  refine ⟨Spawned.sound_initial,?_,?_,List.Pairwise.nil,List.nodup_nil⟩
  · intro x h
    cases h
  · rintro k later ⟨call,h,-⟩
    cases h

theorem mem_returned {k : ℕ} (h : k ∈ s.returned) : ∃ call, s.calls[k]? = some call ∧ call.pending = ∅ := by
  have hk := (List.mem_filter.mp h).2
  simpa using hk

theorem Sound.call (hs : s.Sound) {call : Broadcast} (hafter : call.after = s.returned) :
    Sound { s with calls := s.calls ++ [call] } := by
  have hkeep : ∀ {k : ℕ} {other : Broadcast}, s.calls[k]? = some other →
      (s.calls ++ [call])[k]? = some other := by
    intro k other hk
    rw [List.getElem?_append_left (List.getElem?_eq_some_iff.mp hk).1]
    exact hk
  refine ⟨hs.tasks,?_,?_,?_,hs.once⟩
  · intro x hx
    obtain ⟨other,hother,hsid⟩ := hs.known x hx
    exact ⟨other,hkeep hother,hsid⟩
  · intro k later hp
    have hk : ∃ other, s.calls[k]? = some other ∧ other.pending = ∅ := by
      rcases precedes_append hp with hp | ⟨-,hk⟩
      · exact hs.returned k later hp
      · exact mem_returned (hafter ▸ hk)
    obtain ⟨other,hother,hempty⟩ := hk
    exact ⟨other,hkeep hother,hempty⟩
  · refine hs.order.imp_of_mem ?_
    intro x y hx _ hnot hp
    rcases precedes_append hp with hp | ⟨hlast,-⟩
    · exact hnot hp
    · obtain ⟨other,hother,-⟩ := hs.known x hx
      have hlt := (List.getElem?_eq_some_iff.mp hother).1
      omega

theorem Sound.not_precedes (hs : s.Sound) {k : ℕ} {sid : Sid} {call : Broadcast} (hk : s.calls[k]? = some call)
    (hsid : sid ∈ call.pending) (later : ℕ) : ¬ s.Precedes k later := by
  intro hp
  obtain ⟨other,hother,hempty⟩ := hs.returned k later hp
  rw [hk] at hother
  cases hother
  rw [hempty] at hsid
  cases hsid

theorem Sound.erase (hs : s.Sound) {k : ℕ} {sid : Sid} {call : Broadcast} (hk : s.calls[k]? = some call)
    (hsid : sid ∈ call.pending) :
    Sound { s with calls := s.calls.set k { call with pending := call.pending.erase sid } } := by
  have hlt := (List.getElem?_eq_some_iff.mp hk).1
  refine ⟨hs.tasks,?_,?_,?_,hs.once⟩
  · intro x hx
    obtain ⟨other,hother,hx⟩ := hs.known x hx
    by_cases he : k = x.call
    · subst he
      rw [hk] at hother
      cases hother
      exact ⟨_,List.getElem?_set_self hlt,fun h => hx (Finset.mem_of_mem_erase h)⟩
    · exact ⟨other,by rw [List.getElem?_set_ne he,hother],hx⟩
  · intro j later hp
    have hp := (precedes_set hk _ j later).mp hp
    obtain ⟨other,hother,hempty⟩ := hs.returned j later hp
    have hne : k ≠ j := by
      rintro rfl
      exact hs.not_precedes hk hsid later hp
    exact ⟨other,by rw [List.getElem?_set_ne hne,hother],hempty⟩
  · exact hs.order.imp (fun hnot hp => hnot ((precedes_set hk _ _ _).mp hp))

theorem Sound.spawn (hs : s.Sound) {send : Send} {call : Broadcast} (hcall : s.calls[send.call]? = some call)
    (hsid : send.sid ∉ call.pending) (hopen : ∀ later, ¬ s.Precedes send.call later)
    (hnew : ∀ x ∈ s.sends.spawned, x.call = send.call → x.sid ≠ send.sid) {sends : Spawned.State Send}
    (h : Spawned.step transport s.sends (.spawn send) = some sends) : Sound { s with sends := sends } := by
  have hspawned : sends.spawned = s.sends.spawned ++ [send] := Spawned.step_spawned h
  refine ⟨Spawned.step_sound hs.tasks h,?_,hs.returned,?_,?_⟩
  · intro x hx
    rw [hspawned,List.mem_append,List.mem_singleton] at hx
    rcases hx with hx | rfl
    · exact hs.known x hx
    · exact ⟨call,hcall,hsid⟩
  · rw [hspawned]
    refine pairwise_append_singleton hs.order ?_
    intro x _
    exact hopen x.call
  · rw [hspawned,List.map_append,List.map_singleton]
    refine pairwise_append_singleton hs.once ?_
    intro pair hpair heq
    obtain ⟨x,hx,rfl⟩ := List.mem_map.mp hpair
    rw [Prod.mk.injEq] at heq
    exact hnew x hx heq.1 heq.2

theorem step_sound (hs : s.Sound) (h : step base64 s act = some t) : t.Sound := by
  cases step_does h with
  | change server => exact ⟨hs.tasks,hs.known,hs.returned,hs.order,hs.once⟩
  | call call hafter => exact hs.call hafter
  | lookup k sid call hk hsid sends hsends =>
    rcases hsends with rfl | ⟨send,rfl,rfl,hsends⟩
    · exact hs.erase hk hsid
    · refine (hs.erase hk hsid).spawn (List.getElem?_set_self (List.getElem?_eq_some_iff.mp hk).1)
        (Finset.notMem_erase _ _) ?_ ?_ hsends
      · intro later hp
        exact hs.not_precedes hk hsid later ((precedes_set hk _ _ _).mp hp)
      · intro x hx hcall hsame
        obtain ⟨other,hother,hnot⟩ := hs.known x hx
        rw [hcall,hk] at hother
        cases hother
        exact hnot (hsame ▸ hsid)
  | work spawn sends hjobs hin hsends =>
    have hspawned : sends.spawned = s.sends.spawned := by
      rw [Spawned.step_spawned hsends,hjobs,List.append_nil]
    refine ⟨Spawned.step_sound hs.tasks hsends,?_,hs.returned,?_,?_⟩
    · rw [hspawned]
      exact hs.known
    · rw [hspawned]
      exact hs.order
    · rw [hspawned]
      exact hs.once

/-- The sends to each client are in the order of spawning. -/
def SendsOrdered (s : BroadcastState) : Prop := Ordered transport s.sends

theorem step_ordered (hin : s.InTurn act) (hs : s.SendsOrdered) (h : step base64 s act = some t) :
    t.SendsOrdered := by
  cases step_does h with
  | change | call => exact hs
  | lookup k sid call hk hsid sends hsends =>
    rcases hsends with rfl | ⟨send,-,-,hsends⟩
    · exact hs
    · exact Spawned.step_ordered (show InOrder transport s.sends (.spawn send) from trivial) hs hsends
  | work spawn sends hjobs hin' hsends => exact Spawned.step_ordered (hin' hin) hs hsends

theorem SendsOrdered.callsInOrder (ho : s.SendsOrdered) (hs : s.Sound) : s.CallsInOrder s.sends.log := by
  have hlog : ∀ socket, (ofClass transport socket s.sends.log).Pairwise
      (fun x y => ¬ s.Precedes y.call x.call) := by
    intro socket
    have hall : (ofClass transport socket (s.sends.log ++ s.sends.waiting)).Pairwise
        (fun x y => ¬ s.Precedes y.call x.call) := by
      rw [ho socket]
      exact hs.order.filter _
    rw [ofClass,List.filter_append] at hall
    exact (List.pairwise_append.mp hall).1
  exact pairwise_of_ofClass transport hlog

end BroadcastState

open BroadcastState

/-- Every client that a call finds is sent its event once, one send at a time; and the sends to a client
follow the order of the calls as far as its tasks get the transport lock in the order of spawning. -/
theorem broadcasts_one_by_one (base64 : EngineIo.Base64Crate) (server : Server) (acts : List BroadcastAct)
    (s : BroadcastState) (hrun : run (step base64) (initial server) acts = some s) :
    (∀ socket, (ofClass transport socket s.sends.running).length ≤ 1) ∧
    (s.sends.log ++ s.sends.waiting).Perm s.sends.spawned ∧
    (s.sends.spawned.map (fun x => (x.call,x.sid))).Nodup ∧
    (Along (step base64) InTurn (initial server) acts → s.CallsInOrder s.sends.log) := by
  have hs : s.Sound := run_preserves (fun s act t => BroadcastState.step_sound) (sound_initial server) hrun
  refine ⟨hs.tasks.ofClass_running_le_one (fun x y h => h),hs.tasks.accounts,hs.once,?_⟩
  intro hin
  have hinitial : (initial server).SendsOrdered := ordered_initial transport
  have ho : s.SendsOrdered := run_preserves_along (fun s act t => BroadcastState.step_ordered) hin hinitial hrun
  exact ho.callsInOrder hs

def serverWithRoom : Server :=
  ((Server.empty ["/"]).insertClients 0 "/" "MA==" "TUE9PS0w").join "/" ["a"] "TUE9PS0w"

def twoBroadcasts : List BroadcastAct :=
  [.call "/" ["a"] (.custom "e1") (.json .null),.lookup 0 "TUE9PS0w",
    .call "/" ["a"] (.custom "e2") (.json .null),.lookup 1 "TUE9PS0w"]

theorem broadcasts_one_by_one_inTurn :
    ∃ s, run (step EngineIo.rfc4648) (initial serverWithRoom)
        (twoBroadcasts ++ [.acquire 0,.release 0,.acquire 0]) = some s ∧
      s.sends.log.map Send.event = [.custom "e1",.custom "e2"] ∧ s.CallsInOrder s.sends.log := by
  refine ⟨_,rfl,by decide +kernel,?_⟩
  exact (broadcasts_one_by_one EngineIo.rfc4648 serverWithRoom
    (twoBroadcasts ++ [.acquire 0,.release 0,.acquire 0]) _ rfl).2.2.2 (by decide +kernel)

/-- The task of the second broadcast gets the lock first. -/
theorem broadcasts_out_of_order :
    ∃ s, run (step EngineIo.rfc4648) (initial serverWithRoom)
        (twoBroadcasts ++ [.acquire 1,.release 0,.acquire 0,.release 0]) = some s ∧
      s.sends.waiting = [] ∧ s.Precedes 0 1 ∧
      s.sends.log.map (fun x => (x.call,x.client.sid,x.event)) =
        [(1,"TUE9PS0w",.custom "e2"),(0,"TUE9PS0w",.custom "e1")] ∧
      ¬ s.CallsInOrder s.sends.log := by
  exact ⟨_,rfl,rfl,by decide +kernel,by decide +kernel,by decide +kernel⟩

end SocketIox.SocketIo
