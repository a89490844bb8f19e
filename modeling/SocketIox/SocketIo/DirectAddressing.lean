import SocketIox.SocketIo.RoomMembership

/-! # Addressing a client by its session id

A name that is no room of the namespace is taken as a session id. Entries of rooms are
made by the first join and never go away, and a namespace without any entry is not
looked at, so it is the joins of the past that decide how a name is read.
-/
namespace SocketIox.SocketIo
open Wire
variable {base64 : EngineIo.Base64Crate}

/-- Registrations, with a session id generated for the engine session, and room operations. -/
inductive ServerOp where
  | insertClients (socket : ℕ) (nsp : NameSpace) (esid : EngineSid) (seq : UInt64)
  | room (op : RoomOp)
  deriving DecidableEq, Repr

def Server.perform (base64 : EngineIo.Base64Crate) (s : Server) : ServerOp → Server
  | .insertClients socket nsp esid seq =>
    s.insertClients socket nsp esid (SidGenerator.generate base64 esid seq)
  | .room op => s.apply base64 op

def Server.performAll (base64 : EngineIo.Base64Crate) (s : Server) (ops : List ServerOp) : Server :=
  ops.foldl (Server.perform base64) s

def ServerOp.Issued (base64 : EngineIo.Base64Crate) : ServerOp → Prop
  | .insertClients _ _ esid _ => EngineIo.Issued base64 esid
  | .room _ => True

def ServerOp.Joins (nsp : NameSpace) (room : Room) : ServerOp → Prop
  | .room (.join nsp' rooms _) => nsp' = nsp ∧ room ∈ rooms
  | _ => False

def JoinedEver (ops : List ServerOp) (nsp : NameSpace) (room : Room) : Prop :=
  ∃ op ∈ ops, op.Joins nsp room

section Unchanged
variable (s : Server) (nsp : NameSpace) (rooms : List Room) (sid : Sid)

@[simp] theorem Server.join_clients : (s.join nsp rooms sid).clients = s.clients := by
  unfold Server.join
  induction rooms generalizing s with
  | nil => rfl
  | cons room rest ih => rw [List.foldl_cons,ih,Server.joinRoom]

@[simp] theorem Server.leave_clients : (s.leave nsp rooms sid).clients = s.clients := by
  unfold Server.leave
  induction rooms generalizing s with
  | nil => rfl
  | cons room rest ih => rw [List.foldl_cons,ih,Server.leaveRoom]

@[simp] theorem Server.insertClients_rooms (socket : ℕ) (esid : EngineSid) :
    (s.insertClients socket nsp esid sid).rooms = s.rooms := by
  unfold Server.insertClients
  split <;> rfl

end Unchanged

theorem perform_keyedByDecode (hb : base64.Standard) {s : Server} (h : KeyedByDecode base64 s.clients)
    {op : ServerOp} (hop : op.Issued base64) : KeyedByDecode base64 (s.perform base64 op).clients := by
  cases op with
  | insertClients socket nsp esid seq =>
    simp only [Server.perform,Server.insertClients]
    split
    · exact h.put (decode_generate hb (EngineIo.Issued.hyphen_not_mem hb hop) seq) nsp _
    · exact h
  | room op =>
    cases op with
    | join nsp rooms sid => simpa [Server.perform,Server.apply] using h
    | leave nsp rooms sid => simpa [Server.perform,Server.apply] using h
    | dropClient esid => exact h.erase esid

section Entries
variable {s : Server} {nsp nsp' : NameSpace} {rooms : List Room} {sid : Sid} {room : Room}

theorem Server.hasGroup_join_iff : (s.join nsp rooms sid).rooms.HasGroup nsp' room ↔
    s.rooms.HasGroup nsp' room ∨ nsp = nsp' ∧ room ∈ rooms := by
  unfold Server.join
  induction rooms generalizing s with
  | nil => simp
  | cons first rest ih =>
    rw [List.foldl_cons,ih,Server.joinRoom,Store.Nested.hasGroup_add_iff,List.mem_cons,eq_comm]
    tauto

theorem Server.hasGroup_leave_iff : (s.leave nsp rooms sid).rooms.HasGroup nsp' room ↔
    s.rooms.HasGroup nsp' room := by
  unfold Server.leave
  induction rooms generalizing s with
  | nil => exact Iff.rfl
  | cons first rest ih => rw [List.foldl_cons,ih,Server.leaveRoom,Store.Nested.hasGroup_remove_iff]

theorem hasGroup_perform_iff {op : ServerOp} : (s.perform base64 op).rooms.HasGroup nsp room ↔
    s.rooms.HasGroup nsp room ∨ op.Joins nsp room := by
  cases op with
  | insertClients socket nsp' esid seq => simp [Server.perform,ServerOp.Joins]
  | room op =>
    cases op with
    | join nsp' rooms sid => exact Server.hasGroup_join_iff
    | leave nsp' rooms sid => exact Server.hasGroup_leave_iff.trans (or_false _).symm.to_iff
    | dropClient esid => exact Store.Nested.hasGroup_retain_iff.trans (or_false _).symm.to_iff

theorem Server.mem_rooms_join_iff : nsp' ∈ (s.join nsp rooms sid).rooms ↔
    nsp' ∈ s.rooms ∨ nsp = nsp' ∧ ∃ room, room ∈ rooms := by
  unfold Server.join
  induction rooms generalizing s with
  | nil => simp
  | cons first rest ih =>
    rw [List.foldl_cons,ih,Server.joinRoom,Store.Nested.mem_keys_add_iff,eq_comm]
    have hroom : ∃ room, room ∈ first :: rest := ⟨first,List.mem_cons_self⟩
    simp only [hroom,and_true]
    tauto

theorem Server.mem_rooms_leave_iff : nsp' ∈ (s.leave nsp rooms sid).rooms ↔ nsp' ∈ s.rooms := by
  unfold Server.leave
  induction rooms generalizing s with
  | nil => exact Iff.rfl
  | cons first rest ih => rw [List.foldl_cons,ih,Server.leaveRoom,Store.Nested.mem_keys_remove_iff]

theorem mem_rooms_perform_iff {op : ServerOp} : nsp ∈ (s.perform base64 op).rooms ↔
    nsp ∈ s.rooms ∨ ∃ room, op.Joins nsp room := by
  cases op with
  | insertClients socket nsp' esid seq => simp [Server.perform,ServerOp.Joins]
  | room op =>
    cases op with
    | join nsp' rooms sid =>
      simp only [ServerOp.Joins,exists_and_left]
      exact Server.mem_rooms_join_iff
    | leave nsp' rooms sid =>
      simp only [ServerOp.Joins,exists_false,or_false]
      exact Server.mem_rooms_leave_iff
    | dropClient esid => simp [Server.perform,Server.apply,Server.dropClient,ServerOp.Joins]

theorem hasGroup_performAll_iff (ops : List ServerOp) :
    (s.performAll base64 ops).rooms.HasGroup nsp room ↔ s.rooms.HasGroup nsp room ∨ JoinedEver ops nsp room := by
  unfold Server.performAll JoinedEver
  induction ops generalizing s with
  | nil => simp
  | cons op rest ih => rw [List.foldl_cons,ih,hasGroup_perform_iff,List.exists_mem_cons_iff,or_assoc]

theorem mem_rooms_performAll_iff (ops : List ServerOp) :
    nsp ∈ (s.performAll base64 ops).rooms ↔ nsp ∈ s.rooms ∨ ∃ room, JoinedEver ops nsp room := by
  unfold Server.performAll JoinedEver
  induction ops generalizing s with
  | nil => simp
  | cons op rest ih =>
    rw [List.foldl_cons,ih,mem_rooms_perform_iff,or_assoc]
    simp only [List.exists_mem_cons_iff,exists_or]

end Entries

theorem performAll_keyedByDecode (hb : base64.Standard) {ops : List ServerOp}
    (hops : ∀ op ∈ ops, op.Issued base64) {s : Server} (h : KeyedByDecode base64 s.clients) :
    KeyedByDecode base64 (s.performAll base64 ops).clients := by
  unfold Server.performAll
  induction ops generalizing s with
  | nil => exact h
  | cons op rest ih =>
    rw [List.foldl_cons]
    apply ih (fun o ho => hops o (List.mem_cons_of_mem op ho))
    exact perform_keyedByDecode hb h (hops op List.mem_cons_self)

section Emit
variable {s : Server} {nsp : NameSpace} {sid : Sid} {client : Client}

theorem sidsToEmit_singleton (hroom : ∀ member, ¬ s.rooms.Mem nsp sid member) :
    nsp ∈ s.rooms ∧ ¬ s.rooms.HasGroup nsp sid ∧ s.sidsToEmit nsp [sid] = {sid} ∨
      ¬ (nsp ∈ s.rooms ∧ ¬ s.rooms.HasGroup nsp sid) ∧ s.sidsToEmit nsp [sid] = ∅ := by
  unfold Server.sidsToEmit
  cases hn : s.rooms.lookup nsp with
  | none =>
    right
    exact ⟨fun h => AList.lookup_eq_none.mp hn h.1,rfl⟩
  | some roomClients =>
    have hmem : nsp ∈ s.rooms := AList.lookup_isSome.mp (by simp [hn])
    rw [Store.Nested.hasGroup_of_lookup hn]
    simp only [List.foldl_cons,List.foldl_nil,Server.sidsOfRoom]
    cases hs : roomClients.lookup sid with
    | none =>
      left
      exact ⟨hmem,AList.lookup_eq_none.mp hs,by simp⟩
    | some members =>
      right
      have hempty : members = ∅ := by
        apply Finset.eq_empty_of_forall_notMem
        intro member hm
        exact hroom member ⟨roomClients,hn,members,hs,hm⟩
      refine ⟨fun h => h.2 (AList.lookup_isSome.mp (by simp [hs])),?_⟩
      simp [hempty]

theorem emitTo_of_sidsToEmit_empty {rooms : List Room} (h : s.sidsToEmit nsp rooms = ∅) (event : Event)
    (payload : Payload) : s.emitTo base64 nsp rooms event payload = ∅ := by
  rw [Server.emitTo,h,Finset.biUnion_empty,Finset.map_empty]

theorem emitTo_of_sidsToEmit_singleton {rooms : List Room} (h : s.sidsToEmit nsp rooms = {sid})
    (hc : s.client base64 sid nsp = some client) (event : Event) (payload : Payload) :
    s.emitTo base64 nsp rooms event payload = {(client,event,payload)} := by
  rw [Server.emitTo,h,Finset.singleton_biUnion,hc,Option.toFinset_some,Finset.map_singleton]
  rfl

end Emit

/-- After any history, a registered client is reached by its session id alone precisely
when some room of its namespace was joined before and none of the name of the session id. -/
theorem direct_addressing_iff (base64 : EngineIo.Base64Crate) (hb : base64.Standard) (on : List NameSpace)
    (ops : List ServerOp) (hops : ∀ op ∈ ops, op.Issued base64) (nsp : NameSpace) (esid : EngineSid) (sid : Sid)
    (client : Client) (event : Event) (payload : Payload)
    (hclient : ((Server.empty on).performAll base64 ops).clients.get esid sid nsp = some client)
    (hroom : ∀ member, ¬ ((Server.empty on).performAll base64 ops).rooms.Mem nsp sid member) :
    ((Server.empty on).performAll base64 ops).emitTo base64 nsp [sid] event payload = {(client,event,payload)} ↔
      (∃ room, JoinedEver ops nsp room) ∧ ¬ JoinedEver ops nsp sid := by
  have hkeyed := performAll_keyedByDecode hb hops (s := Server.empty on) keyedByDecode_empty
  have hlookup := hkeyed.client_eq_some_iff.mpr ⟨esid,hclient⟩
  have hspace : nsp ∈ ((Server.empty on).performAll base64 ops).rooms ↔ ∃ room, JoinedEver ops nsp room := by
    rw [mem_rooms_performAll_iff]
    exact or_iff_right (AList.notMem_empty nsp)
  have hgroup : ((Server.empty on).performAll base64 ops).rooms.HasGroup nsp sid ↔ JoinedEver ops nsp sid := by
    rw [hasGroup_performAll_iff]
    exact or_iff_right (Store.Nested.not_hasGroup_of_lookup (AList.lookup_empty nsp))
  rw [← hspace,← hgroup]
  rcases sidsToEmit_singleton hroom with ⟨hn,hg,hsids⟩ | ⟨hnot,hsids⟩
  · exact iff_of_true (emitTo_of_sidsToEmit_singleton hsids hlookup event payload) ⟨hn,hg⟩
  · rw [emitTo_of_sidsToEmit_empty hsids]
    exact iff_of_false (Finset.singleton_ne_empty _).symm hnot

def joinedOps : List ServerOp := [.insertClients 0 "/" "MA==" 0,.room (.join "/" ["a"] "TUE9PS0w")]

theorem direct_addressing_joined :
    ((Server.empty ["/"]).performAll EngineIo.rfc4648 joinedOps).emitTo EngineIo.rfc4648 "/" ["TUE9PS0w"]
        (Event.fromString "foo") (.multi []) =
      {(⟨0,"/","TUE9PS0w"⟩,Event.fromString "foo",.multi [])} := by
  apply (direct_addressing_iff EngineIo.rfc4648 EngineIo.rfc4648_standard ["/"] joinedOps ?_ "/" "MA=="
    "TUE9PS0w" ⟨0,"/","TUE9PS0w"⟩ (Event.fromString "foo") (.multi []) (by decide +kernel) ?_).mpr
  · refine ⟨⟨"a",_,List.mem_cons_of_mem _ List.mem_cons_self,rfl,List.mem_cons_self⟩,?_⟩
    rintro ⟨op,hop,hjoins⟩
    simp only [joinedOps,List.mem_cons,List.not_mem_nil,or_false] at hop
    rcases hop with rfl | rfl
    · exact hjoins
    · exact absurd hjoins.2 (by decide)
  · intro op hop
    simp only [joinedOps,List.mem_cons,List.not_mem_nil,or_false] at hop
    rcases hop with rfl | rfl
    · exact ⟨0,by decide +kernel⟩
    · trivial
  · intro member hmem
    have hgroup : ((Server.empty ["/"]).performAll EngineIo.rfc4648 joinedOps).rooms.lookup "/" =
        some (AList.singleton "a" {"TUE9PS0w"}) := rfl
    obtain ⟨members,hm,-⟩ := (Store.Nested.mem_of_lookup hgroup).mp hmem
    cases hm

def emptiedRoomOps : List ServerOp :=
  [.insertClients 0 "/" "MA==" 0,.room (.join "/" ["TUE9PS0w"] "TUE9PS0w"),
    .room (.leave "/" ["TUE9PS0w"] "TUE9PS0w")]

/-- The client is registered, no room of that name has a member, and nothing is sent. -/
def Unreached (ops : List ServerOp) : Prop :=
  ((Server.empty ["/"]).performAll EngineIo.rfc4648 ops).clients.get "MA==" "TUE9PS0w" "/" =
      some ⟨0,"/","TUE9PS0w"⟩ ∧
    (∀ member, ¬ ((Server.empty ["/"]).performAll EngineIo.rfc4648 ops).rooms.Mem "/" "TUE9PS0w" member) ∧
    ((Server.empty ["/"]).performAll EngineIo.rfc4648 ops).emitTo EngineIo.rfc4648 "/" ["TUE9PS0w"]
      (Event.fromString "foo") (.multi []) = ∅

/-- Nobody has joined any room, or a room of that name was emptied. -/
theorem direct_addressing_unreached :
    Unreached [.insertClients 0 "/" "MA==" 0] ∧ Unreached emptiedRoomOps := by
  constructor
  · refine ⟨by decide +kernel,?_,emitTo_of_sidsToEmit_empty (by decide +kernel) _ _⟩
    intro member
    exact Store.Nested.not_mem_of_lookup (by decide +kernel)
  · refine ⟨by decide +kernel,?_,emitTo_of_sidsToEmit_empty (by decide +kernel) _ _⟩
    intro member hmem
    have hgroup : ((Server.empty ["/"]).performAll EngineIo.rfc4648 emptiedRoomOps).rooms.lookup "/" =
        some (AList.singleton "TUE9PS0w" ∅) := rfl
    obtain ⟨members,hm,ha⟩ := (Store.Nested.mem_of_lookup hgroup).mp hmem
    cases hm
    exact absurd ha (Finset.notMem_empty member)

end SocketIox.SocketIo
