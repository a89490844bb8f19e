import SocketIox.SocketIo.Server

/-! # Rooms as a set of memberships

What the rooms are for: a set of triples of namespace, room and session id, to which
joining adds, from which leaving removes, and from which a dropped engine session takes
everything that was generated for it. The nested maps of the server hold exactly that
set, whatever entries they make and leave behind.
-/
namespace SocketIox.SocketIo
open Wire
variable {base64 : EngineIo.Base64Crate}

inductive RoomOp where
  | join (nsp : NameSpace) (rooms : List Room) (sid : Sid)
  | leave (nsp : NameSpace) (rooms : List Room) (sid : Sid)
  | dropClient (esid : EngineSid)
  deriving DecidableEq, Repr

def Server.apply (base64 : EngineIo.Base64Crate) (s : Server) : RoomOp → Server
  | .join nsp rooms sid => s.join nsp rooms sid
  | .leave nsp rooms sid => s.leave nsp rooms sid
  | .dropClient esid => s.dropClient base64 esid

def Server.applyAll (base64 : EngineIo.Base64Crate) (s : Server) (ops : List RoomOp) : Server :=
  ops.foldl (Server.apply base64) s

abbrev Memberships := Set (NameSpace × Room × Sid)

def Memberships.of (nsp : NameSpace) (rooms : List Room) (sid : Sid) : Memberships :=
  { t | t.1 = nsp ∧ t.2.1 ∈ rooms ∧ t.2.2 = sid }

def Memberships.apply (base64 : EngineIo.Base64Crate) (S : Memberships) : RoomOp → Memberships
  | .join nsp rooms sid => S ∪ Memberships.of nsp rooms sid
  | .leave nsp rooms sid => S \ Memberships.of nsp rooms sid
  | .dropClient esid => S \ { t | GeneratedFor base64 esid t.2.2 }

def Memberships.applyAll (base64 : EngineIo.Base64Crate) (S : Memberships) (ops : List RoomOp) : Memberships :=
  ops.foldl (Memberships.apply base64) S

/-- Clients join with session ids that the two generators can have given out. -/
def RoomOp.Issued (base64 : EngineIo.Base64Crate) : RoomOp → Prop
  | .join _ _ sid => SocketIo.Issued base64 sid
  | .leave _ _ sid => SocketIo.Issued base64 sid
  | .dropClient _ => True

section Members
variable {s : Server} {nsp nsp' : NameSpace} {rooms : List Room} {sid sid' : Sid} {room : Room}

theorem Server.mem_join_iff : (s.join nsp rooms sid).rooms.Mem nsp' room sid' ↔
    s.rooms.Mem nsp' room sid' ∨ nsp' = nsp ∧ room ∈ rooms ∧ sid' = sid := by
  unfold Server.join
  induction rooms generalizing s with
  | nil => simp
  | cons first rest ih =>
    rw [List.foldl_cons,ih,Server.joinRoom,Store.Nested.mem_add_iff,List.mem_cons]
    tauto

theorem Server.mem_leave_iff : (s.leave nsp rooms sid).rooms.Mem nsp' room sid' ↔
    s.rooms.Mem nsp' room sid' ∧ ¬ (nsp' = nsp ∧ room ∈ rooms ∧ sid' = sid) := by
  unfold Server.leave
  induction rooms generalizing s with
  | nil => simp
  | cons first rest ih =>
    rw [List.foldl_cons,ih,Server.leaveRoom,Store.Nested.mem_remove_iff,List.mem_cons]
    tauto

theorem Server.mem_dropClient_iff {esid : EngineSid} : (s.dropClient base64 esid).rooms.Mem nsp room sid ↔
    s.rooms.Mem nsp room sid ∧ SidGenerator.decode base64 sid ≠ some esid := by
  rw [Server.dropClient,Store.Nested.mem_retain_iff,bne_iff_ne]

end Members

/-- The rooms hold the memberships, all of them of issued session ids. -/
structure Represents (base64 : EngineIo.Base64Crate) (s : Server) (S : Memberships) : Prop where
  members : s.rooms.members = S
  issued : ∀ t ∈ S, Issued base64 t.2.2

theorem Represents.mem_iff {s : Server} {S : Memberships} (h : Represents base64 s S) {nsp : NameSpace}
    {room : Room} {sid : Sid} : s.rooms.Mem nsp room sid ↔ (nsp,room,sid) ∈ S := by
  rw [← h.members]
  exact Iff.rfl

theorem represents_empty (on : List NameSpace) : Represents base64 (Server.empty on) ∅ := by
  constructor
  · ext ⟨nsp,room,sid⟩
    exact iff_of_false (Store.Nested.not_mem_of_lookup (AList.lookup_empty nsp)) (Set.notMem_empty _)
  · intro t ht
    exact absurd ht (Set.notMem_empty t)

/-- One operation on the maps is one operation on the set. -/
theorem Represents.apply (hb : base64.Standard) {s : Server} {S : Memberships} (h : Represents base64 s S)
    {op : RoomOp} (hop : op.Issued base64) : Represents base64 (s.apply base64 op) (S.apply base64 op) := by
  cases op with
  | join nsp rooms sid =>
    constructor
    · ext ⟨nsp',room,sid'⟩
      exact Server.mem_join_iff.trans (or_congr h.mem_iff Iff.rfl)
    · rintro t (ht | ⟨-,-,ht⟩)
      · exact h.issued t ht
      · rw [ht]
        exact hop
  | leave nsp rooms sid =>
    constructor
    · ext ⟨nsp',room,sid'⟩
      exact Server.mem_leave_iff.trans (and_congr h.mem_iff Iff.rfl)
    · intro t ht
      exact h.issued t ht.1
  | dropClient esid =>
    constructor
    · ext ⟨nsp',room,sid'⟩
      refine Server.mem_dropClient_iff.trans ?_
      rw [h.mem_iff]
      refine and_congr_right ?_
      intro ht
      exact ((h.issued _ ht).decode_eq_some_iff hb).not
    · intro t ht
      exact h.issued t ht.1

theorem Represents.applyAll (hb : base64.Standard) {ops : List RoomOp} (hops : ∀ op ∈ ops, op.Issued base64)
    {s : Server} {S : Memberships} (h : Represents base64 s S) :
    Represents base64 (s.applyAll base64 ops) (S.applyAll base64 ops) := by
  unfold Server.applyAll Memberships.applyAll
  induction ops generalizing s S with
  | nil => exact h
  | cons op rest ih =>
    rw [List.foldl_cons,List.foldl_cons]
    apply ih (fun o ho => hops o (List.mem_cons_of_mem op ho))
    exact h.apply hb (hops op List.mem_cons_self)

section Emit
variable {sid : Sid}

theorem mem_foldl_sidsOfRoom {roomClients : Store.Groups Room Sid} {rooms : List Room} {sids : Finset Sid} :
    sid ∈ rooms.foldl (Server.sidsOfRoom roomClients) sids ↔
      sid ∈ sids ∨ ∃ room ∈ rooms, roomClients.Mem room sid ∨ roomClients.lookup room = none ∧ sid = room := by
  induction rooms generalizing sids with
  | nil => simp
  | cons room rest ih =>
    rw [List.foldl_cons,ih]
    unfold Server.sidsOfRoom Store.Groups.Mem
    cases h : roomClients.lookup room with
    | none =>
      simp only [Finset.mem_insert,List.exists_mem_cons_iff,h,reduceCtorEq,false_and,exists_false,false_or,true_and]
      exact (or_congr_left or_comm).trans or_assoc
    | some members => simp [h,or_assoc]

theorem mem_sidsToEmit_of_mem {s : Server} {nsp : NameSpace} {rooms : List Room}
    (h : ∃ room ∈ rooms, s.rooms.Mem nsp room sid) : sid ∈ s.sidsToEmit nsp rooms := by
  obtain ⟨room,hr,hmem⟩ := h
  unfold Server.sidsToEmit
  cases hn : s.rooms.lookup nsp with
  | none => exact absurd hmem (Store.Nested.not_mem_of_lookup hn)
  | some roomClients =>
    exact mem_foldl_sidsOfRoom.mpr (Or.inr ⟨room,hr,Or.inl ((Store.Nested.mem_of_lookup hn).mp hmem)⟩)

theorem mem_sidsToEmit_iff {s : Server} {nsp : NameSpace} {rooms : List Room}
    (h : ∀ room ∈ rooms, ∃ sid, s.rooms.Mem nsp room sid) :
    sid ∈ s.sidsToEmit nsp rooms ↔ ∃ room ∈ rooms, s.rooms.Mem nsp room sid := by
  refine ⟨?_,mem_sidsToEmit_of_mem⟩
  unfold Server.sidsToEmit
  cases hn : s.rooms.lookup nsp with
  | none => simp
  | some roomClients =>
    simp only [mem_foldl_sidsOfRoom,Finset.notMem_empty,false_or,Store.Nested.mem_of_lookup hn]
    rintro ⟨room,hr,hmem | ⟨hnone,-⟩⟩
    · exact ⟨room,hr,hmem⟩
    · obtain ⟨member,hm⟩ := h room hr
      obtain ⟨members,hl,-⟩ := (Store.Nested.mem_of_lookup hn).mp hm
      rw [hnone] at hl
      cases hl

end Emit

/-- After any operations from the empty server the rooms are the reference set, and
rooms with members are addressed as the union of their members. -/
theorem rooms_refine (base64 : EngineIo.Base64Crate) (hb : base64.Standard) (on : List NameSpace)
    (ops : List RoomOp) (hops : ∀ op ∈ ops, op.Issued base64) :
    (∀ nsp room sid, ((Server.empty on).applyAll base64 ops).rooms.Mem nsp room sid ↔
      (nsp,room,sid) ∈ Memberships.applyAll base64 ∅ ops) ∧
    ∀ nsp rooms, (∀ room ∈ rooms, ∃ sid, (nsp,room,sid) ∈ Memberships.applyAll base64 ∅ ops) →
      ∀ sid, sid ∈ ((Server.empty on).applyAll base64 ops).sidsToEmit nsp rooms ↔
        ∃ room ∈ rooms, (nsp,room,sid) ∈ Memberships.applyAll base64 ∅ ops := by
  have h := (represents_empty on).applyAll hb hops
  constructor
  · intro nsp room sid
    exact h.mem_iff
  · intro nsp rooms hrooms sid
    simp only [← h.mem_iff] at hrooms ⊢
    exact mem_sidsToEmit_iff hrooms

def sharedRoomOps : List RoomOp :=
  [.join "/" ["a","b"] "TUE9PS0w",.join "/" ["a"] "TVE9PS0x",.leave "/" ["b"] "TUE9PS0w",.dropClient "MQ=="]

theorem rooms_refine_sharedRoom :
    (∀ nsp room sid, ((Server.empty ["/"]).applyAll EngineIo.rfc4648 sharedRoomOps).rooms.Mem nsp room sid ↔
      (nsp,room,sid) ∈ Memberships.applyAll EngineIo.rfc4648 ∅ sharedRoomOps) ∧
    ((Server.empty ["/"]).applyAll EngineIo.rfc4648 sharedRoomOps).rooms.Mem "/" "a" "TUE9PS0w" ∧
    ¬ ((Server.empty ["/"]).applyAll EngineIo.rfc4648 sharedRoomOps).rooms.Mem "/" "a" "TVE9PS0x" := by
  refine ⟨(rooms_refine EngineIo.rfc4648 EngineIo.rfc4648_standard ["/"] sharedRoomOps ?_).1,
    by decide +kernel,by decide +kernel⟩
  intro op hop
  simp only [sharedRoomOps,List.mem_cons,List.not_mem_nil,or_false] at hop
  rcases hop with rfl | rfl | rfl | rfl
  · exact issued_first
  · exact issued_second
  · exact issued_first
  · trivial

end SocketIox.SocketIo
