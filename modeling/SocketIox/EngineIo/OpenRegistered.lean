import SocketIox.EngineIo.Server

/-! # Sockets are registered when their opening is received

`Socket::connect` publishes `OnOpen` before `store_transport` inserts the socket. A
consumer that receives the event finds the socket precisely when the insert came first
and no later connection was stored under the same session id.
-/
namespace SocketIox.EngineIo
open Wire Proc

theorem find?_eq_some_iff_takeWhile {ι κ : Type*} [DecidableEq ι] [DecidableEq κ] {log : List (ι × κ)} {i : ι} {k : κ}
    (hn : (log.map Prod.fst).Nodup) (h : (i,k) ∈ log) :
    log.find? (fun p => p.2 = k) = some (i,k) ↔ ∀ p ∈ log.takeWhile (fun p => p.1 ≠ i), p.2 ≠ k := by
  induction log with
  | nil => cases h
  | cons first rest ih =>
    obtain ⟨hfirst,hrest⟩ := List.nodup_cons.mp hn
    rcases List.mem_cons.mp h with rfl | h
    · simp
    · have hne : first.1 ≠ i := by
        rintro rfl
        exact hfirst (List.mem_map.mpr ⟨_,h,rfl⟩)
      by_cases hk : first.2 = k
      · simp [hk,hne,Prod.ext_iff]
      · simp [hk,hne,ih hrest h]

namespace Server
variable {base64 : Base64Crate} {s t : Server} {act : ServerAct}

def socket (s : Server) (sid : String) : Option ℕ := s.sockets.lookup sid

/-- The consumer that receives an opening finds the socket of its connection, unless
`close_socket` has run. -/
def Registered (s : Server) : ServerAct → Prop
  | .receive => ∀ conn sid, s.events.head? = some (.onOpen conn sid) → sid ∉ s.closed → s.socket sid = some conn
  | _ => True

/-- The consumer receives an opening when the connection has been stored, and no other
one after it under the same session id. -/
def ReceivesStored (s : Server) : ServerAct → Prop
  | .receive => ∀ conn sid, s.events.head? = some (.onOpen conn sid) → sid ∉ s.closed →
      (∀ opening ∈ s.openings, opening.conn ≠ conn) ∧
      ∀ p ∈ s.stored.takeWhile (fun p => p.1 ≠ conn), p.2 ≠ sid
  | _ => True

def conns (s : Server) : List ℕ := s.stored.map Prod.fst ++ s.openings.map Opening.conn

/-- The sockets are those stored last, published openings come from connections, and
connections have numbers of their own. -/
structure Traced (s : Server) : Prop where
  lookup : ∀ sid, sid ∉ s.closed → s.socket sid = (s.stored.find? (fun p => p.2 = sid)).map Prod.fst
  origin : ∀ conn sid, .onOpen conn sid ∈ s.events → (conn,sid) ∈ s.stored ∨
    ∃ opening ∈ s.openings, opening.conn = conn ∧ opening.sid = sid ∧ opening.stage = .published
  distinct : s.conns.Nodup
  numbered : ∀ conn ∈ s.conns, conn < s.opened

theorem traced_fresh : Traced Server.fresh := by
  constructor
  · intro sid _
    rfl
  · intro conn sid h
    cases h
  · exact List.nodup_nil
  · intro conn h
    cases h

theorem Traced.registered_iff (hs : s.Traced) {conn : ℕ} {sid : String} (hevent : .onOpen conn sid ∈ s.events)
    (hsid : sid ∉ s.closed) :
    s.socket sid = some conn ↔ (∀ opening ∈ s.openings, opening.conn ≠ conn) ∧
      ∀ p ∈ s.stored.takeWhile (fun p => p.1 ≠ conn), p.2 ≠ sid := by
  obtain ⟨hstored,-,hdisjoint⟩ := List.nodup_append.mp hs.distinct
  rw [hs.lookup sid hsid]
  constructor
  · intro h
    obtain ⟨⟨conn',sid'⟩,hfind,rfl⟩ := Option.map_eq_some_iff.mp h
    obtain rfl : sid' = sid := by simpa using List.find?_some hfind
    have hmem := List.mem_of_find?_eq_some hfind
    refine ⟨?_,(find?_eq_some_iff_takeWhile hstored hmem).mp hfind⟩
    intro opening ho he
    exact hdisjoint _ (List.mem_map_of_mem hmem) _ (List.mem_map_of_mem ho) he.symm
  · rintro ⟨hopenings,hlater⟩
    have hmem : (conn,sid) ∈ s.stored := by
      refine (hs.origin conn sid hevent).resolve_right ?_
      rintro ⟨opening,ho,he,-⟩
      exact hopenings opening ho he
    rw [(find?_eq_some_iff_takeWhile hstored hmem).mpr hlater]
    rfl

theorem Traced.openBegin (hs : s.Traced) (polling : Bool) : (s.openBegin base64 polling).Traced := by
  have hconns : (s.openBegin base64 polling).conns = s.conns ++ [s.opened] := by simp [conns,Server.openBegin]
  constructor
  · exact hs.lookup
  · intro conn sid h
    refine (hs.origin conn sid h).imp_right ?_
    rintro ⟨opening,ho,hp⟩
    exact ⟨opening,List.mem_append_left _ ho,hp⟩
  · rw [hconns]
    refine hs.distinct.append (List.nodup_singleton _) ?_
    intro conn hmem hnew
    rw [List.mem_singleton.mp hnew] at hmem
    exact absurd (hs.numbered _ hmem) (lt_irrefl _)
  · rw [hconns]
    intro conn h
    rcases List.mem_append.mp h with h | h
    · exact Nat.lt_succ_of_lt (hs.numbered conn h)
    · rw [List.mem_singleton.mp h]
      exact Nat.lt_succ_self _

theorem Traced.openEnd (hs : s.Traced) {i : ℕ} {opening : Opening} (hi : s.openings[i]? = some opening)
    (hstage : opening.stage ≠ .published) : { s with openings := s.openings.eraseIdx i }.Traced := by
  have hsub : (conns { s with openings := s.openings.eraseIdx i }).Sublist s.conns :=
    (List.Sublist.refl _).append ((List.eraseIdx_sublist _ _).map _)
  constructor
  · exact hs.lookup
  · intro conn sid h
    refine (hs.origin conn sid h).imp_right ?_
    rintro ⟨o,ho,hconn,hsid,hp⟩
    rcases eq_or_mem_eraseIdx hi ho with rfl | ho
    · exact absurd hp hstage
    · exact ⟨o,ho,hconn,hsid,hp⟩
  · exact hs.distinct.sublist hsub
  · intro conn h
    exact hs.numbered conn (hsub.subset h)

theorem Traced.setStage (hs : s.Traced) {i : ℕ} {opening : Opening} (hi : s.openings[i]? = some opening)
    (hstage : opening.stage ≠ .published) {stage : OpenStage} {handles : Finset String} {connected : List (ℕ × String)}
    {events : List ServerEvent}
    (hevents : ∀ conn sid, .onOpen conn sid ∈ events → .onOpen conn sid ∈ s.events ∨
      stage = .published ∧ opening.conn = conn ∧ opening.sid = sid) :
    { s with openings := s.openings.set i { opening with stage := stage }, pollingHandles := handles,
             connected := connected, events := events }.Traced := by
  have hmap : (s.openings.set i { opening with stage := stage }).map Opening.conn = s.openings.map Opening.conn :=
    map_set_of_eq hi rfl
  constructor
  · exact hs.lookup
  · intro conn sid h
    rcases hevents conn sid h with h | ⟨rfl,rfl,rfl⟩
    · refine (hs.origin conn sid h).imp_right ?_
      rintro ⟨o,ho,hconn,hsid,hp⟩
      rcases eq_or_mem_set hi ho with rfl | ho
      · exact absurd hp hstage
      · exact ⟨o,ho,hconn,hsid,hp⟩
    · exact Or.inr ⟨_,mem_set_new hi,rfl,rfl,rfl⟩
  · unfold conns
    rw [hmap]
    exact hs.distinct
  · unfold conns
    rw [hmap]
    exact hs.numbered

theorem Traced.openStore (hs : s.Traced) {i : ℕ} {opening : Opening} (hi : s.openings[i]? = some opening) :
    (s.openStore i opening).Traced := by
  have hconns : (s.openStore i opening).conns.Perm s.conns := by
    refine List.perm_middle.symm.trans ?_
    exact List.Perm.append_left _ ((perm_cons_eraseIdx hi).map Opening.conn).symm
  constructor
  · intro sid hsid
    by_cases he : opening.sid = sid
    · subst he
      simp [Server.openStore,socket]
    · have hne : sid ≠ opening.sid := fun h => he h.symm
      simp only [Server.openStore,socket,AList.lookup_insert_ne hne,he,decide_false,Bool.false_eq_true,
        not_false_eq_true,List.find?_cons_of_neg]
      exact hs.lookup sid hsid
  · intro conn sid h
    rcases hs.origin conn sid h with hmem | ⟨o,ho,rfl,rfl,hp⟩
    · exact Or.inl (List.mem_cons_of_mem _ hmem)
    · rcases eq_or_mem_eraseIdx hi ho with rfl | ho
      · exact Or.inl List.mem_cons_self
      · exact Or.inr ⟨o,ho,rfl,rfl,hp⟩
  · exact hconns.nodup_iff.mpr hs.distinct
  · intro conn h
    exact hs.numbered conn (hconns.mem_iff.mp h)

theorem Traced.closeSocket (hs : s.Traced) (sid : String) (pings : List String) :
    ({ s with pings := pings }.closeSocket sid).Traced := by
  unfold Server.closeSocket
  split
  · refine ⟨?_,hs.origin,hs.distinct,hs.numbered⟩
    intro sid' hsid'
    obtain ⟨hne,hold⟩ := List.ne_and_not_mem_of_not_mem_cons hsid'
    have hlookup := AList.lookup_erase_ne (s := s.sockets) hne
    exact hlookup.trans (hs.lookup sid' hold)
  · refine ⟨?_,hs.origin,hs.distinct,hs.numbered⟩
    intro sid' hsid'
    exact hs.lookup sid' (List.not_mem_of_not_mem_cons hsid')

theorem Traced.publishClose (hs : s.Traced) (socket : ℕ × String) (closings : List (ℕ × String)) :
    ({ s with closings := closings }.publishClose socket).Traced := by
  unfold Server.publishClose
  split
  · refine ⟨hs.lookup,?_,hs.distinct,hs.numbered⟩
    intro conn sid h
    rcases List.mem_append.mp h with h | h
    · exact hs.origin conn sid h
    · cases List.mem_singleton.mp h
  · exact ⟨hs.lookup,hs.origin,hs.distinct,hs.numbered⟩

theorem step_traced (hs : s.Traced) (h : step base64 s act = some t) : t.Traced := by
  cases step_does h with
  | openBegin polling => exact hs.openBegin polling
  | openEnd i opening hi hact =>
    refine hs.openEnd hi ?_
    rcases hact with ⟨-,-,hstage⟩ | ⟨-,hconnects⟩
    · simp [hstage]
    · exact Opening.not_published_of_connects hconnects
  | openHandle i opening hi hpolling hstage =>
    exact hs.setStage hi (by simp [hstage]) (fun conn sid h => Or.inl h)
  | openPublish i opening hi hconnects =>
    refine hs.setStage hi (Opening.not_published_of_connects hconnects) ?_
    intro conn sid h
    rcases List.mem_append.mp h with h | h
    · exact Or.inl h
    · cases List.mem_singleton.mp h
      exact Or.inr ⟨rfl,rfl,rfl⟩
  | openStore i opening hi hstage => exact hs.openStore hi
  | receive event rest hevents =>
    refine ⟨hs.lookup,?_,hs.distinct,hs.numbered⟩
    intro conn sid h
    exact hs.origin conn sid (hevents ▸ List.mem_cons_of_mem _ h)
  | closeSocket sid pings hact => exact hs.closeSocket sid pings
  | publishClose socket closings => exact hs.publishClose socket closings
  | upgrade upgrades handles hhandles => exact ⟨hs.lookup,hs.origin,hs.distinct,hs.numbered⟩

end Server

open Server

/-- In every run the consumer finds the socket of each opening that it receives precisely
when it receives each of them after the connection was stored. -/
theorem open_registered_iff (base64 : Base64Crate) (acts : List ServerAct) :
    Along (step base64) Registered Server.fresh acts ↔ Along (step base64) ReceivesStored Server.fresh acts := by
  apply along_iff_along _ _ traced_fresh
  · intro s act hs
    cases act with
    | receive =>
      refine forall₄_congr ?_
      intro conn sid hevent hsid
      exact hs.registered_iff (List.mem_of_mem_head? hevent) hsid
    | _ => exact Iff.rfl
  · intro s act t _ hs h
    exact step_traced hs h

theorem open_unregistered :
    ∃ s t, run (step rfc4648) Server.fresh [.openBegin false,.openPublish 0] = some s ∧
      run (step rfc4648) s [.receive,.openStore 0] = some t ∧
      s.events.head? = some (.onOpen 0 "MA==") ∧ "MA==" ∉ s.closed ∧ s.socket "MA==" = none ∧ ¬ s.Registered .receive :=
  ⟨_,_,rfl,rfl,by decide +kernel,by decide +kernel,by decide +kernel,by
    intro h
    have hsome := h 0 "MA==" (by decide +kernel) (by decide +kernel)
    revert hsome
    decide +kernel⟩

end SocketIox.EngineIo
