import Mathlib.Algebra.Group.Nat.Defs
import SocketIox.EngineIo.OpenRegistered

/-! # Session ids of the engine do not collide

The number of an open determines its session id and is determined by it, as long as the
counter has not come round. A handle or a socket that is inserted is therefore the first
one under its session id.
-/
namespace SocketIox.EngineIo
open Wire Proc
variable {base64 : Base64Crate}

theorem eq_of_digits_toNat {m n : UInt64} (h : digits m.toNat = digits n.toNat) : m = n := by
  have hm := parseUnsigned_digits (2^64) m.toNat_lt
  rw [h,parseUnsigned_digits (2^64) n.toNat_lt] at hm
  exact UInt64.toNat_inj.mp (Option.some_inj.mp hm).symm

theorem SidGenerator.generate_inj (hb : base64.Standard) {m n : UInt64}
    (h : SidGenerator.generate base64 m = SidGenerator.generate base64 n) : m = n :=
  eq_of_digits_toNat (encodeUtf8_inj.mp (encodeText_inj hb h))

theorem eq_of_ofNat {m n : ℕ} (hm : m < 2^64) (hn : n < 2^64) (h : UInt64.ofNat m = UInt64.ofNat n) : m = n := by
  have hnat := congrArg UInt64.toNat h
  rwa [UInt64.toNat_ofNat_of_lt' hm,UInt64.toNat_ofNat_of_lt' hn] at hnat

namespace Server
variable {s t : Server} {act : ServerAct}

def sidOf (base64 : Base64Crate) (conn : ℕ) : String := SidGenerator.generate base64 (UInt64.ofNat conn)

theorem sidOf_inj (hb : base64.Standard) {m n : ℕ} (hm : m < 2^64) (hn : n < 2^64)
    (h : sidOf base64 m = sidOf base64 n) : m = n := eq_of_ofNat hm hn (SidGenerator.generate_inj hb h)

def KeepsOthers (s : Server) : ServerAct → Prop
  | .openHandle i => ∀ opening, s.openings[i]? = some opening → opening.polling = true →
      opening.stage = .generated → opening.sid ∉ s.pollingHandles
  | .openStore i => ∀ opening, s.openings[i]? = some opening → opening.stage = .published →
      opening.sid ∉ s.sockets
  | _ => True

/-- The session ids are those of the numbers, a socket has been stored under its number, and a handle
belongs to an open that has inserted it. -/
structure Numbered (base64 : Base64Crate) (s : Server) : Prop where
  traced : s.Traced
  seq : s.seq = UInt64.ofNat s.opened
  openings : ∀ opening ∈ s.openings, opening.sid = sidOf base64 opening.conn
  stored : ∀ p ∈ s.stored, p.2 = sidOf base64 p.1
  sockets : ∀ sid conn, s.sockets.lookup sid = some conn → (conn,sid) ∈ s.stored
  handles : ∀ sid ∈ s.pollingHandles, ∃ conn, conn < s.opened ∧ sid = sidOf base64 conn ∧
    ∀ opening ∈ s.openings, opening.conn = conn → opening.stage ≠ .generated

theorem numbered_fresh : Numbered base64 Server.fresh := by
  refine ⟨traced_fresh,rfl,?_,?_,?_,?_⟩
  · intro opening h
    cases h
  · intro p h
    cases h
  · intro sid conn h
    cases h
  · intro sid h
    exact absurd h (Finset.notMem_empty sid)

theorem Numbered.opening_lt (hs : s.Numbered base64) {opening : Opening} (h : opening ∈ s.openings) :
    opening.conn < s.opened :=
  hs.traced.numbered _ (List.mem_append_right _ (List.mem_map_of_mem h))

theorem Numbered.stored_lt (hs : s.Numbered base64) {p : ℕ × String} (h : p ∈ s.stored) : p.1 < s.opened :=
  hs.traced.numbered _ (List.mem_append_left _ (List.mem_map_of_mem h))

theorem Numbered.keepsOthers (hb : base64.Standard) (hs : s.Numbered base64) (hopened : s.opened ≤ 2^64)
    (act : ServerAct) : s.KeepsOthers act := by
  obtain ⟨-,-,hdisjoint⟩ := List.nodup_append.mp hs.traced.distinct
  cases act with
  | openHandle i =>
    intro opening hi _ hstage hhandle
    have hmem := List.mem_of_getElem? hi
    obtain ⟨conn,hconn,hsid,hother⟩ := hs.handles _ hhandle
    rw [hs.openings opening hmem] at hsid
    have hsame := sidOf_inj hb (Nat.lt_of_lt_of_le (hs.opening_lt hmem) hopened) (Nat.lt_of_lt_of_le hconn hopened) hsid
    exact hother opening hmem hsame hstage
  | openStore i =>
    intro opening hi _ hsocket
    have hmem := List.mem_of_getElem? hi
    obtain ⟨conn,hconn⟩ := Option.isSome_iff_exists.mp (AList.lookup_isSome.mpr hsocket)
    have hstored := hs.sockets _ _ hconn
    have hsid := (hs.openings opening hmem).symm.trans (hs.stored _ hstored)
    have hsame := sidOf_inj hb (Nat.lt_of_lt_of_le (hs.opening_lt hmem) hopened)
      (Nat.lt_of_lt_of_le (hs.stored_lt hstored) hopened) hsid
    exact hdisjoint conn (List.mem_map_of_mem hstored) opening.conn (List.mem_map_of_mem hmem) hsame.symm
  | _ => exact trivial

theorem Numbered.openings_set (hs : s.Numbered base64) {i : ℕ} {opening : Opening} (hi : s.openings[i]? = some opening)
    (stage : OpenStage) : ∀ o ∈ s.openings.set i { opening with stage := stage }, o.sid = sidOf base64 o.conn := by
  intro o ho
  rcases List.mem_or_eq_of_mem_set ho with ho | rfl
  · exact hs.openings o ho
  · exact hs.openings opening (List.mem_of_getElem? hi)

theorem Numbered.handles_set (hs : s.Numbered base64) {i : ℕ} {opening : Opening} {stage : OpenStage}
    (hstage : stage ≠ .generated) : ∀ sid ∈ s.pollingHandles, ∃ conn, conn < s.opened ∧ sid = sidOf base64 conn ∧
      ∀ o ∈ s.openings.set i { opening with stage := stage }, o.conn = conn → o.stage ≠ .generated := by
  intro sid hsid
  obtain ⟨conn,hconn,he,hother⟩ := hs.handles sid hsid
  refine ⟨conn,hconn,he,?_⟩
  intro o ho hsame
  rcases List.mem_or_eq_of_mem_set ho with ho | rfl
  · exact hother o ho hsame
  · exact hstage

theorem Numbered.handled (hs : s.Numbered base64) {i : ℕ} {opening : Opening} (hi : s.openings[i]? = some opening) :
    ∀ o ∈ s.openings.set i { opening with stage := .handled }, o.conn = opening.conn → o.stage ≠ .generated := by
  have hmap : (s.openings.set i { opening with stage := .handled }).map Opening.conn = s.openings.map Opening.conn :=
    map_set_of_eq hi rfl
  have hnodup : ((s.openings.set i { opening with stage := .handled }).map Opening.conn).Nodup :=
    hmap.symm ▸ (List.nodup_append.mp hs.traced.distinct).2.1
  intro o ho hsame
  have hnew := List.inj_on_of_nodup_map hnodup ho (mem_set_new hi) hsame
  rw [hnew]
  exact fun h => by cases h

theorem Numbered.openHandle (hs : s.Numbered base64) {i : ℕ} {opening : Opening} (hi : s.openings[i]? = some opening)
    (ht : (s.openHandle i opening).Traced) : (s.openHandle i opening).Numbered base64 := by
  refine ⟨ht,hs.seq,hs.openings_set hi .handled,hs.stored,hs.sockets,?_⟩
  intro sid hsid
  have hmem := List.mem_of_getElem? hi
  rcases Finset.mem_insert.mp hsid with rfl | hsid
  · exact ⟨opening.conn,hs.opening_lt hmem,hs.openings opening hmem,hs.handled hi⟩
  · exact hs.handles_set (fun h => by cases h) sid hsid

theorem Numbered.openStore (hs : s.Numbered base64) {i : ℕ} {opening : Opening} (hi : s.openings[i]? = some opening)
    (ht : (s.openStore i opening).Traced) : (s.openStore i opening).Numbered base64 := by
  have hmem := List.mem_of_getElem? hi
  refine ⟨ht,hs.seq,?_,?_,?_,?_⟩
  · intro o ho
    exact hs.openings o (List.mem_of_mem_eraseIdx ho)
  · intro p hp
    rcases List.mem_cons.mp hp with rfl | hp
    · exact hs.openings opening hmem
    · exact hs.stored p hp
  · intro sid conn hlookup
    simp only [Server.openStore,Store.lookup_insert_eq] at hlookup
    split at hlookup
    · rename_i he
      cases hlookup
      rw [he]
      exact List.mem_cons_self
    · exact List.mem_cons_of_mem _ (hs.sockets sid conn hlookup)
  · intro sid hsid
    obtain ⟨conn,hconn,he,hother⟩ := hs.handles sid hsid
    exact ⟨conn,hconn,he,fun o ho => hother o (List.mem_of_mem_eraseIdx ho)⟩

theorem Numbered.closeSocket (hs : s.Numbered base64) {sid : String} {pings : List String}
    (ht : ({ s with pings := pings }.closeSocket sid).Traced) :
    ({ s with pings := pings }.closeSocket sid).Numbered base64 := by
  revert ht
  unfold Server.closeSocket
  split
  · intro ht
    refine ⟨ht,hs.seq,hs.openings,hs.stored,?_,hs.handles⟩
    intro sid' conn hlookup
    rw [Store.lookup_erase_eq] at hlookup
    split at hlookup
    · cases hlookup
    · exact hs.sockets sid' conn hlookup
  · intro ht
    exact ⟨ht,hs.seq,hs.openings,hs.stored,hs.sockets,hs.handles⟩

theorem Numbered.publishClose (hs : s.Numbered base64) {socket : ℕ × String} {closings : List (ℕ × String)}
    (ht : ({ s with closings := closings }.publishClose socket).Traced) :
    ({ s with closings := closings }.publishClose socket).Numbered base64 := by
  revert ht
  unfold Server.publishClose
  split
  · intro ht
    exact ⟨ht,hs.seq,hs.openings,hs.stored,hs.sockets,hs.handles⟩
  · intro ht
    exact ⟨ht,hs.seq,hs.openings,hs.stored,hs.sockets,hs.handles⟩

theorem step_numbered (hs : s.Numbered base64) (h : step base64 s act = some t) : t.Numbered base64 := by
  have htraced := step_traced hs.traced h
  cases step_does h with
  | openBegin polling =>
    refine ⟨htraced,?_,?_,hs.stored,hs.sockets,?_⟩
    · simp only [Server.openBegin,hs.seq,UInt64.ofNat_add]
      rfl
    · intro opening ho
      rcases List.mem_append.mp ho with ho | ho
      · exact hs.openings opening ho
      · rw [List.mem_singleton.mp ho,sidOf,← hs.seq]
    · intro sid hsid
      obtain ⟨conn,hconn,he,hother⟩ := hs.handles sid hsid
      refine ⟨conn,Nat.lt_succ_of_lt hconn,he,?_⟩
      intro opening ho hsame
      rcases List.mem_append.mp ho with ho | ho
      · exact hother opening ho hsame
      · rw [List.mem_singleton.mp ho] at hsame
        exact absurd hsame (Nat.ne_of_gt hconn)
  | openEnd i opening hi hact =>
    refine ⟨htraced,hs.seq,fun o ho => hs.openings o (List.mem_of_mem_eraseIdx ho),hs.stored,hs.sockets,?_⟩
    intro sid hsid
    obtain ⟨conn,hconn,he,hother⟩ := hs.handles sid hsid
    exact ⟨conn,hconn,he,fun o ho => hother o (List.mem_of_mem_eraseIdx ho)⟩
  | openHandle i opening hi hpolling hstage => exact hs.openHandle hi htraced
  | openPublish i opening hi hconnects =>
    exact ⟨htraced,hs.seq,hs.openings_set hi .published,hs.stored,hs.sockets,hs.handles_set (fun h => by cases h)⟩
  | openStore i opening hi hstage => exact hs.openStore hi htraced
  | receive event rest hevents => exact ⟨htraced,hs.seq,hs.openings,hs.stored,hs.sockets,hs.handles⟩
  | closeSocket sid pings hact => exact hs.closeSocket htraced
  | publishClose socket closings => exact hs.publishClose htraced
  | upgrade upgrades handles hhandles =>
    exact ⟨htraced,hs.seq,hs.openings,hs.stored,hs.sockets,fun sid hsid => hs.handles sid (hhandles hsid)⟩

def opens (acts : List ServerAct) : ℕ :=
  acts.countP fun
    | .openBegin _ => true
    | _ => false

theorem opens_le (act : ServerAct) (rest : List ServerAct) : opens rest ≤ opens (act :: rest) := by
  unfold opens
  rw [List.countP_cons]
  exact Nat.le_add_right _ _

theorem opened_le_of_step (h : step base64 s act = some t) (rest : List ServerAct) :
    t.opened+opens rest ≤ s.opened+opens (act :: rest) := by
  have hrest := Nat.add_le_add_left (opens_le act rest) s.opened
  cases step_does h with
  | openBegin polling =>
    have hcount : opens (.openBegin polling :: rest) = opens rest+1 := List.countP_cons_of_pos rfl
    rw [hcount,← Nat.add_assoc,Nat.add_right_comm]
    exact Nat.le_refl _
  | closeSocket sid pings hact =>
    unfold Server.closeSocket
    split <;> exact hrest
  | publishClose socket closings =>
    unfold Server.publishClose
    split <;> exact hrest
  | _ => exact hrest

theorem Numbered.along_keepsOthers (hb : base64.Standard) {acts : List ServerAct} (hs : s.Numbered base64)
    (hcount : s.opened+opens acts ≤ 2^64) : Along (step base64) KeepsOthers s acts := by
  induction acts generalizing s with
  | nil => trivial
  | cons act rest ih =>
    refine ⟨hs.keepsOthers hb (Nat.le_trans (Nat.le_add_right _ _) hcount) act,?_⟩
    intro t ht
    exact ih (step_numbered hs ht) (Nat.le_trans (opened_le_of_step ht rest) hcount)

end Server
end SocketIox.EngineIo
