import SocketIox.EngineIo.Server

/-! # Polling handles and sockets

Opening by polling fills both registries, an upgrade empties one of them and
`close_socket` the other. As long as no socket is closed while its polling handle is
there, and no polling open fails half way, every handle has its socket or an open that
is about to store it.
-/
namespace SocketIox.EngineIo
open Wire Proc

namespace Server
variable {base64 : Base64Crate} {s t : Server} {act : ServerAct}

def Quiescent (s : Server) : Prop := s.openings = [] ∧ s.upgrades = [] ∧ s.closings = []

/-- Every polling handle belongs to a stored socket. -/
def InStep (s : Server) : Prop := ∀ sid ∈ s.pollingHandles, sid ∈ s.sockets

instance : Decidable s.Quiescent := inferInstanceAs (Decidable (_ ∧ _))

instance : Decidable s.InStep := inferInstanceAs (Decidable (∀ sid ∈ s.pollingHandles, sid ∈ s.sockets))

/-- Closing that session id closes no socket whose polling handle is still there. -/
def ClosesUpgraded (s : Server) (sid : String) : Prop := sid ∈ s.sockets → sid ∉ s.pollingHandles

instance (sid : String) : Decidable (s.ClosesUpgraded sid) := inferInstanceAs (Decidable (_ → _))

/-- The step closes no polling socket and is no failure of a polling open. -/
def KeepsInStep (s : Server) : ServerAct → Prop
  | .closeSocket sid => s.ClosesUpgraded sid
  | .pingTimeout i => ∀ sid ∈ s.pings[i]?, s.ClosesUpgraded sid
  | .openFail i => ∀ opening ∈ s.openings[i]?, opening.polling = false
  | _ => True

instance : Decidable (s.KeepsInStep act) := by
  cases act <;> unfold KeepsInStep <;> infer_instance

/-- A handle has its socket, or a polling open that will store it. -/
def Covered (s : Server) : Prop :=
  ∀ sid ∈ s.pollingHandles, sid ∈ s.sockets ∨ ∃ opening ∈ s.openings, opening.polling = true ∧ opening.sid = sid

theorem closeSocket_covered (hs : s.Covered) {sid : String} (h : s.ClosesUpgraded sid) (pings : List String) :
    ({ s with pings := pings }.closeSocket sid).Covered := by
  unfold closeSocket
  split
  · rename_i conn hsid
    have hmem : sid ∈ s.sockets := AList.lookup_isSome.mp (by simp [hsid])
    intro sid' hsid'
    rcases hs sid' hsid' with hs' | hopening
    · left
      refine AList.mem_erase.mpr ⟨?_,hs'⟩
      rintro rfl
      exact h hmem hsid'
    · exact Or.inr hopening
  · exact hs

theorem publishClose_covered (hs : s.Covered) (socket : ℕ × String) (closings : List (ℕ × String)) :
    ({ s with closings := closings }.publishClose socket).Covered := by
  unfold publishClose
  split <;> exact hs

theorem exists_opening_eraseIdx {i : ℕ} {opening : Opening} (hi : s.openings[i]? = some opening) {sid : String}
    (h : ∃ o ∈ s.openings, o.polling = true ∧ o.sid = sid) :
    opening.polling = true ∧ opening.sid = sid ∨ ∃ o ∈ s.openings.eraseIdx i, o.polling = true ∧ o.sid = sid := by
  obtain ⟨o,ho,hp⟩ := h
  rcases eq_or_mem_eraseIdx hi ho with rfl | ho
  · exact Or.inl hp
  · exact Or.inr ⟨o,ho,hp⟩

theorem exists_opening_set {i : ℕ} {opening : Opening} (hi : s.openings[i]? = some opening) (stage : OpenStage)
    {sid : String} (h : ∃ o ∈ s.openings, o.polling = true ∧ o.sid = sid) :
    ∃ o ∈ s.openings.set i { opening with stage := stage }, o.polling = true ∧ o.sid = sid := by
  obtain ⟨o,ho,hp⟩ := h
  rcases eq_or_mem_set hi ho with rfl | ho
  · exact ⟨_,mem_set_new hi,hp⟩
  · exact ⟨o,ho,hp⟩

theorem step_covered (hk : s.KeepsInStep act) (hs : s.Covered) (h : step base64 s act = some t) : t.Covered := by
  cases step_does h with
  | openBegin polling =>
    intro sid hsid
    refine (hs sid hsid).imp_right ?_
    rintro ⟨o,ho,hp⟩
    exact ⟨o,List.mem_append_left _ ho,hp⟩
  | openEnd i opening hi hact =>
    have hpolling : opening.polling = false := by
      rcases hact with ⟨-,hp,-⟩ | ⟨rfl,-⟩
      · exact hp
      · exact hk opening hi
    intro sid hsid
    refine (hs sid hsid).imp_right ?_
    intro ho
    refine (exists_opening_eraseIdx hi ho).resolve_left ?_
    rintro ⟨hp,-⟩
    rw [hpolling] at hp
    cases hp
  | openHandle i opening hi hpolling hstage =>
    intro sid hsid
    rcases Finset.mem_insert.mp hsid with rfl | hsid
    · exact Or.inr (exists_opening_set hi _ ⟨opening,List.mem_of_getElem? hi,hpolling,rfl⟩)
    · exact (hs sid hsid).imp_right (exists_opening_set hi _)
  | openPublish i opening hi hconnects =>
    intro sid hsid
    exact (hs sid hsid).imp_right (exists_opening_set hi _)
  | openStore i opening hi hstage =>
    intro sid hsid
    rcases hs sid hsid with hmem | ho
    · exact Or.inl ((AList.mem_insert s.sockets).mpr (Or.inr hmem))
    · rcases exists_opening_eraseIdx hi ho with ⟨-,he⟩ | ho
      · exact Or.inl ((AList.mem_insert s.sockets).mpr (Or.inl he.symm))
      · exact Or.inr ho
  | receive event rest hevents => exact hs
  | closeSocket sid pings hact =>
    refine closeSocket_covered hs ?_ pings
    rcases hact with rfl | ⟨i,rfl,hi⟩
    · exact hk
    · exact hk sid hi
  | publishClose socket closings => exact publishClose_covered hs socket closings
  | upgrade upgrades handles hhandles =>
    intro sid hsid
    exact hs sid (hhandles hsid)

end Server

open Server

/-- In a run that closes no polling socket and in which no polling open fails, handles and
sockets are in step whenever no operation is in progress. -/
theorem handles_in_step (base64 : Base64Crate) (acts : List ServerAct) (s : Server)
    (hrun : run (step base64) Server.fresh acts = some s)
    (hkeeps : Along (step base64) KeepsInStep Server.fresh acts) (hq : s.Quiescent) : s.InStep := by
  have hfresh : Covered Server.fresh := by
    intro sid hsid
    exact absurd hsid (Finset.notMem_empty sid)
  have hcovered := run_preserves_along (fun s act t hk hs h => step_covered hk hs h) hkeeps hfresh hrun
  intro sid hsid
  refine (hcovered sid hsid).resolve_right ?_
  rintro ⟨opening,ho,-⟩
  rw [hq.1] at ho
  cases ho

def upgradedClose : List ServerAct :=
  [.openBegin true,.openHandle 0,.openPublish 0,.openStore 0,.upgradeBegin "MA==",.upgradeDrain 0,.upgradeClose 0,
    .upgradeStore 0,.openBegin true,.openHandle 0,.openPublish 0,.openStore 0,.pingTimeout 0,.closeEnd 0]

theorem handles_in_step_upgraded :
    ∃ s, run (step rfc4648) Server.fresh upgradedClose = some s ∧ "MQ==" ∈ s.pollingHandles ∧ s.InStep :=
  ⟨_,rfl,by decide +kernel,handles_in_step rfc4648 upgradedClose _ rfl (by decide +kernel) (by decide +kernel)⟩

/-- A polling session whose ping loop times out leaves its handle behind. -/
theorem handles_out_of_step :
    ∃ s, run (step rfc4648) Server.fresh [.openBegin true,.openHandle 0,.openPublish 0,.openStore 0,
        .pingTimeout 0,.closeEnd 0] = some s ∧ s.Quiescent ∧ ¬ s.InStep :=
  ⟨_,rfl,by decide +kernel,by decide +kernel⟩

end SocketIox.EngineIo
