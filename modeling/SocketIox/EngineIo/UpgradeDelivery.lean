import Mathlib.Data.List.Perm.Basic
import SocketIox.EngineIo.Upgrade

/-! # No message lost in an upgrade

Every accepted packet is at any time in an answered GET, on the websocket, with a GET
in flight, in the queue, or it was dropped together with the receiver of the queue. The
last happens exactly when the last owner of the polling handle goes and the queue is
not empty.
-/
namespace SocketIox.EngineIo
open Wire Proc

namespace UpgradeState
variable (s : UpgradeState)

def delivered : List Packet := s.bodies.flatten ++ s.sent

/-- With a GET in flight or in the queue. -/
def undelivered : List Packet := s.gets.flatMap Get.byteVec ++ s.queue

def held (packet : Packet) : ℕ :=
  s.delivered.count packet+s.undelivered.count packet+s.lost.count packet

/-- The action takes the last owner of the polling handle away. -/
def drops : UpgradeAct → Bool
  | .closePolling => s.gets.isEmpty
  | .getEnd _ => !s.handle && s.gets.length = 1
  | _ => false

theorem count_flatMap_get {gets : List Get} {i : ℕ} {get : Get} (h : gets[i]? = some get) (packet : Packet) :
    (gets.flatMap Get.byteVec).count packet =
      get.byteVec.count packet+((gets.eraseIdx i).flatMap Get.byteVec).count packet := by
  obtain ⟨hlt,hget⟩ := List.getElem?_eq_some_iff.mp h
  have hperm := (List.getElem_cons_eraseIdx_perm hlt).flatMap_right Get.byteVec
  rw [← hperm.count_eq,hget,List.flatMap_cons,List.count_append]

def books : List Packet × List (List Packet) × List Packet × List Get × List Packet × List Packet × Bool :=
  (s.accepted,s.bodies,s.sent,s.gets,s.queue,s.lost,s.handle)

end UpgradeState

structure StepBooks (s : UpgradeState) (act : UpgradeAct) (t : UpgradeState) : Prop where
  balance : ∀ packet, t.accepted.count packet+s.held packet = s.accepted.count packet+t.held packet
  lost : t.lost = s.lost ++ if s.drops act then s.queue else []
  dry : (s.owned = false → s.queue = []) → t.owned = false → t.queue = []

namespace UpgradeState
variable {s t : UpgradeState}

theorem emit_books (packet : Packet) {act : UpgradeAct} (ha : s.drops act = false) :
    StepBooks s act (s.emit packet) := by
  unfold emit
  cases s.transport with
  | websocket =>
    refine ⟨?_,by simp [ha],fun h => h⟩
    intro p
    simp only [held,delivered,undelivered,List.count_append]
    omega
  | polling =>
    by_cases ho : s.owned = true
    · simp only [ho,↓reduceIte]
      refine ⟨?_,by simp [ha],?_⟩
      · intro p
        simp only [held,delivered,undelivered,List.count_append]
        omega
      · intro _ hn
        exact absurd ho (by simpa [owned] using hn)
    · simp only [ho]
      exact ⟨fun _ => rfl,by simp [ha],fun h => h⟩

theorem quiet_books {act : UpgradeAct} (ha : s.drops act = false) (h : t.books = s.books) :
    StepBooks s act t := by
  simp only [books,Prod.mk.injEq] at h
  obtain ⟨haccepted,hbodies,hsent,hgets,hqueue,hlost,hhandle⟩ := h
  refine ⟨?_,by simp [ha,hlost],?_⟩
  · intro packet
    simp only [held,delivered,undelivered,haccepted,hbodies,hsent,hgets,hqueue,hlost]
  · intro hdry ho
    rw [hqueue]
    apply hdry
    simpa [owned,hgets,hhandle] using ho

theorem takes_books {act : UpgradeAct} (ha : s.drops act = false) {i : ℕ} (h : s.Takes i t) :
    StepBooks s act t := by
  obtain ⟨get,get',queue,hi,hmove,rfl⟩ := h
  refine ⟨?_,by simp [setGet,ha],?_⟩
  · intro packet
    have hcount := congrArg (List.count packet) hmove
    simp only [List.count_append] at hcount
    simp only [held,delivered,undelivered,setGet,List.flatMap_cons,List.count_append,
      count_flatMap_get hi packet]
    omega
  · intro _ ho
    simp [owned,setGet] at ho

theorem release_books {act : UpgradeAct} {s' : UpgradeState} (haccepted : s'.accepted = s.accepted)
    (hheld : ∀ packet, s'.held packet = s.held packet) (hqueue : s'.queue = s.queue) (hlost : s'.lost = s.lost)
    (hdrops : s.drops act = !s'.owned) : StepBooks s act s'.release := by
  unfold release
  cases ho : s'.owned with
  | true =>
    simp only [↓reduceIte]
    refine ⟨?_,?_,?_⟩
    · intro packet
      rw [haccepted,hheld]
    · simp [hdrops,ho,hlost]
    · intro _ hn
      rw [ho] at hn
      cases hn
  | false =>
    simp only [Bool.false_eq_true,↓reduceIte]
    refine ⟨?_,?_,fun _ _ => rfl⟩
    · intro packet
      have h := hheld packet
      simp only [held,undelivered,delivered,List.count_append,List.count_nil,haccepted] at h ⊢
      omega
    · simp [hdrops,ho,hlost,hqueue]

theorem getEnd_books {i : ℕ} (h : s.getEnd i = some t) : StepBooks s (.getEnd i) t := by
  obtain ⟨byteVec,hi,rfl⟩ := getEnd_eq h
  refine release_books rfl ?_ rfl rfl ?_
  · intro packet
    simp only [held,delivered,undelivered,List.flatten_append,List.flatten_singleton,List.count_append,
      count_flatMap_get hi packet]
    omega
  · obtain ⟨hlt,-⟩ := List.getElem?_eq_some_iff.mp hi
    have hlength := List.length_eraseIdx_of_lt hlt
    have hempty : (s.gets.eraseIdx i).isEmpty = decide (s.gets.length = 1) := by
      rw [Bool.eq_iff_iff,List.isEmpty_iff_length_eq_zero,hlength,decide_eq_true_iff]
      omega
    simp only [drops,owned,hempty,Bool.not_or,Bool.not_not]

theorem step_books (base64 : Base64Crate) {act : UpgradeAct} (h : s.step base64 act = some t) :
    StepBooks s act t := by
  cases act with
  | emit packet =>
    cases h
    exact emit_books packet rfl
  | getBegin =>
    cases h
    cases hh : s.handle with
    | true =>
      refine ⟨?_,by simp [drops],by simp [owned]⟩
      intro packet
      simp [held,delivered,undelivered]
    | false => exact quiet_books rfl rfl
  | getLock i => exact takes_books rfl (getLock_takes h)
  | getRecv i => exact takes_books rfl (getRecv_takes h)
  | getTryRecv i => exact takes_books rfl (getTryRecv_takes h)
  | getEnd i => exact getEnd_books h
  | post data =>
    cases h
    cases hh : s.handle with
    | true => exact quiet_books rfl (by simp [books,hh])
    | false => exact quiet_books rfl rfl
  | answerProbe =>
    simp only [step,Option.ite_none_right_eq_some,Option.some.injEq] at h
    obtain ⟨-,rfl⟩ := h
    exact quiet_books rfl rfl
  | drainPolling =>
    simp only [step,Option.ite_none_right_eq_some,Option.some.injEq] at h
    obtain ⟨-,rfl⟩ := h
    have hemit : StepBooks s .drainPolling (s.emit Packet.noop) := emit_books Packet.noop rfl
    exact ⟨hemit.balance,hemit.lost,hemit.dry⟩
  | closePolling =>
    simp only [step,Option.ite_none_right_eq_some,Option.some.injEq] at h
    obtain ⟨-,rfl⟩ := h
    refine release_books rfl (fun _ => rfl) rfl rfl ?_
    simp [drops,owned]
  | swapTransport | swapGenerator | frame | endWebsocket =>
    simp only [step,Option.ite_none_right_eq_some,Option.some.injEq] at h
    obtain ⟨-,rfl⟩ := h
    exact quiet_books rfl rfl
  | poll =>
    cases h
    obtain ⟨generator,inbox,frames,hs⟩ := poll_eq base64 s
    unfold record
    rw [hs]
    exact quiet_books rfl rfl

end UpgradeState

section Runs
variable (base64 : Base64Crate)
open UpgradeState

/-- The last owner of the polling handle goes only when the queue is empty. -/
def DropsNothing (s : UpgradeState) (act : UpgradeAct) : Prop := s.drops act = true → s.queue = []

structure Balanced (s : UpgradeState) : Prop where
  count : ∀ packet, s.accepted.count packet = s.held packet
  dry : s.owned = false → s.queue = []

theorem step_balanced (s : UpgradeState) (act : UpgradeAct) (t : UpgradeState) (hs : Balanced s)
    (h : s.step base64 act = some t) : Balanced t := by
  have hbooks := step_books base64 h
  refine ⟨?_,hbooks.dry hs.dry⟩
  intro packet
  have hb := hbooks.balance packet
  have hc := hs.count packet
  omega

theorem balanced_fresh : Balanced UpgradeState.fresh := by
  refine ⟨?_,fun _ => rfl⟩
  intro packet
  rfl

theorem run_lost_iff {s u : UpgradeState} {acts : List UpgradeAct}
    (h : run (step base64) s acts = some u) :
    u.lost = [] ↔ s.lost = [] ∧ Along (step base64) DropsNothing s acts := by
  induction acts generalizing s with
  | nil =>
    cases h
    simp [Along]
  | cons act acts ih =>
    obtain ⟨t,hstep,hrun⟩ := run_cons h
    have hlost := (step_books base64 hstep).lost
    have hfirst : t.lost = [] ↔ s.lost = [] ∧ DropsNothing s act := by
      rw [hlost,List.append_eq_nil_iff]
      cases hd : s.drops act with
      | true => simp [DropsNothing,hd]
      | false => simp [DropsNothing,hd]
    rw [ih hrun,hfirst,and_assoc]
    constructor
    · rintro ⟨hs,hd,ha⟩
      refine ⟨hs,hd,?_⟩
      intro t' ht'
      cases hstep.symm.trans ht'
      exact ha
    · rintro ⟨hs,hd,ha⟩
      exact ⟨hs,hd,ha t hstep⟩

theorem perm_iff_lost {s : UpgradeState} (h : Balanced s) :
    s.accepted.Perm (s.delivered ++ s.undelivered) ↔ s.lost = [] := by
  rw [List.perm_iff_count]
  constructor
  · intro hc
    apply List.eq_nil_iff_forall_not_mem.mpr
    intro packet hp
    have hpos := List.count_pos_iff.mpr hp
    have hpacket := hc packet
    rw [h.count packet,held,List.count_append] at hpacket
    omega
  · intro hl packet
    rw [h.count packet,held,hl,List.count_append,List.count_nil,Nat.add_zero]

/-- In a run of the upgrade every accepted packet is delivered once or still on its way
precisely when no step drops a queue that is not empty. Nothing is on its way any more
once all owners of the polling handle are gone. -/
theorem upgrade_delivers_iff (acts : List UpgradeAct) (s : UpgradeState)
    (hrun : run (step base64) UpgradeState.fresh acts = some s) :
    (s.accepted.Perm (s.delivered ++ s.undelivered) ↔
      Along (step base64) DropsNothing UpgradeState.fresh acts) ∧
    (s.handle = false → s.gets = [] → s.undelivered = []) := by
  have hbalanced := run_preserves (step_balanced base64) balanced_fresh hrun
  constructor
  · rw [perm_iff_lost hbalanced,run_lost_iff base64 hrun]
    exact and_iff_right rfl
  · intro hhandle hgets
    have hqueue := hbalanced.dry (by simp [owned,hhandle,hgets])
    simp [undelivered,hgets,hqueue]

end Runs

instance (s : UpgradeState) (act : UpgradeAct) : Decidable (DropsNothing s act) :=
  inferInstanceAs (Decidable (_ → _))

def idleUpgrade : List UpgradeAct :=
  [.getBegin,.answerProbe,.drainPolling,.getLock 0,.getRecv 0,.getTryRecv 0,.getEnd 0,.closePolling,
    .swapTransport,.swapGenerator,.emit ⟨.message,[104,105]⟩]

theorem upgrade_delivers_idle :
    ∃ s, run (UpgradeState.step rfc4648) UpgradeState.fresh idleUpgrade = some s ∧
      s.accepted = [Packet.noop,⟨.message,[104,105]⟩] ∧ s.accepted.Perm (s.delivered ++ s.undelivered) := by
  obtain ⟨s,hs⟩ : ∃ s, run (UpgradeState.step rfc4648) UpgradeState.fresh idleUpgrade = some s := ⟨_,rfl⟩
  refine ⟨s,hs,?_,(upgrade_delivers_iff rfc4648 idleUpgrade s hs).1.mpr (by decide)⟩
  cases hs
  rfl

/-- A message emitted after the last GET and before the handle is dropped is accepted
and never delivered. -/
theorem upgrade_loses_message :
    ∃ s, run (UpgradeState.step rfc4648) UpgradeState.fresh [.getBegin,.answerProbe,.drainPolling,.getLock 0,
        .getRecv 0,.getTryRecv 0,.getEnd 0,.emit ⟨.message,[104,105]⟩,.closePolling,.swapTransport,
        .swapGenerator] = some s ∧
      s.handle = false ∧ s.gets = [] ∧ ⟨.message,[104,105]⟩ ∈ s.accepted ∧
      ⟨.message,[104,105]⟩ ∉ s.delivered ++ s.undelivered := by
  refine ⟨_,rfl,rfl,rfl,?_,?_⟩
  · decide
  · decide

end SocketIox.EngineIo
