import SocketIox.EngineIo.PacketCodec
import SocketIox.EngineIo.Upgrade

/-! # The packet stream during an upgrade

A consumer that polls between the drop of the last polling handle and the swap of the
generator finds the old channel closed, and is told that the stream has ended. These
polls, and polls of a generator that has failed before, are the only ones which report
the end before the websocket ends.
-/
namespace SocketIox.EngineIo
open Wire Proc

namespace UpgradeState
variable (base64 : Base64Crate) (s : UpgradeState)

/-- The end of the stream is reported only after the end of the websocket. -/
def EndsWithWebsocket : UpgradeAct → Prop
  | .poll => (s.poll base64).1 = .ready none → s.wsEnded = true
  | _ => True

/-- The old generator has nothing left and nobody who could send to it. -/
def Starved : Prop :=
  s.generator.status = .running ∧ s.generator.source = .polling ∧ s.generator.buffer = [] ∧ s.inbox = [] ∧
    s.owned = false

/-- Before the end of the websocket, no poll meets a failed or a starved generator. -/
def Fed : UpgradeAct → Prop
  | .poll => s.wsEnded = false → s.generator.status ≠ .failed ∧ ¬ s.Starved
  | _ => True

theorem parsePayload_ne_nil (bytes : Bytes) : parsePayload base64 bytes ≠ [] := by
  unfold parsePayload
  cases h : Payload.tryFrom base64 bytes with
  | error e => simp
  | ok packets =>
    have hne := Payload.tryFrom_ne_nil base64 h
    simpa using hne

theorem pull_eq_none_iff (items : List (Except Error Bytes)) : pull base64 items = none ↔ items = [] := by
  cases items with
  | nil => simp [pull]
  | cons item rest =>
    cases item with
    | error e => simp [pull]
    | ok bytes =>
      obtain ⟨first,others,hp⟩ := List.exists_cons_of_ne_nil (parsePayload_ne_nil base64 bytes)
      simp [pull,hp]

theorem poll_none_iff : (s.poll base64).1 = .ready none ↔
    s.generator.status ≠ .running ∨ s.generator.buffer = [] ∧ s.incoming = [] ∧ s.exhausted = true := by
  unfold poll
  by_cases hs : s.generator.status = .running
  · cases hb : s.generator.buffer with
    | cons item rest => simp [hs]
    | nil =>
      cases hp : pull base64 s.incoming with
      | none =>
        have hi := (pull_eq_none_iff base64 s.incoming).mp hp
        cases he : s.exhausted <;> simp [hs,hi]
      | some pulled =>
        have hi : s.incoming ≠ [] := by
          intro h
          rw [(pull_eq_none_iff base64 s.incoming).mpr h] at hp
          cases hp
        simp [hs,hi]
  · simp [hs]

theorem poll_wsEnded : (s.poll base64).2.wsEnded = s.wsEnded := by
  obtain ⟨generator,inbox,frames,hs⟩ := poll_eq base64 s
  rw [hs]

theorem give_status (generator : Generator) (item : Except Error Packet) (rest : List (Except Error Packet))
    (h : (generator.give item rest).status = .ended) : generator.status = .ended := by
  cases item with
  | ok packet => exact h
  | error e => cases h

theorem poll_ended (h : (s.poll base64).2.generator.status = .ended) : (s.poll base64).1 = .ready none := by
  by_cases hs : s.generator.status = .running
  · unfold poll at h ⊢
    rw [if_pos hs] at h ⊢
    split at h
    · have hg := give_status _ _ _ h
      rw [hs] at hg
      cases hg
    · split at h
      · have hg := give_status _ _ _ h
        rw [hs] at hg
        cases hg
      · split at h
        · rename_i he
          simp [he]
        · rw [hs] at h
          cases h
  · exact (poll_none_iff base64 s).mpr (Or.inl hs)

def Timely : Prop := s.generator.status = .ended → s.wsEnded = true

theorem endsWithWebsocket_iff_fed (act : UpgradeAct) (h : s.Timely) :
    s.EndsWithWebsocket base64 act ↔ s.Fed act := by
  cases act with
  | poll =>
    simp only [EndsWithWebsocket,Fed,poll_none_iff]
    constructor
    · intro hend hws
      refine ⟨?_,?_⟩
      · intro hfailed
        have hnot := hend (Or.inl (by rw [hfailed]; simp))
        rw [hws] at hnot
        cases hnot
      · rintro ⟨-,hsource,hbuffer,hinbox,howned⟩
        have hnot := hend (Or.inr ⟨hbuffer,by simp [incoming,hsource,hinbox],by simp [exhausted,hsource,howned]⟩)
        rw [hws] at hnot
        cases hnot
    · intro hfed hnone
      by_contra hws
      obtain ⟨hfailed,hstarved⟩ := hfed (by simpa using hws)
      cases hstatus : s.generator.status with
      | failed => exact hfailed hstatus
      | ended => exact hws (h hstatus)
      | running =>
        rcases hnone with hnot | ⟨hbuffer,hincoming,hexhausted⟩
        · exact hnot hstatus
        · cases hsource : s.generator.source with
          | websocket => exact hws (by simpa [exhausted,hsource] using hexhausted)
          | polling =>
            apply hstarved
            exact ⟨hstatus,hsource,hbuffer,by simpa [incoming,hsource] using hincoming,
              by simpa [exhausted,hsource] using hexhausted⟩
  | _ => exact Iff.rfl

@[simp] theorem emit_generator (packet : Packet) : (s.emit packet).generator = s.generator := by
  unfold emit
  cases s.transport with
  | websocket => rfl
  | polling => cases h : s.owned <;> rfl

@[simp] theorem emit_wsEnded (packet : Packet) : (s.emit packet).wsEnded = s.wsEnded := by
  unfold emit
  cases s.transport with
  | websocket => rfl
  | polling => cases h : s.owned <;> rfl

@[simp] theorem release_generator : s.release.generator = s.generator := by
  unfold release
  cases h : s.owned <;> rfl

@[simp] theorem release_wsEnded : s.release.wsEnded = s.wsEnded := by
  unfold release
  cases h : s.owned <;> rfl

theorem timely_of_eq {t : UpgradeState} (hs : s.Timely) (hg : t.generator = s.generator)
    (hw : t.wsEnded = s.wsEnded) : t.Timely := by
  unfold Timely
  rw [hg,hw]
  exact hs

variable {s}

theorem Takes.timely {t : UpgradeState} {i : ℕ} (h : s.Takes i t) (hs : s.Timely) : t.Timely := by
  obtain ⟨get,get',queue,-,-,rfl⟩ := h
  exact hs

theorem step_timely (s : UpgradeState) (act : UpgradeAct) (t : UpgradeState)
    (hend : s.EndsWithWebsocket base64 act) (hs : s.Timely) (h : s.step base64 act = some t) : t.Timely := by
  cases act with
  | emit packet =>
    cases h
    exact timely_of_eq s hs (by simp) (by simp)
  | getBegin | post =>
    cases h
    cases hh : s.handle <;> exact hs
  | getLock i => exact (getLock_takes h).timely hs
  | getRecv i => exact (getRecv_takes h).timely hs
  | getTryRecv i => exact (getTryRecv_takes h).timely hs
  | getEnd i =>
    obtain ⟨byteVec,-,rfl⟩ := getEnd_eq h
    exact timely_of_eq s hs (by simp) (by simp)
  | answerProbe | swapTransport | frame =>
    simp only [step,Option.ite_none_right_eq_some,Option.some.injEq] at h
    obtain ⟨-,rfl⟩ := h
    exact hs
  | drainPolling | closePolling =>
    simp only [step,Option.ite_none_right_eq_some,Option.some.injEq] at h
    obtain ⟨-,rfl⟩ := h
    exact timely_of_eq s hs (by simp) (by simp)
  | swapGenerator =>
    simp only [step,Option.ite_none_right_eq_some,Option.some.injEq] at h
    obtain ⟨-,rfl⟩ := h
    rintro ⟨⟩
  | endWebsocket =>
    simp only [step,Option.ite_none_right_eq_some,Option.some.injEq] at h
    obtain ⟨-,rfl⟩ := h
    exact fun _ => rfl
  | poll =>
    cases h
    intro hended
    simp only [record,poll_wsEnded]
    exact hend (poll_ended base64 s hended)

end UpgradeState

open UpgradeState

/-- Over every run, the stream ends only with the websocket precisely when no poll meets
a failed or a starved generator. -/
theorem upgrade_stream_iff (base64 : Base64Crate) (acts : List UpgradeAct) :
    Along (step base64) (EndsWithWebsocket base64) UpgradeState.fresh acts ↔
      Along (step base64) Fed UpgradeState.fresh acts := by
  have hfresh : UpgradeState.fresh.Timely := by rintro ⟨⟩
  exact along_iff_along (fun s act hs => endsWithWebsocket_iff_fed base64 s act hs) (step_timely base64) hfresh acts

def pollInWindow : List UpgradeAct :=
  [.answerProbe,.drainPolling,.closePolling,.poll,.swapTransport,.swapGenerator]

theorem upgrade_ends_stream :
    (∃ s, run (step rfc4648) UpgradeState.fresh pollInWindow = some s ∧
      s.generator.source = .websocket ∧ s.wsEnded = false ∧ s.answers = [.ready none]) ∧
    ¬ Along (step rfc4648) (EndsWithWebsocket rfc4648) UpgradeState.fresh pollInWindow := by
  refine ⟨⟨_,rfl,rfl,rfl,rfl⟩,?_⟩
  intro h
  obtain ⟨-,h⟩ := h
  obtain ⟨-,h⟩ := h _ rfl
  obtain ⟨-,h⟩ := h _ rfl
  have hws := (h _ rfl).1 rfl
  cases hws

end SocketIox.EngineIo
