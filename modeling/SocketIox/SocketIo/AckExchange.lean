import SocketIox.SocketIo.AckSafety
import SocketIox.SocketIo.CallbackOrder
import SocketIox.SocketIo.Session

/-! # Acks between two sockets

One socket asks with `emit_with_ack`, the other one dispatches the events and its callbacks
answer with `ack`. Calls, sends, callbacks and answers interleave freely, and a send may be
lost. Where every packet in flight comes from is an invariant of all runs, so that no
callback is ever called with an answer to another question.
-/
namespace SocketIox.SocketIo
open Wire Proc

structure Asked where
  event : Event
  payload : Payload

/-- `asked` lists the calls by their numbers, `unsent` the packets that are built and not handed on yet. -/
structure AckExchange where
  asker : AckState
  asked : List Asked
  unsent : List (ℕ × Packet)
  toPeer : List Packet
  dispatched : List Dispatch
  answers : List (UInt64 × Payload)
  toAsker : List Packet

inductive ExchangeAct where
  | ask (event : Event) (payload : Payload) (timeout : ℕ)
  | push (i timeStarted : ℕ)
  | send (i : ℕ)
  | lose (i : ℕ)
  | dispatch
  | answer (i : ℕ) (payload : Payload)
  | deliver
  | remove
  | tick (elapsed : ℕ)

namespace AckExchange

def initial (nsp : String) (start : ℕ) : AckExchange := ⟨.fresh nsp start,[],[],[],[],[],[]⟩

def own (s : AckExchange) (act : AckAct) : Option AckExchange :=
  (s.asker.step act).map (fun asker => { s with asker := asker })

/-- A packet is sent after the entry of its call has been pushed, and a callback answers under the id that it was
given. -/
def step (s : AckExchange) : ExchangeAct → Option AckExchange
  | .ask event payload timeout => some { s with
      asker := s.asker.generate timeout
      asked := s.asked ++ [⟨event,payload⟩]
      unsent := s.unsent ++
        [(s.asker.calls,buildPacketForPayload payload (some event) s.asker.nsp (some s.asker.seq) false)] }
  | .push i timeStarted => s.own (.push i timeStarted)
  | .send i =>
    match s.unsent[i]? with
    | none => none
    | some (number,packet) =>
      if ∀ call ∈ s.asker.inFlight, call.callback ≠ number then
        some { s with unsent := s.unsent.eraseIdx i, toPeer := s.toPeer ++ [packet] }
      else none
  | .lose i => some { s with unsent := s.unsent.eraseIdx i }
  | .dispatch =>
    match s.toPeer with
    | [] => none
    | packet :: rest => some { s with
        toPeer := rest
        dispatched := s.dispatched ++ (packet.arrived.dispatched s.asker.nsp).toList }
  | .answer i payload =>
    match s.dispatched[i]?.bind Dispatch.needAck with
    | none => none
    | some id => some { s with
        answers := s.answers ++ [(id,payload)]
        toAsker := s.toAsker ++ [buildPacketForPayload payload none s.asker.nsp (some id) true] }
  | .deliver =>
    match s.toAsker with
    | [] => none
    | packet :: rest =>
      (s.asker.step (.receive packet.arrived)).map (fun asker => { s with asker := asker, toAsker := rest })
  | .remove => s.own .remove
  | .tick elapsed => s.own (.tick elapsed)

def Legible (_ : AckExchange) : ExchangeAct → Prop
  | .ask event payload _ => (binaries payload.parts).length ≤ 255 ∧ payload.Unmistakable ∧
      Event.fromString event.toString = event ∧ payload.parts ≠ []
  | .answer _ payload => (binaries payload.parts).length ≤ 255 ∧ payload.Unmistakable
  | _ => True

/-- The payload that the callback of an answer is called with. -/
def answered (payload : Payload) : Option Payload := if payload.parts = [] then none else some payload.normal

end AckExchange

/-- What the peer dispatches for the call with this number. -/
def Asked.dispatch (asked : Asked) (number : ℕ) : Dispatch :=
  ⟨asked.event,some asked.payload.normal,some (UInt64.ofNat number)⟩

namespace AckExchange

section Origins
variable {s t : AckExchange} {act : ExchangeAct}

def Carries (s : AckExchange) (number : ℕ) (packet : Packet) : Prop :=
  ∃ asked : Asked, s.asked[number]? = some asked ∧
    packet.arrived.dispatched s.asker.nsp = some (asked.dispatch number)

def Registered (s : AckExchange) (number : ℕ) : Prop := ∃ ack ∈ s.asker.pushed, ack.callback = number

def Awaited (s : AckExchange) (dispatch : Dispatch) : Prop :=
  ∃ number, ∃ asked : Asked, s.asked[number]? = some asked ∧ dispatch = asked.dispatch number ∧ s.Registered number

/-- A packet that carries an answer to a dispatched call. -/
def Replies (s : AckExchange) (packet : Packet) (answer : UInt64 × Payload) : Prop :=
  packet.arrived.ackTarget s.asker.nsp = some (answer.1,answered answer.2)

structure Origins (s : AckExchange) : Prop where
  calls : s.asker.calls = s.asked.length
  numbered : ∀ number < s.asker.calls,
    (∃ call ∈ s.asker.inFlight, call.callback = number) ∨ s.Registered number
  unsent : ∀ draft ∈ s.unsent, s.Carries draft.1 draft.2
  toPeer : ∀ packet ∈ s.toPeer, ∃ number, s.Carries number packet ∧ s.Registered number
  dispatched : ∀ dispatch ∈ s.dispatched, s.Awaited dispatch
  answers : ∀ answer ∈ s.answers, ∃ dispatch ∈ s.dispatched, dispatch.needAck = some answer.1
  toAsker : ∀ packet ∈ s.toAsker, ∃ answer ∈ s.answers, s.Replies packet answer
  invoked : ∀ inv ∈ s.asker.invoked, inv.ack.id = UInt64.ofNat inv.ack.callback ∧ ∃ answer ∈ s.answers,
    answer.1 = inv.ack.id ∧ inv.payload = answered answer.2

theorem origins_initial (nsp : String) (start : ℕ) : (initial nsp start).Origins where
  calls := rfl
  numbered := nofun
  unsent := nofun
  toPeer := nofun
  dispatched := nofun
  answers := nofun
  toAsker := nofun
  invoked := nofun

/-- Calls are appended and entries are pushed; neither is ever taken back. -/
structure Before (s t : AckExchange) : Prop where
  nsp : t.asker.nsp = s.asker.nsp
  asked : s.asked <+: t.asked
  pushed : s.asker.pushed ⊆ t.asker.pushed

theorem Before.getElem? (h : s.Before t) {number : ℕ} {asked : Asked} (hget : s.asked[number]? = some asked) :
    t.asked[number]? = some asked := by
  obtain ⟨rest,hrest⟩ := h.asked
  have hlt : number < s.asked.length := (List.getElem?_eq_some_iff.mp hget).1
  rw [← hrest,List.getElem?_append_left hlt,hget]

theorem Before.registered (h : s.Before t) {number : ℕ} (hr : s.Registered number) : t.Registered number := by
  obtain ⟨ack,hm,hnumber⟩ := hr
  exact ⟨ack,h.pushed hm,hnumber⟩

theorem Before.carries (h : s.Before t) {number : ℕ} {packet : Packet} (hc : s.Carries number packet) :
    t.Carries number packet := by
  obtain ⟨asked,hget,hdispatch⟩ := hc
  exact ⟨asked,h.getElem? hget,by rw [h.nsp]; exact hdispatch⟩

theorem Before.awaited (h : s.Before t) {dispatch : Dispatch} (ha : s.Awaited dispatch) : t.Awaited dispatch := by
  obtain ⟨number,asked,hget,hdispatch,hr⟩ := ha
  exact ⟨number,asked,h.getElem? hget,hdispatch,h.registered hr⟩

theorem Before.replies (h : s.Before t) {packet : Packet} {answer : UInt64 × Payload}
    (hr : s.Replies packet answer) : t.Replies packet answer := by
  rw [Replies,h.nsp]
  exact hr

theorem pushed_subset {s t : AckState} {act : AckAct} (h : s.step act = some t) : s.pushed ⊆ t.pushed := by
  rcases step_cases h with ⟨timeout,-,rfl⟩ | ⟨i,call,timeStarted,-,-,rfl⟩ | ⟨elapsed,-,rfl⟩ |
    ⟨packet,-,-,rfl⟩ | ⟨index,rest,-,-,rfl⟩
  · exact List.Subset.refl _
  · exact List.subset_append_left _ _
  · exact List.Subset.refl _
  · unfold AckState.receive
    split <;> exact List.Subset.refl _
  · unfold AckState.remove
    split <;> exact List.Subset.refl _

theorem numbered_step (h : ∀ number < s.asker.calls,
      (∃ call ∈ s.asker.inFlight, call.callback = number) ∨ s.Registered number)
    {act : AckAct} (hstep : s.asker.step act = some t.asker) :
    ∀ number < t.asker.calls, (∃ call ∈ t.asker.inFlight, call.callback = number) ∨ t.Registered number := by
  intro number hlt
  have hregistered : s.Registered number → t.Registered number := by
    rintro ⟨ack,hm,hnumber⟩
    exact ⟨ack,pushed_subset hstep hm,hnumber⟩
  rcases step_cases hstep with ⟨timeout,-,ht⟩ | ⟨i,call,timeStarted,-,hi,ht⟩ | ⟨elapsed,-,ht⟩ |
    ⟨packet,-,-,ht⟩ | ⟨index,rest,-,-,ht⟩
  · rw [ht] at hlt
    by_cases hnew : number = s.asker.calls
    · left
      rw [ht]
      exact ⟨_,List.mem_append_right _ (List.mem_singleton.mpr rfl),hnew.symm⟩
    · simp only [AckState.generate] at hlt
      refine (h number (by omega)).imp ?_ hregistered
      rintro ⟨call,hm,hnumber⟩
      rw [ht]
      exact ⟨call,List.mem_append_left _ hm,hnumber⟩
  · rw [ht] at hlt
    rcases h number hlt with ⟨other,hm,hnumber⟩ | hr
    · obtain ⟨hlen,hget⟩ := List.getElem?_eq_some_iff.mp hi
      rcases List.mem_cons.mp ((List.getElem_cons_eraseIdx_perm hlen).mem_iff.mpr hm) with hm | hm
      · right
        refine ⟨⟨call.id,call.timeout,timeStarted,call.callback⟩,?_,?_⟩
        · rw [ht]
          exact List.mem_append_right _ (List.mem_singleton.mpr rfl)
        · rw [← hnumber,hm,hget]
      · left
        rw [ht]
        exact ⟨other,hm,hnumber⟩
    · exact Or.inr (hregistered hr)
  · rw [ht] at hlt ⊢
    exact (h number hlt).imp_right hregistered
  · rw [ht,receive_calls] at hlt
    refine (h number hlt).imp_left ?_ |>.imp_right hregistered
    rintro ⟨call,hm,hnumber⟩
    refine ⟨call,?_,hnumber⟩
    rw [ht]
    unfold AckState.receive
    split <;> exact hm
  · rw [ht,remove_calls] at hlt
    refine (h number hlt).imp_left ?_ |>.imp_right hregistered
    rintro ⟨call,hm,hnumber⟩
    refine ⟨call,?_,hnumber⟩
    rw [ht]
    unfold AckState.remove
    split <;> exact hm

theorem dispatched_event {event : Event} {payload : Payload} (nsp : String) (id : UInt64)
    (hl : (binaries payload.parts).length ≤ 255 ∧ payload.Unmistakable ∧
      Event.fromString event.toString = event ∧ payload.parts ≠ []) :
    (buildPacketForPayload payload (some event) nsp (some id) false).arrived.dispatched nsp =
      some ⟨event,some payload.normal,some id⟩ := by
  obtain ⟨hcount,hp,he⟩ := hl
  rw [Packet.dispatched]
  exact (if_pos rfl).trans (eventArm_of_legible (some id) hcount hp he)

theorem ackTarget_answer {payload : Payload} (nsp : String) (id : UInt64)
    (hl : (binaries payload.parts).length ≤ 255 ∧ payload.Unmistakable) :
    (buildPacketForPayload payload none nsp (some id) true).arrived.ackTarget nsp = some (id,answered payload) := by
  have harm := @ackArm_arrived payload nsp (some id) hl.1 hl.2
  rw [Packet.ackTarget]
  refine (if_pos rfl).trans ?_
  rw [harm]
  rfl

theorem origins_ask (h : s.Origins) (hseq : s.asker.seq = UInt64.ofNat s.asker.calls) {event : Event}
    {payload : Payload} {timeout : ℕ} (hl : s.Legible (.ask event payload timeout))
    (hstep : s.step (.ask event payload timeout) = some t) : t.Origins := by
  cases hstep
  have hbefore : s.Before { s with
      asker := s.asker.generate timeout
      asked := s.asked ++ [⟨event,payload⟩]
      unsent := s.unsent ++
        [(s.asker.calls,buildPacketForPayload payload (some event) s.asker.nsp (some s.asker.seq) false)] } :=
    ⟨rfl,List.prefix_append _ _,List.Subset.refl _⟩
  refine ⟨?_,numbered_step h.numbered (show s.asker.step (.generate timeout) = _ from rfl),?_,?_,?_,h.answers,h.toAsker,
    h.invoked⟩
  · simp [AckState.generate,h.calls]
  · intro draft hm
    rcases List.mem_append.mp hm with hm | hm
    · exact hbefore.carries (h.unsent draft hm)
    · rw [List.mem_singleton.mp hm]
      refine ⟨⟨event,payload⟩,?_,?_⟩
      · simp [h.calls]
      · rw [hseq]
        exact dispatched_event _ _ hl
  · intro packet hm
    obtain ⟨number,hc,hr⟩ := h.toPeer packet hm
    exact ⟨number,hbefore.carries hc,hbefore.registered hr⟩
  · exact fun dispatch hm => hbefore.awaited (h.dispatched dispatch hm)

theorem origins_own (h : s.Origins) {act : AckAct} (hact : act.isGenerate = false ∧ act.isReceive = false)
    (hstep : s.own act = some t) : t.Origins := by
  obtain ⟨asker,hasker,rfl⟩ := Option.map_eq_some_iff.mp hstep
  have hbefore : s.Before { s with asker := asker } := ⟨step_nsp hasker,List.prefix_refl _,pushed_subset hasker⟩
  have hkept : asker.calls = s.asker.calls ∧ asker.invoked = s.asker.invoked := by
    rcases step_cases hasker with ⟨timeout,rfl,-⟩ | ⟨i,call,timeStarted,rfl,-,rfl⟩ | ⟨elapsed,rfl,rfl⟩ |
      ⟨packet,rfl,-,-⟩ | ⟨index,rest,rfl,-,rfl⟩
    · cases hact.1
    · exact ⟨rfl,rfl⟩
    · exact ⟨rfl,rfl⟩
    · cases hact.2
    · unfold AckState.remove
      split <;> exact ⟨rfl,rfl⟩
  refine ⟨hkept.1.trans h.calls,numbered_step h.numbered hasker,?_,?_,?_,h.answers,?_,?_⟩
  · exact fun draft hm => hbefore.carries (h.unsent draft hm)
  · intro packet hm
    obtain ⟨number,hc,hr⟩ := h.toPeer packet hm
    exact ⟨number,hbefore.carries hc,hbefore.registered hr⟩
  · exact fun dispatch hm => hbefore.awaited (h.dispatched dispatch hm)
  · intro packet hm
    obtain ⟨answer,ha,hr⟩ := h.toAsker packet hm
    exact ⟨answer,ha,hbefore.replies hr⟩
  · intro inv hm
    rw [hkept.2] at hm
    exact h.invoked inv hm

theorem origins_deliver (h : s.Origins) (hinv : AckInv s.asker) (hcalls : s.asker.calls ≤ 2^64)
    (hstep : s.step .deliver = some t) : t.Origins := by
  cases hin : s.toAsker with
  | nil => simp [step,hin] at hstep
  | cons packet rest =>
    simp only [step,hin] at hstep
    obtain ⟨asker,hasker,rfl⟩ := Option.map_eq_some_iff.mp hstep
    obtain ⟨hidle,rfl⟩ : s.asker.toBeRemoved = [] ∧ asker = s.asker.receive packet.arrived := by
      simp only [AckState.step,Option.ite_none_right_eq_some,Option.some.injEq] at hasker
      exact ⟨hasker.1,hasker.2.symm⟩
    have hbefore : s.Before { s with asker := s.asker.receive packet.arrived, toAsker := rest } :=
      ⟨step_nsp hasker,List.prefix_refl _,pushed_subset hasker⟩
    have hrest : ∀ p ∈ rest, p ∈ s.toAsker := fun p hm => hin ▸ List.mem_cons_of_mem _ hm
    refine ⟨(receive_calls _ _).trans h.calls,numbered_step h.numbered hasker,?_,?_,?_,h.answers,?_,?_⟩
    · exact fun draft hm => hbefore.carries (h.unsent draft hm)
    · intro p hm
      obtain ⟨number,hc,hr⟩ := h.toPeer p hm
      exact ⟨number,hbefore.carries hc,hbefore.registered hr⟩
    · exact fun dispatch hm => hbefore.awaited (h.dispatched dispatch hm)
    · intro p hm
      obtain ⟨answer,ha,hr⟩ := h.toAsker p (hrest p hm)
      exact ⟨answer,ha,hbefore.replies hr⟩
    · intro inv hm
      rcases hinv.receive_cases hcalls hidle packet.arrived with ⟨hsame,-⟩ |
        ⟨payload,before,ack,after,htarget,hsplit,hreceive⟩
      · rw [hsame] at hm
        exact h.invoked inv hm
      rw [hreceive] at hm
      rcases List.mem_append.mp hm with hm | hm
      · exact h.invoked inv hm
      · split at hm
        · rw [List.mem_singleton.mp hm]
          obtain ⟨answer,hanswer,hr⟩ := h.toAsker packet (hin ▸ List.mem_cons_self)
          have hpair : (answer.1,answered answer.2) = (ack.id,payload) := Option.some.inj (hr.symm.trans htarget)
          have hentry := hinv.entries ack (by rw [hsplit]; exact List.mem_append_right _ List.mem_cons_self)
          exact ⟨hentry.1,answer,hanswer,(Prod.mk.inj hpair).1,(Prod.mk.inj hpair).2.symm⟩
        · cases hm

theorem origins_taken (h : s.Origins) (hstep : s.step act = some t)
    (hact : act = .dispatch ∨ ∃ i, act = .send i ∨ act = .lose i) : t.Origins := by
  rcases hact with rfl | ⟨i,rfl | rfl⟩
  · cases hin : s.toPeer with
    | nil => simp [step,hin] at hstep
    | cons packet rest =>
      simp only [step,hin,Option.some.injEq] at hstep
      subst hstep
      obtain ⟨number,⟨asked,hget,hdispatch⟩,hr⟩ := h.toPeer packet (hin ▸ List.mem_cons_self)
      refine ⟨h.calls,h.numbered,h.unsent,?_,?_,?_,h.toAsker,h.invoked⟩
      · exact fun p hm => h.toPeer p (hin ▸ List.mem_cons_of_mem _ hm)
      · intro dispatch hm
        simp only [hdispatch,Option.toList_some] at hm
        rcases List.mem_append.mp hm with hm | hm
        · exact h.dispatched dispatch hm
        · exact ⟨number,asked,hget,List.mem_singleton.mp hm,hr⟩
      · intro answer hm
        obtain ⟨dispatch,hd,hack⟩ := h.answers answer hm
        exact ⟨dispatch,List.mem_append_left _ hd,hack⟩
  · cases hi : s.unsent[i]? with
    | none => simp [step,hi] at hstep
    | some draft =>
      simp only [step,hi,Option.ite_none_right_eq_some,Option.some.injEq] at hstep
      obtain ⟨hpushed,rfl⟩ := hstep
      refine ⟨h.calls,h.numbered,?_,?_,h.dispatched,h.answers,h.toAsker,h.invoked⟩
      · exact fun d hm => h.unsent d (List.mem_of_mem_eraseIdx hm)
      · intro packet hm
        rcases List.mem_append.mp hm with hm | hm
        · exact h.toPeer packet hm
        · rw [List.mem_singleton.mp hm]
          have hdraft : draft ∈ s.unsent := List.mem_of_getElem? hi
          obtain ⟨asked,hget,-⟩ := h.unsent draft hdraft
          have hlt : draft.1 < s.asker.calls := h.calls ▸ (List.getElem?_eq_some_iff.mp hget).1
          refine ⟨draft.1,h.unsent draft hdraft,(h.numbered _ hlt).resolve_left ?_⟩
          rintro ⟨call,hm,hnumber⟩
          exact hpushed call hm hnumber
  · cases hstep
    exact ⟨h.calls,h.numbered,fun d hm => h.unsent d (List.mem_of_mem_eraseIdx hm),h.toPeer,h.dispatched,h.answers,
      h.toAsker,h.invoked⟩

theorem origins_answer (h : s.Origins) {i : ℕ} {payload : Payload} (hl : s.Legible (.answer i payload))
    (hstep : s.step (.answer i payload) = some t) : t.Origins := by
  cases hid : s.dispatched[i]?.bind Dispatch.needAck with
  | none => simp [step,hid] at hstep
  | some id =>
    simp only [step,hid,Option.some.injEq] at hstep
    subst hstep
    obtain ⟨dispatch,hget,hack⟩ := Option.bind_eq_some_iff.mp hid
    refine ⟨h.calls,h.numbered,h.unsent,h.toPeer,h.dispatched,?_,?_,?_⟩
    · intro answer hm
      rcases List.mem_append.mp hm with hm | hm
      · exact h.answers answer hm
      · rw [List.mem_singleton.mp hm]
        exact ⟨dispatch,List.mem_of_getElem? hget,hack⟩
    · intro packet hm
      rcases List.mem_append.mp hm with hm | hm
      · obtain ⟨answer,ha,hr⟩ := h.toAsker packet hm
        exact ⟨answer,List.mem_append_left _ ha,hr⟩
      · rw [List.mem_singleton.mp hm]
        exact ⟨(id,payload),List.mem_append_right _ (List.mem_singleton.mpr rfl),ackTarget_answer _ _ hl⟩
    · intro inv hm
      obtain ⟨hinv,answer,ha,hanswer⟩ := h.invoked inv hm
      exact ⟨hinv,answer,List.mem_append_left _ ha,hanswer⟩

theorem origins_step (h : s.Origins) (hinv : AckInv s.asker) (hcalls : s.asker.calls ≤ 2^64) (hl : s.Legible act)
    (hstep : s.step act = some t) : t.Origins := by
  cases act with
  | ask event payload timeout => exact origins_ask h hinv.seq hl hstep
  | push i timeStarted => exact origins_own h ⟨rfl,rfl⟩ hstep
  | send i => exact origins_taken h hstep (Or.inr ⟨i,Or.inl rfl⟩)
  | lose i => exact origins_taken h hstep (Or.inr ⟨i,Or.inr rfl⟩)
  | dispatch => exact origins_taken h hstep (Or.inl rfl)
  | answer i payload => exact origins_answer h hl hstep
  | deliver => exact origins_deliver h hinv hcalls hstep
  | remove => exact origins_own h ⟨rfl,rfl⟩ hstep
  | tick elapsed => exact origins_own h ⟨rfl,rfl⟩ hstep

theorem asker_step (hstep : s.step act = some t) :
    t.asker = s.asker ∨ ∃ own, s.asker.step own = some t.asker := by
  have hown : ∀ own, s.own own = some t → ∃ own, s.asker.step own = some t.asker := by
    intro own h
    obtain ⟨asker,hasker,rfl⟩ := Option.map_eq_some_iff.mp h
    exact ⟨own,hasker⟩
  cases act with
  | ask event payload timeout =>
    cases hstep
    exact Or.inr ⟨.generate timeout,rfl⟩
  | push i timeStarted => exact Or.inr (hown _ hstep)
  | remove => exact Or.inr (hown _ hstep)
  | tick elapsed => exact Or.inr (hown _ hstep)
  | lose i =>
    cases hstep
    exact Or.inl rfl
  | send i =>
    simp only [step] at hstep
    split at hstep
    · cases hstep
    · simp only [Option.ite_none_right_eq_some,Option.some.injEq] at hstep
      obtain ⟨-,rfl⟩ := hstep
      exact Or.inl rfl
  | dispatch =>
    simp only [step] at hstep
    split at hstep
    · cases hstep
    · cases hstep
      exact Or.inl rfl
  | answer i payload =>
    simp only [step] at hstep
    split at hstep
    · cases hstep
    · cases hstep
      exact Or.inl rfl
  | deliver =>
    simp only [step] at hstep
    split at hstep
    · cases hstep
    · obtain ⟨asker,hasker,rfl⟩ := Option.map_eq_some_iff.mp hstep
      exact Or.inr ⟨_,hasker⟩

theorem step_calls {s t : AckState} {act : AckAct} (h : s.step act = some t) : s.calls ≤ t.calls := by
  rcases step_cases h with ⟨timeout,-,rfl⟩ | ⟨i,call,timeStarted,-,-,rfl⟩ | ⟨elapsed,-,rfl⟩ |
    ⟨packet,-,-,rfl⟩ | ⟨index,rest,-,-,rfl⟩
  · exact Nat.le_succ _
  · exact Nat.le_refl _
  · exact Nat.le_refl _
  · rw [receive_calls]
  · rw [remove_calls]

/-- The invariant of the exchange, as long as the counter has not wrapped around. -/
structure Causal (s : AckExchange) : Prop where
  safe : AckSafe s.asker
  origins : s.asker.calls ≤ 2^64 → s.Origins

theorem causal_step (h : s.Causal) (hl : s.Legible act) (hstep : s.step act = some t) : t.Causal := by
  have hasker := asker_step hstep
  have hcalls : s.asker.calls ≤ t.asker.calls := by
    rcases hasker with he | ⟨own,hown⟩
    · rw [he]
    · exact step_calls hown
  constructor
  · rcases hasker with he | ⟨own,hown⟩
    · rw [he]
      exact h.safe
    · exact step_safe s.asker own t.asker h.safe hown
  · intro hle
    have hle' := hcalls.trans hle
    exact origins_step (h.origins hle') (h.safe hle') hle' hl hstep

theorem asker_nsp (hstep : s.step act = some t) : t.asker.nsp = s.asker.nsp := by
  rcases asker_step hstep with he | ⟨own,hown⟩
  · rw [he]
  · exact step_nsp hown

end Origins

section Exchange
variable {s : AckExchange}

theorem Origins.needAck_eq (h : s.Origins) (hcalls : s.asker.calls ≤ 2^64) {dispatch : Dispatch}
    (hd : dispatch ∈ s.dispatched) {callback : ℕ} (hlt : callback < s.asker.calls)
    (hid : dispatch.needAck = some (UInt64.ofNat callback)) :
    ∃ asked : Asked, s.asked[callback]? = some asked ∧ dispatch = asked.dispatch callback := by
  obtain ⟨number,asked,hget,rfl,-⟩ := h.dispatched dispatch hd
  have hnumber : number < s.asker.calls := h.calls ▸ (List.getElem?_eq_some_iff.mp hget).1
  have hnat := congrArg UInt64.toNat (Option.some.inj hid)
  rw [UInt64.toNat_ofNat_of_lt' (show number < 2^64 by omega),
    UInt64.toNat_ofNat_of_lt' (show callback < 2^64 by omega)] at hnat
  cases hnat
  exact ⟨asked,hget,rfl⟩

theorem Origins.deliver_timely (h : s.Origins) (hinv : AckInv s.asker) (hcalls : s.asker.calls ≤ 2^64)
    (hidle : s.asker.toBeRemoved = []) {packet : Packet} {rest : List Packet} (hin : s.toAsker = packet :: rest) :
    ∃ answer ∈ s.answers, s.Replies packet answer ∧ ∀ ack ∈ s.asker.outstanding, ack.id = answer.1 →
      s.asker.now-ack.timeStarted < ack.timeout →
        ∃ t, s.step .deliver = some t ∧ t.asker.invoked = s.asker.invoked ++
          [⟨ack,packet.arrived,s.asker.now,answered answer.2⟩] := by
  obtain ⟨answer,hanswer,hr⟩ := h.toAsker packet (hin ▸ List.mem_cons_self)
  refine ⟨answer,hanswer,hr,?_⟩
  intro ack hack hid htime
  refine ⟨{ s with asker := s.asker.receive packet.arrived, toAsker := rest },?_,?_⟩
  · simp [step,hin,AckState.step,hidle]
  rcases hinv.receive_cases hcalls hidle packet.arrived with ⟨-,hmiss⟩ |
    ⟨payload,before,found,after,htarget,hsplit,hreceive⟩
  · exact absurd hid (hmiss _ _ hr ack hack)
  have hpair : (answer.1,answered answer.2) = (found.id,payload) := Option.some.inj (hr.symm.trans htarget)
  obtain ⟨hfound,hpayload⟩ := Prod.mk.inj hpair
  have hmem : found ∈ s.asker.outstanding := by
    rw [hsplit]
    exact List.mem_append_right _ List.mem_cons_self
  have heq : ack = found :=
    List.inj_on_of_nodup_map (hinv.nodup_ids hcalls) hack hmem (hid.trans hfound)
  rw [hreceive,← heq,← hpayload,if_pos htime]

end Exchange

def sampleActs : List ExchangeAct :=
  [.ask (.custom "foo") (.binary [7]) 10,.ask (.custom "bar") (.binary [8]) 10,.push 0 0,.push 0 0,.send 1,.send 0,
    .dispatch,.dispatch,.answer 1 (.binary [1]),.answer 0 (.binary [2]),.deliver,.remove,.tick 5,.deliver]

theorem legible_binary (data : Bytes) : (Payload.binary data).Unmistakable := by
  intro _ v hv
  cases List.mem_singleton.mp hv

theorem sampleActs_legible : Along step Legible (initial "/" 0) sampleActs := by
  refine along_of_forall (P := Legible (initial "/" 0)) ?_ _
  simp only [sampleActs,List.forall_mem_cons,List.not_mem_nil,false_implies,implies_true,Legible,and_true,true_and,
    legible_binary]
  decide +kernel

end AckExchange

end SocketIox.SocketIo
