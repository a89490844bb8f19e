import Mathlib.Data.List.Nodup
import Mathlib.Data.List.Perm.Basic
import SocketIox.Proc.Tasks
import SocketIox.SocketIo.Acks

/-! # Ack safety over whole runs

Entries and calls in flight have distinct numbers, and an id is its number modulo
the width of the counter. So at most one entry matches a packet, its index stays
right while pushes go on, and its callback is gone with it.
-/
namespace SocketIox.SocketIo
open Wire Proc

/-- Invoked by an ack of the namespace with the entry's own id, before its timeout elapsed. -/
structure Invocation.Valid (nsp : String) (inv : Invocation) : Prop where
  nsp : inv.packet.nsp = nsp
  ptype : inv.packet.ptype = .ack ∨ inv.packet.ptype = .binaryAck
  id : inv.packet.id = some inv.ack.id
  timely : inv.time < inv.ack.timeStarted+inv.ack.timeout

theorem Packet.ackTarget_eq_some {packet : Packet} {nsp : String} {id : UInt64} {payload : Option Payload}
    (h : packet.ackTarget nsp = some (id,payload)) :
    packet.nsp = nsp ∧ (packet.ptype = .ack ∨ packet.ptype = .binaryAck) ∧ packet.id = some id := by
  unfold Packet.ackTarget at h
  split at h
  · rename_i hn
    unfold Packet.ackArm at h
    cases hp : packet.ptype <;> cases hi : packet.id <;> simp_all
  · cases h

structure AckInv (s : AckState) : Prop where
  seq : s.seq = UInt64.ofNat s.calls
  entries : ∀ ack ∈ s.outstanding, ack.id = UInt64.ofNat ack.callback ∧ ack.callback < s.calls
  flights : ∀ call ∈ s.inFlight, call.id = UInt64.ofNat call.callback ∧ call.callback < s.calls
  distinct : (s.outstanding.map Ack.callback ++ s.inFlight.map InFlight.callback).Nodup
  removals : s.toBeRemoved = [] ∨ ∃ k, s.toBeRemoved = [k] ∧ k < s.outstanding.length
  steady : s.panicked = false
  once : (s.invoked.map (·.ack.callback)).Nodup
  known : ∀ inv ∈ s.invoked, inv.ack.callback < s.calls
  landed : ∀ inv ∈ s.invoked, ∀ call ∈ s.inFlight, call.callback ≠ inv.ack.callback
  leaving : ∀ inv ∈ s.invoked, ∀ i ack, s.outstanding[i]? = some ack →
    ack.callback = inv.ack.callback → i ∈ s.toBeRemoved
  valid : ∀ inv ∈ s.invoked, inv.Valid s.nsp

theorem ackInv_fresh (nsp : String) (now : ℕ) : AckInv (AckState.fresh nsp now) where
  seq := rfl
  entries := by simp [AckState.fresh]
  flights := by simp [AckState.fresh]
  distinct := by simp [AckState.fresh]
  removals := Or.inl rfl
  steady := rfl
  once := by simp [AckState.fresh]
  known := by simp [AckState.fresh]
  landed := by simp [AckState.fresh]
  leaving := by simp [AckState.fresh]
  valid := by simp [AckState.fresh]

section Steps
variable {s : AckState}

theorem AckInv.nodup_ids (h : AckInv s) (hcalls : s.calls ≤ 2^64) : (s.outstanding.map Ack.id).Nodup := by
  have hcallbacks := (List.nodup_append.mp h.distinct).1
  rw [List.Nodup,List.pairwise_map] at hcallbacks ⊢
  refine List.Pairwise.imp_of_mem ?_ hcallbacks
  intro a b ha hb hne hid
  obtain ⟨hia,hla⟩ := h.entries a ha
  obtain ⟨hib,hlb⟩ := h.entries b hb
  apply hne
  rw [hia,hib] at hid
  have hnat := congrArg UInt64.toNat hid
  rw [UInt64.toNat_ofNat_of_lt' (show a.callback < 2^64 by omega),
    UInt64.toNat_ofNat_of_lt' (show b.callback < 2^64 by omega)] at hnat
  exact hnat

theorem AckInv.index_unique (h : AckInv s) {i k : ℕ} {a b : Ack} (hi : s.outstanding[i]? = some a)
    (hk : s.outstanding[k]? = some b) (he : a.callback = b.callback) : i = k := by
  have hcallbacks := (List.nodup_append.mp h.distinct).1
  have hlt : i < (s.outstanding.map Ack.callback).length := by
    rw [List.length_map]
    exact (List.getElem?_eq_some_iff.mp hi).1
  apply (List.getElem?_inj hlt hcallbacks).mp
  rw [List.getElem?_map,List.getElem?_map,hi,hk,Option.map_some,Option.map_some,he]

theorem AckInv.not_invoked (h : AckInv s) (hidle : s.toBeRemoved = []) {inv : Invocation} (hv : inv ∈ s.invoked)
    {i : ℕ} {ack : Ack} (hi : s.outstanding[i]? = some ack) : ack.callback ≠ inv.ack.callback := by
  intro he
  have hr := h.leaving inv hv i ack hi he
  rw [hidle] at hr
  cases hr

theorem AckInv.generate (h : AckInv s) (timeout : ℕ) : AckInv (s.generate timeout) where
  seq := by
    simp only [AckState.generate,h.seq,UInt64.ofNat_add]
    rfl
  entries := by
    intro ack ha
    obtain ⟨hid,hlt⟩ := h.entries ack ha
    exact ⟨hid,Nat.lt_succ_of_lt hlt⟩
  flights := by
    intro call hc
    rcases List.mem_append.mp hc with hc | hc
    · obtain ⟨hid,hlt⟩ := h.flights call hc
      exact ⟨hid,Nat.lt_succ_of_lt hlt⟩
    · cases List.mem_singleton.mp hc
      exact ⟨h.seq,Nat.lt_succ_self _⟩
  distinct := by
    have hnew : s.calls ∉ s.outstanding.map Ack.callback ++ s.inFlight.map InFlight.callback := by
      intro hm
      rcases List.mem_append.mp hm with hm | hm
      · obtain ⟨ack,ha,he⟩ := List.mem_map.mp hm
        have := (h.entries ack ha).2
        omega
      · obtain ⟨call,hc,he⟩ := List.mem_map.mp hm
        have := (h.flights call hc).2
        omega
    rw [AckState.generate,List.map_append,← List.append_assoc,List.map_singleton]
    refine pairwise_append_singleton h.distinct ?_
    rintro callback hcallback rfl
    exact hnew hcallback
  removals := h.removals
  steady := h.steady
  once := h.once
  known := fun inv hi => Nat.lt_succ_of_lt (h.known inv hi)
  landed := by
    intro inv hi call hc
    rcases List.mem_append.mp hc with hc | hc
    · exact h.landed inv hi call hc
    · cases List.mem_singleton.mp hc
      have := h.known inv hi
      simp only
      omega
  leaving := h.leaving
  valid := h.valid

theorem AckInv.push (h : AckInv s) {i : ℕ} {call : InFlight} (hi : s.inFlight[i]? = some call)
    (timeStarted : ℕ) : AckInv (s.push i call timeStarted) where
  seq := h.seq
  entries := by
    intro ack ha
    rcases List.mem_append.mp ha with ha | ha
    · exact h.entries ack ha
    · cases List.mem_singleton.mp ha
      exact h.flights call (List.mem_of_getElem? hi)
  flights := fun other hc => h.flights other (List.mem_of_mem_eraseIdx hc)
  distinct := by
    obtain ⟨hlt,hget⟩ := List.getElem?_eq_some_iff.mp hi
    have hperm := List.Perm.map InFlight.callback (List.getElem_cons_eraseIdx_perm hlt)
    rw [hget,List.map_cons] at hperm
    simp only [AckState.push,List.map_append,List.map_cons,List.map_nil,List.append_assoc,List.singleton_append]
    exact (hperm.append_left _).nodup_iff.mpr h.distinct
  removals := by
    rcases h.removals with hr | ⟨k,hr,hk⟩
    · exact Or.inl hr
    · refine Or.inr ⟨k,hr,?_⟩
      simp only [AckState.push,List.length_append,List.length_singleton]
      omega
  steady := h.steady
  once := h.once
  known := h.known
  landed := fun inv hv other hc => h.landed inv hv other (List.mem_of_mem_eraseIdx hc)
  leaving := by
    intro inv hv j ack hj hcallback
    simp only [AckState.push,List.getElem?_append] at hj
    split at hj
    · exact h.leaving inv hv j ack hj hcallback
    · cases List.mem_singleton.mp (List.mem_of_getElem? hj)
      exact absurd hcallback (h.landed inv hv call (List.mem_of_getElem? hi))
  valid := h.valid

theorem AckInv.remove_eq (h : AckInv s) {k : ℕ} {rest : List ℕ} (hk : s.toBeRemoved = k :: rest) :
    s.remove k rest = { s with outstanding := s.outstanding.eraseIdx k, toBeRemoved := [] } := by
  rcases h.removals with hr | ⟨k',hr,hlt⟩
  · rw [hk] at hr
    cases hr
  · rw [hk] at hr
    cases hr
    simp [AckState.remove,hlt]

theorem AckInv.remove (h : AckInv s) {k : ℕ} {rest : List ℕ} (hk : s.toBeRemoved = k :: rest) :
    AckInv (s.remove k rest) := by
  rw [h.remove_eq hk]
  exact {
    seq := h.seq
    entries := fun ack ha => h.entries ack (List.mem_of_mem_eraseIdx ha)
    flights := h.flights
    distinct := h.distinct.sublist (((List.eraseIdx_sublist _ _).map _).append_right _)
    removals := Or.inl rfl
    steady := h.steady
    once := h.once
    known := h.known
    landed := h.landed
    leaving := by
      intro inv hv i ack hi hcallback
      obtain ⟨j,hj,hget⟩ := List.mem_eraseIdx_iff_getElem?.mp (List.mem_of_getElem? hi)
      have hm := h.leaving inv hv j ack hget hcallback
      rcases h.removals with hr | ⟨k',hr,-⟩
      · rw [hr] at hm
        cases hm
      · rw [hk] at hr
        cases hr
        rw [hk] at hm
        exact absurd (List.mem_singleton.mp hm) hj
    valid := h.valid }

theorem AckInv.receive_cases (h : AckInv s) (hcalls : s.calls ≤ 2^64) (hidle : s.toBeRemoved = [])
    (packet : Packet) :
    (s.receive packet = s ∧
        ∀ id payload, packet.ackTarget s.nsp = some (id,payload) → ∀ ack ∈ s.outstanding, ack.id ≠ id) ∨
      ∃ payload before ack after, packet.ackTarget s.nsp = some (ack.id,payload) ∧
        s.outstanding = before ++ ack :: after ∧
        s.receive packet = { s with
          toBeRemoved := [before.length]
          invoked := s.invoked ++ if s.now-ack.timeStarted < ack.timeout then
            [⟨ack,packet,s.now,payload⟩] else [] } := by
  unfold AckState.receive
  cases ht : packet.ackTarget s.nsp with
  | none =>
    left
    refine ⟨rfl,?_⟩
    intro id payload hsome
    cases hsome
  | some target =>
    obtain ⟨id,payload⟩ := target
    rcases scan_eq id s.now (h.nodup_ids hcalls) 0 with ⟨hs,hall⟩ | ⟨before,ack,after,hsplit,rfl,hs⟩
    · left
      simp only [hs,List.map_nil,List.append_nil,← hidle]
      refine ⟨trivial,?_⟩
      rintro id' payload' ⟨⟩
      exact hall
    · right
      refine ⟨payload,before,ack,after,rfl,hsplit,?_⟩
      simp only [hs,Nat.zero_add]
      split <;> rfl

theorem AckInv.receive (h : AckInv s) (hcalls : s.calls ≤ 2^64) (hidle : s.toBeRemoved = []) (packet : Packet) :
    AckInv (s.receive packet) := by
  rcases h.receive_cases hcalls hidle packet with ⟨hs,-⟩ | ⟨payload,before,ack,after,htarget,hsplit,hs⟩
  · rw [hs]
    exact h
  have hget : s.outstanding[before.length]? = some ack := by
    rw [hsplit]
    simp
  have hmem : ack ∈ s.outstanding := List.mem_of_getElem? hget
  obtain ⟨hnsp,htype,hid⟩ := Packet.ackTarget_eq_some htarget
  have hnew : ∀ inv ∈ (if s.now-ack.timeStarted < ack.timeout then
      [⟨ack,packet,s.now,payload⟩] else [] : List Invocation), inv.ack = ack ∧ inv.Valid s.nsp := by
    intro inv hv
    split at hv
    · cases List.mem_singleton.mp hv
      exact ⟨rfl,hnsp,htype,hid,show s.now < ack.timeStarted+ack.timeout by omega⟩
    · cases hv
  rw [hs]
  exact {
    seq := h.seq
    entries := h.entries
    flights := h.flights
    distinct := h.distinct
    removals := Or.inr ⟨before.length,rfl,(List.getElem?_eq_some_iff.mp hget).1⟩
    steady := h.steady
    once := by
      rw [List.map_append,List.nodup_append]
      refine ⟨h.once,?_,?_⟩
      · split <;> simp
      · rintro a ha b hb rfl
        obtain ⟨old,hold,rfl⟩ := List.mem_map.mp ha
        obtain ⟨new,hn,he⟩ := List.mem_map.mp hb
        rw [(hnew new hn).1] at he
        exact h.not_invoked hidle hold hget he
    known := by
      intro inv hv
      rcases List.mem_append.mp hv with hv | hv
      · exact h.known inv hv
      · rw [(hnew inv hv).1]
        exact (h.entries ack hmem).2
    landed := by
      intro inv hv call hc
      rcases List.mem_append.mp hv with hv | hv
      · exact h.landed inv hv call hc
      · rw [(hnew inv hv).1]
        intro he
        exact (List.nodup_append.mp h.distinct).2.2 _ (List.mem_map_of_mem hmem) _ (List.mem_map_of_mem hc) he.symm
    leaving := by
      intro inv hv i other hi hcallback
      rcases List.mem_append.mp hv with hv | hv
      · exact absurd hcallback (h.not_invoked hidle hv hi)
      · rw [(hnew inv hv).1] at hcallback
        exact List.mem_singleton.mpr (h.index_unique hi hget hcallback)
    valid := by
      intro inv hv
      rcases List.mem_append.mp hv with hv | hv
      · exact h.valid inv hv
      · exact (hnew inv hv).2 }

end Steps

def AckAct.isGenerate : AckAct → Bool
  | .generate _ => true
  | _ => false

theorem receive_calls (s : AckState) (packet : Packet) : (s.receive packet).calls = s.calls := by
  unfold AckState.receive
  split <;> rfl

theorem remove_calls (s : AckState) (index : ℕ) (rest : List ℕ) : (s.remove index rest).calls = s.calls := by
  unfold AckState.remove
  split <;> rfl

theorem run_calls {s u : AckState} {acts : List AckAct} (h : run AckState.step s acts = some u) :
    u.calls = s.calls+acts.countP AckAct.isGenerate := by
  induction acts generalizing s with
  | nil =>
    cases h
    rfl
  | cons act acts ih =>
    obtain ⟨t,hstep,hrun⟩ := run_cons h
    have hr := ih hrun
    rw [List.countP_cons]
    rcases step_cases hstep with ⟨timeout,rfl,rfl⟩ | ⟨i,call,timeStarted,rfl,-,rfl⟩ | ⟨elapsed,rfl,rfl⟩ |
      ⟨packet,rfl,-,rfl⟩ | ⟨index,rest,rfl,-,rfl⟩
    · simp only [AckState.generate] at hr
      simp only [AckAct.isGenerate,↓reduceIte]
      omega
    · exact hr
    · exact hr
    · rw [receive_calls] at hr
      exact hr
    · rw [remove_calls] at hr
      exact hr

def AckSafe (s : AckState) : Prop := s.calls ≤ 2^64 → AckInv s

theorem step_safe (s : AckState) (act : AckAct) (t : AckState) (hs : AckSafe s) (h : s.step act = some t) :
    AckSafe t := by
  intro hcalls
  rcases step_cases h with ⟨timeout,-,rfl⟩ | ⟨i,call,timeStarted,-,hi,rfl⟩ | ⟨elapsed,-,rfl⟩ |
    ⟨packet,-,hidle,rfl⟩ | ⟨index,rest,-,hk,rfl⟩
  · exact (hs (Nat.le_of_succ_le hcalls)).generate timeout
  · exact (hs hcalls).push hi timeStarted
  · have hinv := hs hcalls
    exact ⟨hinv.seq,hinv.entries,hinv.flights,hinv.distinct,hinv.removals,hinv.steady,hinv.once,hinv.known,
      hinv.landed,hinv.leaving,hinv.valid⟩
  · rw [receive_calls] at hcalls
    exact (hs hcalls).receive hcalls hidle packet
  · rw [remove_calls] at hcalls
    exact (hs hcalls).remove hk

section Handling
variable {s : AckState}

def AckAct.isReceive : AckAct → Bool
  | .receive _ => true
  | _ => false

/-- The entry found in `s` is still to be removed; entries pushed since are at the end. -/
def Holding (s : AckState) (k : ℕ) (v : AckState) : Prop :=
  v.toBeRemoved = [k] ∧ ∃ new, v.pushed = s.pushed ++ new ∧ v.outstanding = s.outstanding ++ new

/-- Nothing is left to be removed, and the entries are those kept from `s` and those pushed since. -/
def Settled (s : AckState) (kept : List Ack) (v : AckState) : Prop :=
  v.toBeRemoved = [] ∧ ∃ new, v.pushed = s.pushed ++ new ∧ v.outstanding = kept ++ new

theorem step_settled {kept : List Ack} {v t : AckState} {act : AckAct} (ha : act.isReceive = false)
    (hv : Settled s kept v) (h : v.step act = some t) : Settled s kept t := by
  obtain ⟨hr,new,hp,ho⟩ := hv
  rcases step_cases h with ⟨timeout,-,rfl⟩ | ⟨i,call,timeStarted,-,-,rfl⟩ | ⟨elapsed,-,rfl⟩ |
    ⟨packet,rfl,-,-⟩ | ⟨index,rest,-,hk,-⟩
  · exact ⟨hr,new,hp,ho⟩
  · refine ⟨hr,new ++ [⟨call.id,call.timeout,timeStarted,call.callback⟩],?_,?_⟩
    · simp only [AckState.push,hp,List.append_assoc]
    · simp only [AckState.push,ho,List.append_assoc]
  · exact ⟨hr,new,hp,ho⟩
  · cases ha
  · rw [hr] at hk
    cases hk

def Handling (s : AckState) (k : ℕ) (v : AckState) : Prop :=
  Holding s k v ∨ Settled s (s.outstanding.eraseIdx k) v

theorem step_holding {k : ℕ} (hlt : k < s.outstanding.length) {v t : AckState} {act : AckAct}
    (ha : act.isReceive = false) (hv : Holding s k v) (h : v.step act = some t) : Handling s k t := by
  obtain ⟨hr,new,hp,ho⟩ := hv
  rcases step_cases h with ⟨timeout,-,rfl⟩ | ⟨i,call,timeStarted,-,-,rfl⟩ | ⟨elapsed,-,rfl⟩ |
    ⟨packet,rfl,-,-⟩ | ⟨index,rest,-,hk,rfl⟩
  · exact Or.inl ⟨hr,new,hp,ho⟩
  · refine Or.inl ⟨hr,new ++ [⟨call.id,call.timeout,timeStarted,call.callback⟩],?_,?_⟩
    · simp only [AckState.push,hp,List.append_assoc]
    · simp only [AckState.push,ho,List.append_assoc]
  · exact Or.inl ⟨hr,new,hp,ho⟩
  · cases ha
  · rw [hr] at hk
    cases hk
    have hlt' : k < v.outstanding.length := by
      rw [ho,List.length_append]
      omega
    refine Or.inr ⟨?_,new,?_,?_⟩
    · simp [AckState.remove,hlt']
    · simp [AckState.remove,hlt',hp]
    · rw [AckState.remove,if_pos hlt']
      simp only [ho,List.eraseIdx_append_of_lt_length hlt]

def Packet.misses (packet : Packet) (nsp : String) (ack : Ack) : Bool :=
  match packet.ackTarget nsp with
  | some (id,_) => ack.id != id
  | none => true

theorem filter_misses {packet : Packet} {payload : Option Payload} {before after : List Ack} {ack : Ack}
    (hn : ((before ++ ack :: after).map Ack.id).Nodup) {nsp : String}
    (ht : packet.ackTarget nsp = some (ack.id,payload)) :
    (before ++ ack :: after).filter (packet.misses nsp) = before ++ after := by
  rw [List.map_append,List.map_cons,List.nodup_append,List.nodup_cons] at hn
  obtain ⟨-,⟨hafter,-⟩,hbefore⟩ := hn
  have hself : packet.misses nsp ack = false := by simp [Packet.misses,ht]
  rw [List.filter_append,List.filter_cons_of_neg (by simp [hself])]
  congr 1
  · apply List.filter_eq_self.mpr
    intro other ho
    have hne := hbefore _ (List.mem_map_of_mem ho) _ List.mem_cons_self
    simpa [Packet.misses,ht] using hne
  · apply List.filter_eq_self.mpr
    intro other ho
    have hne : other.id ≠ ack.id := fun he => hafter (he ▸ List.mem_map_of_mem ho)
    simpa [Packet.misses,ht] using hne

/-- Once a packet is handled, the entry with its id is gone, the others are as they were,
and what was pushed meanwhile follows them. -/
theorem handled_settled (hinv : AckInv s) (hcalls : s.calls ≤ 2^64) {packet : Packet} {acts : List AckAct}
    {u : AckState} (hrun : run AckState.step s (.receive packet :: acts) = some u)
    (hacts : ∀ act ∈ acts, act.isReceive = false) (hdone : u.toBeRemoved = []) :
    Settled s (s.outstanding.filter (packet.misses s.nsp)) u := by
  obtain ⟨t,hstep,hrest⟩ := run_cons hrun
  have halong : Along AckState.step (fun _ act => act.isReceive = false) t acts := along_of_forall hacts t
  simp only [AckState.step,Option.ite_none_right_eq_some,Option.some.injEq] at hstep
  obtain ⟨hidle,rfl⟩ := hstep
  rcases hinv.receive_cases hcalls hidle packet with ⟨hs,hmiss⟩ | ⟨payload,before,ack,after,ht,hsplit,hs⟩
  · have hfilter : s.outstanding.filter (packet.misses s.nsp) = s.outstanding := by
      apply List.filter_eq_self.mpr
      intro ack ha
      unfold Packet.misses
      split
      · rename_i id payload ht
        simpa using hmiss id payload ht ack ha
      · rfl
    rw [hs] at hrest halong
    rw [hfilter]
    refine run_preserves_along (fun v act t ha hv h => step_settled ha hv h) halong ?_ hrest
    exact ⟨hidle,[],by simp,by simp⟩
  · have hlt : before.length < s.outstanding.length := by simp [hsplit]
    have hfilter : s.outstanding.filter (packet.misses s.nsp) = s.outstanding.eraseIdx before.length := by
      have hn := hinv.nodup_ids hcalls
      rw [hsplit] at hn ⊢
      rw [filter_misses hn ht]
      simp [List.eraseIdx_append_of_length_le]
    have hfirst : Handling s before.length (s.receive packet) := by
      left
      rw [hs]
      exact ⟨rfl,[],by simp,by simp⟩
    have hlast : Handling s before.length u := by
      refine run_preserves_along ?_ halong hfirst hrest
      intro v act t ha hv h
      rcases hv with hv | hv
      · exact step_holding hlt ha hv h
      · exact Or.inr (step_settled ha hv h)
    rw [hfilter]
    rcases hlast with hh | hh
    · rw [hh.1] at hdone
      cases hdone
    · exact hh

end Handling

theorem step_nsp {s t : AckState} {act : AckAct} (h : s.step act = some t) : t.nsp = s.nsp := by
  rcases step_cases h with ⟨timeout,-,rfl⟩ | ⟨i,call,timeStarted,-,-,rfl⟩ | ⟨elapsed,-,rfl⟩ |
    ⟨packet,-,-,rfl⟩ | ⟨index,rest,-,-,rfl⟩
  · rfl
  · rfl
  · rfl
  · unfold AckState.receive
    split <;> rfl
  · unfold AckState.remove
    split <;> rfl

/-- What a run of fewer than `2^64` calls from a fresh socket cannot break. -/
theorem ack_safety (nsp : String) (start : ℕ) (acts : List AckAct) (s : AckState)
    (hrun : run AckState.step (AckState.fresh nsp start) acts = some s)
    (hcalls : acts.countP AckAct.isGenerate < 2^64) :
    (s.outstanding.map Ack.id).Nodup ∧
    (s.invoked.map (·.ack.callback)).Nodup ∧
    (∀ inv ∈ s.invoked, inv.Valid nsp) ∧
    s.panicked = false ∧ s.toBeRemoved.length ≤ 1 ∧
    ∀ packet later u, run AckState.step s (.receive packet :: later) = some u →
      (∀ act ∈ later, act.isReceive = false) → u.toBeRemoved = [] →
        Settled s (s.outstanding.filter (packet.misses nsp)) u := by
  have hcount := run_calls hrun
  have hle : s.calls ≤ 2^64 := by
    simp only [AckState.fresh] at hcount
    omega
  have hinv : AckInv s :=
    run_preserves step_safe (fun _ => ackInv_fresh nsp start) hrun hle
  have hkeep : ∀ v act t, v.nsp = nsp → AckState.step v act = some t → t.nsp = nsp := by
    intro v act t hv h
    rw [step_nsp h,hv]
  have hnsp := run_preserves hkeep rfl hrun
  refine ⟨hinv.nodup_ids hle,hinv.once,hnsp ▸ hinv.valid,hinv.steady,?_,?_⟩
  · rcases hinv.removals with hr | ⟨k,hr,-⟩
    · simp [hr]
    · simp [hr]
  · intro packet later u hlater hacts hdone
    rw [← hnsp]
    exact handled_settled hinv hle hlater hacts hdone

theorem ack_safety_interleaved :
    ∃ s, run AckState.step (AckState.fresh "/" 0) [.generate 10,.generate 10,.push 0 0,.tick 5,
        .receive ⟨.ack,"/",none,some 0,0,none⟩,.push 0 2,.remove] = some s ∧
      s.outstanding = [⟨1,10,2,1⟩] ∧ s.invoked.map (·.ack) = [⟨0,10,0,0⟩] ∧
      (s.outstanding.map Ack.id).Nodup ∧ (s.invoked.map (·.ack.callback)).Nodup ∧
      ∀ inv ∈ s.invoked, inv.Valid "/" := by
  obtain ⟨s,hs⟩ : ∃ s, run AckState.step (AckState.fresh "/" 0) [.generate 10,.generate 10,.push 0 0,.tick 5,
      .receive ⟨.ack,"/",none,some 0,0,none⟩,.push 0 2,.remove] = some s := ⟨_,rfl⟩
  obtain ⟨hnodup,honce,hvalid,-⟩ := ack_safety "/" 0 _ s hs (by decide)
  refine ⟨s,hs,?_,?_,hnodup,honce,hvalid⟩
  · cases hs
    rfl
  · cases hs
    rfl

end SocketIox.SocketIo
