import SocketIox.SocketIo.Acks

/-! # Ack callbacks and the lock of the outstanding acks

The guard of `outstanding_acks` that `handle_ack` iterates over lives until its loop is over,
and the loop awaits the callbacks. `emit_with_ack` needs the same lock for its push, also when
it is called by such a callback: then the callback waits for `handle_ack`, which waits for it.
-/
namespace SocketIox.SocketIo
open Wire Proc

structure Incoming where
  packet : Packet
  id : UInt64
  payload : Option Payload

/-- Where an awaited callback stands: in code of its own, or in the call of `emit_with_ack` with
the given number, which has still to push its entry. -/
inductive CallbackStage where
  | running
  | emitting (call : ℕ)

inductive AckStage where
  | idle
  | locking (ack : Incoming)
  | scanning (ack : Incoming) (index : ℕ)
  | calling (ack : Incoming) (index : ℕ) (callback : CallbackStage)
  | removing

/-- `locked` says that the loop of `handle_ack` holds the write lock. The other users of the lock,
a push and a removal, take it and give it back without waiting in between. -/
structure AckLock where
  acks : AckState
  locked : Bool
  poll : AckStage

inductive LockAct where
  | generate (timeout : ℕ)
  | push (i timeStarted : ℕ)
  | tick (elapsed : ℕ)
  | receive (packet : Packet)
  | lock
  | examine
  | callbackEmit (timeout : ℕ)
  | callbackEmitted
  | callbackReturn
  | remove

def AckStage.inLoop : AckStage → Bool
  | .scanning _ _ | .calling _ _ _ => true
  | .idle | .locking _ | .removing => false

def AckStage.inCallback : AckStage → Bool
  | .calling _ _ _ => true
  | .idle | .locking _ | .scanning _ _ | .removing => false

namespace AckLock

def rest (acks : AckState) : AckLock := ⟨acks,false,.idle⟩

/-- The loop body for the entry at `index`, or the end of the loop. -/
def examine (s : AckLock) (ack : Incoming) (index : ℕ) : AckLock :=
  match s.acks.outstanding[index]? with
  | none => { s with locked := false, poll := .removing }
  | some entry =>
    if entry.id = ack.id then
      let toBeRemoved := s.acks.toBeRemoved ++ [index]
      if s.acks.now-entry.timeStarted < entry.timeout then { s with
        acks := { s.acks with
          toBeRemoved := toBeRemoved
          invoked := s.acks.invoked ++ [⟨entry,ack.packet,s.acks.now,ack.payload⟩] }
        poll := .calling ack index .running }
      else { s with acks := { s.acks with toBeRemoved := toBeRemoved }, poll := .scanning ack (index+1) }
    else { s with poll := .scanning ack (index+1) }

def step (s : AckLock) : LockAct → Option AckLock
  | .generate timeout => some { s with acks := s.acks.generate timeout }
  | .push i timeStarted =>
    if s.locked then none
    else (s.acks.step (.push i timeStarted)).map (fun acks => { s with acks := acks })
  | .tick elapsed => some { s with acks := { s.acks with now := s.acks.now+elapsed } }
  | .receive packet =>
    match s.poll with
    | .idle =>
      match packet.ackTarget s.acks.nsp with
      | some (id,payload) => some { s with poll := .locking ⟨packet,id,payload⟩ }
      | none => some s
    | _ => none
  | .lock =>
    match s.poll with
    | .locking ack => if s.locked then none else some { s with locked := true, poll := .scanning ack 0 }
    | _ => none
  | .examine =>
    match s.poll with
    | .scanning ack index => some (s.examine ack index)
    | _ => none
  | .callbackEmit timeout =>
    match s.poll with
    | .calling ack index .running => some { s with
        acks := s.acks.generate timeout
        poll := .calling ack index (.emitting s.acks.calls) }
    | _ => none
  | .callbackEmitted =>
    match s.poll with
    | .calling ack index (.emitting call) =>
      if s.acks.inFlight.any (fun flight => flight.callback = call) then none
      else some { s with poll := .calling ack index .running }
    | _ => none
  | .callbackReturn =>
    match s.poll with
    | .calling ack index .running => some { s with poll := .scanning ack (index+1) }
    | _ => none
  | .remove =>
    match s.poll with
    | .removing =>
      match s.acks.toBeRemoved with
      | [] => some { s with poll := .idle }
      | index :: rest => if s.locked then none else some { s with acks := s.acks.remove index rest }
    | _ => none

/-- No callback is under way while `handle_ack` holds the lock. -/
def CallbackUnlocked (s : AckLock) : Prop := ¬ (s.poll.inCallback = true ∧ s.locked = true)

def UnlockedAfter (s : AckLock) (act : LockAct) : Prop := ∀ t, step s act = some t → t.CallbackUnlocked

/-- The entry that is looked at has another id, or its time is over. -/
def Misses (s : AckLock) (act : LockAct) : Prop :=
  act = .examine → ∀ ack index entry, s.poll = .scanning ack index → s.acks.outstanding[index]? = some entry →
    ¬ (entry.id = ack.id ∧ s.acks.now-entry.timeStarted < entry.timeout)

def Guarded (s : AckLock) : Prop := s.locked = s.poll.inLoop

def Outside (s : AckLock) : Prop := s.Guarded ∧ s.poll.inCallback = false

section Steps
variable {s t : AckLock} {act : LockAct}

inductive Does (s : AckLock) : LockAct → AckLock → Prop
  | generate (timeout : ℕ) : Does s (.generate timeout) { s with acks := s.acks.generate timeout }
  | push (i timeStarted : ℕ) (acks : AckState) (hfree : s.locked = false)
      (hacks : s.acks.step (.push i timeStarted) = some acks) : Does s (.push i timeStarted) { s with acks := acks }
  | tick (elapsed : ℕ) : Does s (.tick elapsed) { s with acks := { s.acks with now := s.acks.now+elapsed } }
  | receive (packet : Packet) (ack : Incoming) (hpoll : s.poll = .idle) :
      Does s (.receive packet) { s with poll := .locking ack }
  | ignore (packet : Packet) (hpoll : s.poll = .idle) : Does s (.receive packet) s
  | lock (ack : Incoming) (hpoll : s.poll = .locking ack) (hfree : s.locked = false) :
      Does s .lock { s with locked := true, poll := .scanning ack 0 }
  | examine (ack : Incoming) (index : ℕ) (hpoll : s.poll = .scanning ack index) :
      Does s .examine (s.examine ack index)
  | callbackEmit (timeout : ℕ) (ack : Incoming) (index : ℕ) (hpoll : s.poll = .calling ack index .running) :
      Does s (.callbackEmit timeout) { s with
        acks := s.acks.generate timeout
        poll := .calling ack index (.emitting s.acks.calls) }
  | callbackEmitted (ack : Incoming) (index call : ℕ) (hpoll : s.poll = .calling ack index (.emitting call))
      (hpushed : ∀ flight ∈ s.acks.inFlight, flight.callback ≠ call) :
      Does s .callbackEmitted { s with poll := .calling ack index .running }
  | callbackReturn (ack : Incoming) (index : ℕ) (hpoll : s.poll = .calling ack index .running) :
      Does s .callbackReturn { s with poll := .scanning ack (index+1) }
  | remove (index : ℕ) (rest : List ℕ) (hpoll : s.poll = .removing) (hfree : s.locked = false)
      (hindex : s.acks.toBeRemoved = index :: rest) : Does s .remove { s with acks := s.acks.remove index rest }
  | removed (hpoll : s.poll = .removing) (hdone : s.acks.toBeRemoved = []) : Does s .remove { s with poll := .idle }

theorem does_of_step (h : step s act = some t) : Does s act t := by
  cases act with
  | generate timeout =>
    cases h
    exact .generate timeout
  | push i timeStarted =>
    simp only [step] at h
    split at h
    · cases h
    · obtain ⟨acks,hacks,rfl⟩ := Option.map_eq_some_iff.mp h
      exact .push i timeStarted acks (Bool.of_not_eq_true ‹_›) hacks
  | tick elapsed =>
    cases h
    exact .tick elapsed
  | receive packet =>
    simp only [step] at h
    split at h
    · split at h
      · cases h
        exact .receive packet _ ‹_›
      · cases h
        exact .ignore packet ‹_›
    · cases h
  | lock =>
    simp only [step] at h
    split at h
    · split at h
      · cases h
      · cases h
        exact .lock _ ‹_› (Bool.of_not_eq_true ‹_›)
    · cases h
  | examine =>
    simp only [step] at h
    split at h
    · cases h
      exact .examine _ _ ‹_›
    · cases h
  | callbackEmit timeout =>
    simp only [step] at h
    split at h
    · cases h
      exact .callbackEmit timeout _ _ ‹_›
    · cases h
  | callbackEmitted =>
    simp only [step] at h
    split at h
    · split at h
      · cases h
      · rename_i hpushed
        cases h
        refine .callbackEmitted _ _ _ ‹_› ?_
        simpa using hpushed
    · cases h
  | callbackReturn =>
    simp only [step] at h
    split at h
    · cases h
      exact .callbackReturn _ _ ‹_›
    · cases h
  | remove =>
    simp only [step] at h
    split at h
    · split at h
      · cases h
        exact .removed ‹_› ‹_›
      · split at h
        · cases h
        · cases h
          exact .remove _ _ ‹_› (Bool.of_not_eq_true ‹_›) ‹_›
    · cases h

theorem examine_cases (s : AckLock) (ack : Incoming) (index : ℕ) :
    (s.examine ack index).locked = false ∧ (s.examine ack index).poll = .removing ∨
    (s.examine ack index).locked = s.locked ∧ (s.examine ack index).poll = .calling ack index .running ∧
      (∃ entry, s.acks.outstanding[index]? = some entry ∧ entry.id = ack.id ∧
        s.acks.now-entry.timeStarted < entry.timeout) ∨
    (s.examine ack index).locked = s.locked ∧ (s.examine ack index).poll = .scanning ack (index+1) ∧
      ∀ entry, s.acks.outstanding[index]? = some entry →
        ¬ (entry.id = ack.id ∧ s.acks.now-entry.timeStarted < entry.timeout) := by
  unfold examine
  cases hentry : s.acks.outstanding[index]? with
  | none => exact Or.inl ⟨rfl,rfl⟩
  | some entry =>
    right
    by_cases hid : entry.id = ack.id
    · by_cases htime : s.acks.now-entry.timeStarted < entry.timeout
      · left
        simp [hid,htime]
      · right
        simp [hid,htime,Nat.le_of_not_lt htime]
    · right
      simp [hid]

theorem step_guarded (hs : s.Guarded) (h : step s act = some t) : t.Guarded := by
  unfold Guarded at hs ⊢
  cases does_of_step h with
  | generate timeout => exact hs
  | push i timeStarted acks hfree hacks => exact hs
  | tick elapsed => exact hs
  | receive packet ack hpoll =>
    rw [hpoll] at hs
    exact hs
  | ignore packet hpoll => exact hs
  | lock ack hpoll hfree => rfl
  | examine ack index hpoll =>
    rw [hpoll] at hs
    rcases examine_cases s ack index with ⟨hl,hp⟩ | ⟨hl,hp,-⟩ | ⟨hl,hp,-⟩
    · rw [hl,hp]
      rfl
    · rw [hl,hp,hs]
      rfl
    · rw [hl,hp,hs]
      rfl
  | callbackEmit timeout ack index hpoll =>
    rw [hpoll] at hs
    exact hs
  | callbackEmitted ack index call hpoll hpushed =>
    rw [hpoll] at hs
    exact hs
  | callbackReturn ack index hpoll =>
    rw [hpoll] at hs
    exact hs
  | remove index rest hpoll hfree hindex => exact hs
  | removed hpoll hdone =>
    rw [hpoll] at hs
    exact hs

theorem step_inCallback (hidle : s.poll.inCallback = false) (hmiss : s.Misses act) (h : step s act = some t) :
    t.poll.inCallback = false := by
  cases does_of_step h with
  | generate timeout => exact hidle
  | push i timeStarted acks hfree hacks => exact hidle
  | tick elapsed => exact hidle
  | receive packet ack hpoll => rfl
  | ignore packet hpoll => exact hidle
  | lock ack hpoll hfree => rfl
  | examine ack index hpoll =>
    rcases examine_cases s ack index with ⟨-,hp⟩ | ⟨-,hp,entry,hentry,hin⟩ | ⟨-,hp,-⟩
    · rw [hp]
      rfl
    · exact absurd hin (hmiss rfl ack index entry hpoll hentry)
    · rw [hp]
      rfl
  | callbackEmit timeout ack index hpoll =>
    rw [hpoll] at hidle
    cases hidle
  | callbackEmitted ack index call hpoll hpushed =>
    rw [hpoll] at hidle
    cases hidle
  | callbackReturn ack index hpoll => rfl
  | remove index rest hpoll hfree hindex => exact hidle
  | removed hpoll hdone => rfl

theorem unlockedAfter_iff (hg : s.Guarded) (hidle : s.poll.inCallback = false) :
    s.UnlockedAfter act ↔ s.Misses act := by
  constructor
  · rintro h rfl ack index entry hpoll hentry ⟨hid,htime⟩
    have hstep : step s .examine = some (s.examine ack index) := by simp [step,hpoll]
    apply h _ hstep
    rw [Guarded,hpoll] at hg
    simp [examine,hentry,hid,htime,hg,AckStage.inLoop,AckStage.inCallback]
  · rintro h t ht ⟨hcallback,-⟩
    rw [step_inCallback hidle h ht] at hcallback
    cases hcallback

/-- A callback waits in `emit_with_ack` for the lock that `handle_ack` holds. -/
def Blocked (s : AckLock) : Prop :=
  s.locked = true ∧ ∃ ack index call, s.poll = .calling ack index (.emitting call) ∧
    ∃ flight ∈ s.acks.inFlight, flight.callback = call

theorem blocked_of_callbackEmit {timeout : ℕ} (hg : s.Guarded) (h : step s (.callbackEmit timeout) = some t) :
    t.Blocked := by
  cases does_of_step h with
  | callbackEmit timeout ack index hpoll =>
    rw [Guarded,hpoll] at hg
    refine ⟨hg,ack,index,s.acks.calls,rfl,⟨s.acks.seq,timeout,s.acks.now,s.acks.calls⟩,?_,rfl⟩
    simp [AckState.generate]

theorem step_blocked (hs : s.Blocked) (h : step s act = some t) : t.Blocked := by
  obtain ⟨hlocked,ack,index,call,hpoll,flight,hflight,hcall⟩ := hs
  cases does_of_step h with
  | generate timeout => exact ⟨hlocked,ack,index,call,hpoll,flight,by simp [AckState.generate,hflight],hcall⟩
  | tick elapsed => exact ⟨hlocked,ack,index,call,hpoll,flight,hflight,hcall⟩
  | callbackEmitted ack' index' call' hpoll' hpushed =>
    cases hpoll.symm.trans hpoll'
    exact absurd hcall (hpushed flight hflight)
  | push i timeStarted acks hfree hacks => simp [hlocked] at hfree
  | receive packet ack' hpoll' => cases hpoll.symm.trans hpoll'
  | ignore packet hpoll' => cases hpoll.symm.trans hpoll'
  | lock ack' hpoll' hfree => cases hpoll.symm.trans hpoll'
  | examine ack' index' hpoll' => cases hpoll.symm.trans hpoll'
  | callbackEmit timeout ack' index' hpoll' => cases hpoll.symm.trans hpoll'
  | callbackReturn ack' index' hpoll' => cases hpoll.symm.trans hpoll'
  | remove index' rest hpoll' hfree hindex => cases hpoll.symm.trans hpoll'
  | removed hpoll' hdone => cases hpoll.symm.trans hpoll'

/-- Whatever happens afterwards, neither the callback nor `handle_ack` goes on. -/
theorem run_blocked {acts : List LockAct} (hs : s.Blocked) (h : run step s acts = some t) : t.Blocked :=
  run_preserves (fun _ _ _ => step_blocked) hs h

end Steps

section Whole

def scanned (acks : AckState) (ack : Incoming) (found : List ℕ × List Ack) : AckState := { acks with
  toBeRemoved := acks.toBeRemoved ++ found.1
  invoked := acks.invoked ++ found.2.map (fun entry => ⟨entry,ack.packet,acks.now,ack.payload⟩) }

theorem exists_run_scan (ack : Incoming) {remaining : List Ack} (acks : AckState) {index : ℕ}
    (h : acks.outstanding.drop index = remaining) :
    ∃ acts, run step ⟨acks,true,.scanning ack index⟩ acts =
      some ⟨scanned acks ack (scan ack.id acks.now index remaining),false,.removing⟩ := by
  induction remaining generalizing acks index with
  | nil =>
    have hend : acks.outstanding[index]? = none := by
      rw [List.getElem?_eq_none_iff]
      exact List.drop_eq_nil_iff.mp h
    refine ⟨[.examine],?_⟩
    simp [run,step,examine,hend,scanned,scan]
  | cons entry remaining ih =>
    have hentry : acks.outstanding[index]? = some entry := by
      rw [← List.head?_drop,h,List.head?_cons]
    have hnext : acks.outstanding.drop (index+1) = remaining := by
      rw [← List.tail_drop,h,List.tail_cons]
    by_cases hid : entry.id = ack.id
    · by_cases htime : acks.now-entry.timeStarted < entry.timeout
      · obtain ⟨acts,hacts⟩ := ih { acks with
          toBeRemoved := acks.toBeRemoved ++ [index]
          invoked := acks.invoked ++ [⟨entry,ack.packet,acks.now,ack.payload⟩] } hnext
        refine ⟨.examine :: .callbackReturn :: acts,?_⟩
        simp only [run,step,examine,hentry,hid,htime,↓reduceIte,Option.bind_some,hacts]
        simp [scanned,scan,hid,htime]
      · obtain ⟨acts,hacts⟩ := ih { acks with toBeRemoved := acks.toBeRemoved ++ [index] } hnext
        refine ⟨.examine :: acts,?_⟩
        simp only [run,step,examine,hentry,hid,htime,↓reduceIte,Option.bind_some,hacts]
        simp [scanned,scan,hid,htime]
    · obtain ⟨acts,hacts⟩ := ih acks hnext
      refine ⟨.examine :: acts,?_⟩
      simp only [run,step,examine,hentry,hid,↓reduceIte,Option.bind_some,hacts]
      simp [scan,hid]

/-- When nobody else steps in between, handling a packet up to the removals is the one step that
`AckState.receive` takes it for. -/
theorem exists_run_receive {acks : AckState} (hidle : acks.toBeRemoved = []) {packet : Packet} {id : UInt64}
    {payload : Option Payload} (h : packet.ackTarget acks.nsp = some (id,payload)) :
    ∃ acts, run step (rest acks) acts = some ⟨acks.receive packet,false,.removing⟩ := by
  obtain ⟨acts,hacts⟩ := exists_run_scan ⟨packet,id,payload⟩ acks (List.drop_zero (l := acks.outstanding))
  refine ⟨.receive packet :: .lock :: acts,?_⟩
  have hreceive : scanned acks ⟨packet,id,payload⟩ (scan id acks.now 0 acks.outstanding) = acks.receive packet := by
    simp [scanned,AckState.receive,h,hidle]
  rw [hreceive] at hacts
  simp only [run,step,rest,h,Option.bind_some,Bool.false_eq_true,↓reduceIte]
  exact hacts

end Whole

end AckLock

open AckLock

/-- In every run, no callback is ever under way while `handle_ack` holds the lock if and only if every
entry that is looked at is missed. -/
theorem ack_callback_unlocked_iff (acks : AckState) (acts : List LockAct) :
    Along step UnlockedAfter (rest acks) acts ↔ Along step Misses (rest acks) acts := by
  have hrest : (rest acks).Outside := ⟨rfl,rfl⟩
  refine along_iff_along (fun s act hs => unlockedAfter_iff hs.1 hs.2) ?_ hrest acts
  intro s act t hunlocked hs ht
  exact ⟨step_guarded hs.1 ht,step_inCallback hs.2 ((unlockedAfter_iff hs.1 hs.2).mp hunlocked) ht⟩

/-- A callback that calls `emit_with_ack` on its socket is blocked from then on, in every run. -/
theorem callback_emit_blocks {acks : AckState} {acts later : List LockAct} {s t u : AckLock} {timeout : ℕ}
    (hrun : run step (rest acks) acts = some s) (hemit : step s (.callbackEmit timeout) = some t)
    (hlater : run step t later = some u) : u.Blocked := by
  have hrest : (rest acks).Guarded := rfl
  have hg : s.Guarded := run_preserves (fun s act t => step_guarded) hrest hrun
  exact run_blocked (blocked_of_callbackEmit hg hemit) hlater

def ackInTime : List LockAct :=
  [.generate 2000,.push 0 0,.receive ⟨.ack,"/",none,some 0,0,none⟩,.lock,.examine]

theorem ack_callback_locked : ¬ Along step UnlockedAfter (rest (.fresh "/" 0)) ackInTime := by
  intro h
  exact ((((h.2 _ rfl).2 _ rfl).2 _ rfl).2 _ rfl).1 _ rfl ⟨rfl,rfl⟩

end SocketIox.SocketIo
