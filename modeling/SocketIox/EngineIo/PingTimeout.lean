import SocketIox.EngineIo.PingPong

/-! # Who is closed by the ping loop, and when

A peer from which something is read within a bound after every ping is never timed out,
provided that the bound and the lateness of the loop leave a margin within `ping_timeout`.
That the client answers its pings in time is such a bound. And a connection from which
nothing is read any more is gone after a bounded time.
-/
namespace SocketIox.EngineIo.PingPong
open Proc

/-- The loop takes its steps at most `late` after their time has come. -/
def Prompt (late : ℕ) (s : PingPong) : PingAct → Prop
  | .elapse duration =>
    match s.task with
    | .ticking => s.now+duration ≤ s.deadline+late
    | .emitting | .checking => s.now+duration+s.interval ≤ s.deadline+late
    | .closing _ since => s.now+duration ≤ since+late
    | .ended _ => True
  | _ => True

/-- Every ping is followed within `delay` by a packet that is read. -/
def Heard (delay : ℕ) (s : PingPong) : PingAct → Prop
  | .elapse duration => ∀ p ∈ s.pings, p ≤ s.lastPong ∨ s.now+duration ≤ p+delay
  | _ => True

/-- Packets reach the client within `down` and the server within `up`, and the client
completes its pongs. -/
def Delivers (down up : ℕ) (s : PingPong) : PingAct → Prop
  | .elapse duration =>
    (∀ p ∈ s.toClient, s.now+duration ≤ p+down) ∧ ∀ q ∈ s.toServer, s.now+duration ≤ q.1+up
  | .clientRead completed => (s.shouldPong && completed) = true
  | _ => True

instance (late : ℕ) (s : PingPong) (act : PingAct) : Decidable (Prompt late s act) := by
  cases act with
  | elapse duration =>
    unfold Prompt
    cases s.task <;> exact inferInstance
  | _ => exact inferInstanceAs (Decidable True)

instance (down up : ℕ) (s : PingPong) (act : PingAct) : Decidable (Delivers down up s act) := by
  cases act with
  | elapse duration => exact inferInstanceAs (Decidable (_ ∧ _))
  | clientRead completed => exact inferInstanceAs (Decidable (_ = true))
  | _ => exact inferInstanceAs (Decidable True)

def TimedOut (s : PingPong) : Prop :=
  ∃ heard, (∃ since, s.task = .closing (.timeout heard) since) ∨ s.task = .ended (.timeout heard)

section Clock
variable {late : ℕ} {s t u : PingPong} {act : PingAct} {acts : List PingAct}

/-- The clock against the step that the loop has to take next, and against the tick after it. -/
def OnTime (late : ℕ) (s : PingPong) : Prop :=
  match s.task with
  | .ticking => s.now ≤ s.deadline+late ∧ s.deadline ≤ s.now+s.interval
  | .emitting | .checking => s.now+s.interval ≤ s.deadline+late ∧ s.deadline ≤ s.now+s.interval
  | .closing _ since => since ≤ s.now ∧ s.now ≤ since+late
  | .ended _ => True

theorem onTime_remove (h : OnTime late s) (accepted : Bool) : OnTime late (s.remove accepted) := by
  unfold remove
  split
  · exact h
  · exact h

theorem step_onTime (hp : Prompt late s act) (hs : OnTime late s) (h : step s act = some t) : OnTime late t := by
  cases step_does h with
  | elapse duration =>
    simp only [Prompt] at hp
    simp only [OnTime] at hs ⊢
    cases htask : s.task with
    | ticking =>
      simp only [htask] at hp hs ⊢
      exact ⟨hp,by omega⟩
    | emitting =>
      simp only [htask] at hp hs ⊢
      exact ⟨hp,by omega⟩
    | checking =>
      simp only [htask] at hp hs ⊢
      exact ⟨hp,by omega⟩
    | closing reason since =>
      simp only [htask] at hp hs ⊢
      exact ⟨by omega,hp⟩
    | ended reason => trivial
  | tick htask hdeadline =>
    simp only [OnTime,htask] at hs ⊢
    omega
  | skip htask hstored =>
    simp only [OnTime,htask] at hs ⊢
    exact hs
  | ping htask hstored =>
    simp only [OnTime,htask] at hs ⊢
    exact hs
  | pass htask hstored hrecent =>
    simp only [OnTime,htask] at hs ⊢
    omega
  | leave reason htask hreason =>
    simp only [OnTime]
    omega
  | close reason since accepted htask => trivial
  | closeSocket accepted => exact onTime_remove hs accepted
  | receive sent ptype rest hwire hreading => exact hs
  | stopReading => exact hs
  | clientRead completed sent rest hwire => exact hs
  | clientSend ptype => exact hs
  | clientStop => exact hs

theorem step_constants (h : step s act = some t) : t.interval = s.interval ∧ t.timeout = s.timeout := by
  cases step_does h with
  | close reason since accepted htask =>
    unfold remove
    split <;> exact ⟨rfl,rfl⟩
  | closeSocket accepted =>
    unfold remove
    split <;> exact ⟨rfl,rfl⟩
  | _ => exact ⟨rfl,rfl⟩

end Clock

section Responsive
variable {late delay : ℕ} {s t u : PingPong} {act : PingAct} {acts : List PingAct}

/-- Some ping that nothing has been read after was sent soon after the last packet read, or the
next ping is due soon after that packet. -/
def PingDue (late : ℕ) (s : PingPong) : Prop :=
  (∃ p ∈ s.pings, s.lastPong < p ∧ p ≤ s.lastPong+s.interval+late) ∨
    if s.task = .emitting then s.deadline ≤ s.lastPong+2*s.interval else s.deadline ≤ s.lastPong+s.interval

structure Responsive (late delay : ℕ) (s : PingPong) : Prop where
  onTime : OnTime late s
  margin : s.interval+delay+late < s.timeout
  heard_le : s.lastPong ≤ s.now
  pings_le : ∀ p ∈ s.pings, p ≤ s.now
  answered : ∀ p ∈ s.pings, p ≤ s.lastPong ∨ s.now ≤ p+delay
  due : s.stored = true → s.task = .ticking ∨ s.task = .emitting ∨ s.task = .checking → PingDue late s
  alive : ¬ s.TimedOut

theorem Responsive.recent (hs : Responsive late delay s) (hstored : s.stored = true)
    (htask : s.task = .checking) : s.now < s.lastPong+s.timeout := by
  have hmargin := hs.margin
  have honTime := hs.onTime
  simp only [OnTime,htask] at honTime
  rcases hs.due hstored (Or.inr (Or.inr htask)) with ⟨p,hp,hunheard,hsoon⟩ | hnext
  · rcases hs.answered p hp with hheard | hdelay
    · omega
    · omega
  · simp only [htask,reduceCtorEq,↓reduceIte] at hnext
    omega

theorem Responsive.remove (hs : Responsive late delay s) (accepted : Bool) :
    Responsive late delay (s.remove accepted) := by
  unfold PingPong.remove
  split
  · exact ⟨hs.onTime,hs.margin,hs.heard_le,hs.pings_le,hs.answered,nofun,hs.alive⟩
  · exact hs

theorem step_responsive (hp : Prompt late s act) (hh : Heard delay s act) (hs : Responsive late delay s)
    (h : step s act = some t) : Responsive late delay t := by
  have honTime := step_onTime hp hs.onTime h
  have hstill := hs.onTime
  have hheard := hs.heard_le
  cases step_does h with
  | elapse duration =>
    refine ⟨honTime,hs.margin,Nat.le_add_right_of_le hheard,?_,hh,hs.due,hs.alive⟩
    intro p hp
    exact Nat.le_add_right_of_le (hs.pings_le p hp)
  | tick htask hdeadline =>
    refine ⟨honTime,hs.margin,hheard,hs.pings_le,hs.answered,?_,?_⟩
    · intro hstored _
      rcases hs.due hstored (Or.inl htask) with hunheard | hnext
      · exact Or.inl hunheard
      · right
        simp only [htask,reduceCtorEq,↓reduceIte] at hnext ⊢
        omega
    · rintro ⟨heard,⟨since,hc⟩ | hc⟩ <;> cases hc
  | skip htask hstored =>
    refine ⟨honTime,hs.margin,hheard,hs.pings_le,hs.answered,?_,?_⟩
    · intro hs'
      rw [hstored] at hs'
      cases hs'
    · rintro ⟨heard,⟨since,hc⟩ | hc⟩ <;> cases hc
  | ping htask hstored =>
    simp only [OnTime,htask] at hstill
    refine ⟨honTime,hs.margin,hheard,?_,?_,?_,?_⟩
    · intro p hp
      rcases List.mem_cons.mp hp with rfl | hp
      · exact Nat.le_refl _
      · exact hs.pings_le p hp
    · intro p hp
      rcases List.mem_cons.mp hp with rfl | hp
      · exact Or.inr (Nat.le_add_right _ _)
      · exact hs.answered p hp
    · intro _ _
      rcases hs.due hstored (Or.inr (Or.inl htask)) with ⟨p,hp,hunheard⟩ | hnext
      · exact Or.inl ⟨p,List.mem_cons_of_mem _ hp,hunheard⟩
      · simp only [htask,↓reduceIte] at hnext
        by_cases hlt : s.lastPong < s.now
        · exact Or.inl ⟨s.now,List.mem_cons_self,hlt,by simp only; omega⟩
        · right
          simp only [reduceCtorEq,↓reduceIte]
          omega
    · rintro ⟨heard,⟨since,hc⟩ | hc⟩ <;> cases hc
  | pass htask hstored hrecent =>
    refine ⟨honTime,hs.margin,hheard,hs.pings_le,hs.answered,?_,?_⟩
    · intro _ _
      rcases hs.due hstored (Or.inr (Or.inr htask)) with hunheard | hnext
      · exact Or.inl hunheard
      · right
        simp only [htask,reduceCtorEq,↓reduceIte] at hnext ⊢
        exact hnext
    · rintro ⟨heard,⟨since,hc⟩ | hc⟩ <;> cases hc
  | leave reason htask hreason =>
    refine ⟨honTime,hs.margin,hheard,hs.pings_le,hs.answered,?_,?_⟩
    · rintro _ (hc | hc | hc) <;> cases hc
    · rintro ⟨heard,⟨since,hc⟩ | hc⟩
      · cases hc
        obtain ⟨hchecking,hstored,hold,rfl⟩ := hreason heard rfl
        exact Nat.not_lt.mpr hold (hs.recent hstored hchecking)
      · cases hc
  | close reason since accepted htask =>
    have hr := hs.remove accepted
    refine ⟨honTime,hr.margin,hr.heard_le,hr.pings_le,hr.answered,?_,?_⟩
    · rintro _ (hc | hc | hc) <;> cases hc
    · rintro ⟨heard,⟨since',hc⟩ | hc⟩
      · cases hc
      · cases hc
        exact hs.alive ⟨heard,Or.inl ⟨since,htask⟩⟩
  | closeSocket accepted => exact hs.remove accepted
  | receive sent ptype rest hwire hreading =>
    refine ⟨honTime,hs.margin,Nat.le_refl _,hs.pings_le,fun p hp => Or.inl (hs.pings_le p hp),?_,hs.alive⟩
    intro _ htask
    right
    replace htask : s.task = .ticking ∨ s.task = .emitting ∨ s.task = .checking := htask
    simp only [OnTime] at hstill
    rcases htask with htask | htask | htask <;>
      simp only [htask,reduceCtorEq,↓reduceIte] at hstill ⊢ <;> omega
  | stopReading => exact ⟨honTime,hs.margin,hheard,hs.pings_le,hs.answered,hs.due,hs.alive⟩
  | clientRead completed sent rest hwire =>
    exact ⟨honTime,hs.margin,hheard,hs.pings_le,hs.answered,hs.due,hs.alive⟩
  | clientSend ptype => exact ⟨honTime,hs.margin,hheard,hs.pings_le,hs.answered,hs.due,hs.alive⟩
  | clientStop => exact ⟨honTime,hs.margin,hheard,hs.pings_le,hs.answered,hs.due,hs.alive⟩

end Responsive

section Silent
variable {late : ℕ} {s t u v : PingPong} {act : PingAct} {acts : List PingAct}

/-- When the loop takes its next step, against the last packet read. -/
def DueBy (late : ℕ) (s : PingPong) : Prop :=
  match s.task with
  | .ticking => s.deadline ≤ s.lastPong+s.timeout+s.interval
  | .emitting | .checking => s.deadline ≤ s.lastPong+s.timeout+2*s.interval
  | .closing _ since => since ≤ s.lastPong+s.timeout+s.interval+late
  | .ended _ => s.stored = false

structure Watched (late : ℕ) (s : PingPong) : Prop where
  onTime : OnTime late s
  heard_le : s.lastPong ≤ s.now
  dueBy : DueBy late s
  fair : ∀ heard since, s.task = .closing (.timeout heard) since → heard+s.timeout ≤ since

theorem Watched.remove (hs : Watched late s) (accepted : Bool) : Watched late (s.remove accepted) := by
  unfold PingPong.remove
  split
  · refine ⟨hs.onTime,hs.heard_le,?_,hs.fair⟩
    have hdue := hs.dueBy
    unfold DueBy at hdue ⊢
    simp only
    split at hdue
    · exact hdue
    · exact hdue
    · exact hdue
    · exact hdue
    · trivial
  · exact hs

theorem remove_stored (s : PingPong) (accepted : Bool) : (s.remove accepted).stored = false := by
  unfold PingPong.remove
  split
  · rfl
  · simpa using ‹¬ s.stored = true›

theorem step_watched (hp : Prompt late s act) (hs : Watched late s) (h : step s act = some t) : Watched late t := by
  have honTime := step_onTime hp hs.onTime h
  have hstill := hs.onTime
  have hheard := hs.heard_le
  have hdue := hs.dueBy
  cases step_does h with
  | elapse duration => exact ⟨honTime,Nat.le_add_right_of_le hheard,hdue,hs.fair⟩
  | tick htask hdeadline =>
    refine ⟨honTime,hheard,?_,nofun⟩
    simp only [DueBy,htask] at hdue ⊢
    omega
  | skip htask hstored =>
    refine ⟨honTime,hheard,?_,nofun⟩
    simp only [DueBy,htask] at hdue ⊢
    exact hdue
  | ping htask hstored =>
    refine ⟨honTime,hheard,?_,nofun⟩
    simp only [DueBy,htask] at hdue ⊢
    exact hdue
  | pass htask hstored hrecent =>
    refine ⟨honTime,hheard,?_,nofun⟩
    simp only [OnTime,htask] at hstill
    simp only [DueBy]
    omega
  | leave reason htask hreason =>
    refine ⟨honTime,hheard,?_,?_⟩
    · simp only [OnTime] at hstill
      rcases htask with htask | htask <;>
        simp only [DueBy,htask] at hdue hstill ⊢ <;> omega
    · intro heard since hc
      cases hc
      exact (hreason heard rfl).2.2.1
  | close reason since accepted htask =>
    exact ⟨honTime,(hs.remove accepted).heard_le,remove_stored s accepted,nofun⟩
  | closeSocket accepted => exact hs.remove accepted
  | receive sent ptype rest hwire hreading =>
    refine ⟨honTime,Nat.le_refl _,?_,hs.fair⟩
    unfold DueBy at hdue ⊢
    simp only
    split at hdue <;> omega
  | _ => exact ⟨honTime,hheard,hdue,hs.fair⟩

theorem run_watched (hp : Along step (Prompt late) s acts) (hs : Watched late s) (hrun : run step s acts = some u) :
    Watched late u := run_preserves_along (fun _ _ _ => step_watched) hp hs hrun

theorem Watched.stored_le (hs : Watched late s) (hstored : s.stored = true) :
    s.now ≤ s.lastPong+s.timeout+s.interval+2*late := by
  have honTime := hs.onTime
  have hdue := hs.dueBy
  unfold DueBy at hdue
  unfold OnTime at honTime
  split at hdue
  · rename_i htask
    simp only [htask] at honTime
    omega
  · rename_i htask
    simp only [htask] at honTime
    omega
  · rename_i htask
    simp only [htask] at honTime
    omega
  · rename_i reason since htask
    simp only [htask] at honTime
    omega
  · rw [hstored] at hdue
    cases hdue

theorem step_unread (hr : s.reading = false) (h : step s act = some t) :
    t.reading = false ∧ t.lastPong = s.lastPong := by
  cases step_does h with
  | receive sent ptype rest hwire hreading =>
    rw [hr] at hreading
    cases hreading
  | close reason since accepted htask =>
    unfold PingPong.remove
    split <;> exact ⟨hr,rfl⟩
  | closeSocket accepted =>
    unfold PingPong.remove
    split <;> exact ⟨hr,rfl⟩
  | stopReading => exact ⟨rfl,rfl⟩
  | _ => exact ⟨hr,rfl⟩

theorem run_unread (hr : s.reading = false) (hrun : run step s acts = some u) : u.lastPong = s.lastPong :=
  (@run_preserves _ _ step (fun t => t.reading = false ∧ t.lastPong = s.lastPong)
    (fun _ _ _ hi h => ⟨(step_unread hi.1 h).1,(step_unread hi.1 h).2.trans hi.2⟩) _ _ _ ⟨hr,rfl⟩ hrun).2

theorem run_constants (hrun : run step s acts = some u) : u.interval = s.interval ∧ u.timeout = s.timeout :=
  @run_preserves _ _ step (fun t => t.interval = s.interval ∧ t.timeout = s.timeout)
    (fun _ _ _ hi h => ⟨(step_constants h).1.trans hi.1,(step_constants h).2.trans hi.2⟩) _ _ _ ⟨rfl,rfl⟩ hrun

end Silent

section Network
variable {down up : ℕ} {s t : PingPong} {act : PingAct} {acts : List PingAct}

/-- A ping that nothing has been read after is on its way to the client, or something that
the client sent after it is on its way back. -/
structure OnWire (down : ℕ) (s : PingPong) : Prop where
  pings_le : ∀ p ∈ s.pings, p ≤ s.now
  toClient_le : ∀ p ∈ s.toClient, s.now ≤ p+down
  sent : ∀ p ∈ s.pings, p ≤ s.lastPong ∨ p ∈ s.toClient ∨ ∃ q ∈ s.toServer, p ≤ q.1 ∧ q.1 ≤ p+down

theorem OnWire.remove (hs : OnWire down s) (accepted : Bool) : OnWire down (s.remove accepted) := by
  unfold PingPong.remove
  split
  · exact ⟨hs.pings_le,hs.toClient_le,hs.sent⟩
  · exact hs

theorem step_onWire (hd : Delivers down up s act) (hs : OnWire down s) (h : step s act = some t) : OnWire down t := by
  cases step_does h with
  | elapse duration =>
    exact ⟨fun p hp => Nat.le_add_right_of_le (hs.pings_le p hp),hd.1,hs.sent⟩
  | ping htask hstored =>
    refine ⟨?_,?_,?_⟩
    · intro p hp
      rcases List.mem_cons.mp hp with rfl | hp
      · exact Nat.le_refl _
      · exact hs.pings_le p hp
    · intro p hp
      rcases List.mem_append.mp hp with hp | hp
      · exact hs.toClient_le p hp
      · rw [List.mem_singleton.mp hp]
        exact Nat.le_add_right _ _
    · intro p hp
      rcases List.mem_cons.mp hp with rfl | hp
      · exact Or.inr (Or.inl (List.mem_append_right _ (List.mem_singleton_self _)))
      · rcases hs.sent p hp with hheard | hclient | hserver
        · exact Or.inl hheard
        · exact Or.inr (Or.inl (List.mem_append_left _ hclient))
        · exact Or.inr (Or.inr hserver)
  | close reason since accepted htask =>
    have hr := hs.remove accepted
    exact ⟨hr.pings_le,hr.toClient_le,hr.sent⟩
  | closeSocket accepted => exact hs.remove accepted
  | receive sent ptype rest hwire hreading =>
    exact ⟨hs.pings_le,hs.toClient_le,fun p hp => Or.inl (hs.pings_le p hp)⟩
  | clientRead completed sent rest hwire =>
    have hpongs : (s.shouldPong && completed) = true := hd
    have hrest : ∀ p ∈ rest, p ∈ s.toClient := by
      intro p hp
      rw [hwire]
      exact List.mem_cons_of_mem _ hp
    refine ⟨hs.pings_le,fun p hp => hs.toClient_le p (hrest p hp),?_⟩
    intro p hp
    simp only [hpongs,↓reduceIte]
    rcases hs.sent p hp with hheard | hclient | ⟨q,hq,hle,hsoon⟩
    · exact Or.inl hheard
    · have hsoon := hs.toClient_le p hclient
      exact Or.inr (Or.inr ⟨(s.now,.pong),List.mem_append_right _ (List.mem_singleton_self _),hs.pings_le p hp,hsoon⟩)
    · exact Or.inr (Or.inr ⟨q,List.mem_append_left _ hq,hle,hsoon⟩)
  | clientSend ptype =>
    refine ⟨hs.pings_le,hs.toClient_le,?_⟩
    intro p hp
    rcases hs.sent p hp with hheard | hclient | ⟨q,hq,hsoon⟩
    · exact Or.inl hheard
    · exact Or.inr (Or.inl hclient)
    · exact Or.inr (Or.inr ⟨q,List.mem_append_left _ hq,hsoon⟩)
  | _ => exact ⟨hs.pings_le,hs.toClient_le,hs.sent⟩

theorem heard_of_delivers (hs : OnWire down s) (hd : Delivers down up s act) : Heard (down+up) s act := by
  cases act with
  | elapse duration =>
    intro p hp
    rcases hs.sent p hp with hheard | hclient | ⟨q,hq,hle,hsoon⟩
    · exact Or.inl hheard
    · right
      have hd := hd.1 p hclient
      omega
    · right
      have hd := hd.2 q hq
      omega
  | _ => trivial

theorem along_heard (hs : OnWire down s) (hd : Along step (Delivers down up) s acts) :
    Along step (Heard (down+up)) s acts :=
  Along.of_along (fun _ _ => heard_of_delivers) (fun _ _ _ => step_onWire) hs hd

end Network

section Start
variable {checked : Bool} {option : ServerOption} {early : List (ℕ × PacketType)} {created now : ℕ} {s : PingPong}

theorem start_eq (hfits : option.pingTimeout+option.pingInterval < 2^64)
    (h : start checked option early created now = some s) :
    s = ⟨option.pingInterval,option.pingTimeout+option.pingInterval,now,true,true,created,true,now,.ticking,[],[],
      early,true⟩ := by
  simp only [start,addUsize,if_pos hfits,Option.ite_none_left_eq_some,Option.some.injEq] at h
  exact h.2.symm

theorem start_onWire (down : ℕ) (hfits : option.pingTimeout+option.pingInterval < 2^64)
    (h : start checked option early created now = some s) : OnWire down s := by
  rw [start_eq hfits h]
  exact ⟨nofun,nofun,nofun⟩

theorem start_responsive {late delay : ℕ} (hfits : option.pingTimeout+option.pingInterval < 2^64)
    (hmargin : delay+late < option.pingTimeout) (hcreated : created ≤ now ∧ now ≤ created+option.pingInterval)
    (h : start checked option early created now = some s) : Responsive late delay s := by
  rw [start_eq hfits h]
  refine ⟨?_,?_,hcreated.1,nofun,nofun,?_,?_⟩
  · simp [OnTime]
  · simp only
    omega
  · intro _ _
    right
    simpa using hcreated.2
  · rintro ⟨heard,⟨since,hc⟩ | hc⟩ <;> cases hc

theorem start_watched {late : ℕ} (hfits : option.pingTimeout+option.pingInterval < 2^64)
    (hcreated : created ≤ now ∧ now ≤ created+option.pingInterval)
    (h : start checked option early created now = some s) : Watched late s := by
  rw [start_eq hfits h]
  refine ⟨?_,hcreated.1,?_,nofun⟩
  · simp [OnTime]
  · simp only [DueBy]
    omega

end Start

/-- With the loop at most `late`, a socket is stored for at most `ping_timeout` and two times `ping_interval` and
`late` after the last packet that was read, and once its stream is not polled any more it is gone after that
time. It is timed out only when nothing has been read for `ping_timeout` and `ping_interval`. -/
theorem silent_peer_closed (checked : Bool) (option : ServerOption) (early : List (ℕ × PacketType))
    (created now late : ℕ) (hfits : option.pingTimeout+option.pingInterval < 2^64)
    (hcreated : created ≤ now ∧ now ≤ created+option.pingInterval) (acts more : List PingAct) (s u v : PingPong)
    (hstart : start checked option early created now = some s) (hprompt : Along step (Prompt late) s (acts ++ more))
    (hrun : run step s acts = some u) (hmore : run step u more = some v) :
    (v.stored = true → v.now ≤ v.lastPong+option.pingTimeout+2*option.pingInterval+2*late) ∧
    (v.stored = true → u.reading = false → v.now ≤ u.lastPong+option.pingTimeout+2*option.pingInterval+2*late) ∧
    ∀ heard since, v.task = .closing (.timeout heard) since →
      heard+option.pingTimeout+option.pingInterval ≤ since := by
  have hwhole : run step s (acts ++ more) = some v := (run_append hrun).trans hmore
  have hv := run_watched hprompt (start_watched hfits hcreated hstart) hwhole
  obtain ⟨hinterval,htimeout⟩ := run_constants hwhole
  rw [start_eq hfits hstart] at hinterval htimeout
  have hstored : v.stored = true → v.now ≤ v.lastPong+option.pingTimeout+2*option.pingInterval+2*late := by
    intro hstored
    have hle := hv.stored_le hstored
    rw [hinterval,htimeout] at hle
    simp only at hle
    omega
  refine ⟨hstored,?_,?_⟩
  · intro hs hread
    rw [← run_unread hread hmore]
    exact hstored hs
  · intro heard since htask
    have hfair := hv.fair heard since htask
    rw [htimeout,← Nat.add_assoc] at hfair
    exact hfair

/-- A client that answers its pings, with packets delivered within `down` and `up`, is never timed out by a loop
that is at most `late`, if all of it together stays below `ping_timeout`. -/
theorem responsive_never_timed_out (checked : Bool) (option : ServerOption) (early : List (ℕ × PacketType))
    (created now down up late : ℕ) (hfits : option.pingTimeout+option.pingInterval < 2^64)
    (hmargin : down+up+late < option.pingTimeout) (hcreated : created ≤ now ∧ now ≤ created+option.pingInterval)
    (acts : List PingAct) (s u : PingPong) (hstart : start checked option early created now = some s)
    (hprompt : Along step (Prompt late) s acts) (hdelivers : Along step (Delivers down up) s acts)
    (hrun : run step s acts = some u) : ¬ u.TimedOut := by
  have hheard := along_heard (start_onWire down hfits hstart) hdelivers
  have hs : Responsive late (down+up) s := start_responsive hfits hmargin hcreated hstart
  have hu := run_preserves_along (fun _ _ _ hp hs h => step_responsive hp.1 hp.2 hs h) (hprompt.and hheard) hs hrun
  exact hu.alive

/-- Two rounds with the default options, the first ping answered 10 milliseconds after it was sent. -/
def twoRounds : List PingAct :=
  [.tick,.emit true,.check,.elapse 5,.clientRead true,.elapse 5,.receive,.elapse 19990,.tick,.emit true,.check]

theorem responsive_never_timed_out_twoRounds :
    ∃ s u, start true default [] 0 0 = some s ∧ run step s twoRounds = some u ∧ u.now = 20000 ∧ ¬ u.TimedOut :=
  ⟨_,_,rfl,rfl,rfl,responsive_never_timed_out true default [] 0 0 10 10 10 (by decide) (by decide) (by decide)
    twoRounds _ _ rfl (by decide) (by decide) rfl⟩

def silentRounds : List PingAct :=
  [.stopReading,.tick,.emit true,.check,.elapse 20000,.tick,.emit true,.check,.elapse 20000,.tick,.emit true,.check,
    .elapse 20000,.tick,.emit true,.check]

theorem silent_peer_closed_silentRounds :
    ∃ s u v, start true default [] 0 0 = some s ∧ run step s [] = some u ∧ run step u silentRounds = some v ∧
      v.task = .closing (.timeout 0) 60000 ∧ (v.stored = true → v.now ≤ 65000) :=
  ⟨_,_,_,rfl,rfl,rfl,rfl,(silent_peer_closed true default [] 0 0 0 (by decide) (by decide) [] silentRounds _ _ _ rfl
    (by decide) rfl rfl).1⟩

end SocketIox.EngineIo.PingPong
