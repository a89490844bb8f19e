import SocketIox.SocketIo.Reconnect

/-! # The wait before an attempt to reconnect

A client has one backoff, built with it and never reset, and `reconnect` sleeps for as
long as the backoff says. Once a quarter of an hour has passed since the client was built
the backoff has no more intervals to give, and the attempts follow one another, and the
loss of the connection, without a wait. Times and durations are in nanoseconds.
-/
namespace SocketIox.SocketIo
open Proc

/-- What the client uses of the backoff crate: `build` gets the initial and the greatest interval and the
time, `nextBackoff` the time. `maxElapsedTime` is the crate's default, since the client configures none. -/
structure BackoffCrate where
  Backoff : Type
  maxElapsedTime : ℕ
  build : ℕ → ℕ → ℕ → Backoff
  nextBackoff : Backoff → ℕ → Option ℕ × Backoff
  startTime : Backoff → ℕ
  initialInterval : Backoff → ℕ

/-- The backoff gives no interval once more than `maxElapsedTime` has passed since it was built, and
otherwise a positive one. -/
structure BackoffCrate.Timed (crate : BackoffCrate) : Prop where
  startTime_build : ∀ initial greatest now, crate.startTime (crate.build initial greatest now) = now
  initialInterval_build : ∀ initial greatest now,
    crate.initialInterval (crate.build initial greatest now) = initial
  startTime_nextBackoff : ∀ b now, crate.startTime (crate.nextBackoff b now).2 = crate.startTime b
  initialInterval_nextBackoff : ∀ b now, crate.initialInterval (crate.nextBackoff b now).2 = crate.initialInterval b
  nextBackoff_late : ∀ b now, crate.startTime b+crate.maxElapsedTime < now → (crate.nextBackoff b now).1 = none
  nextBackoff_early : ∀ b now, now ≤ crate.startTime b+crate.maxElapsedTime → 0 < crate.initialInterval b →
    ∃ interval, (crate.nextBackoff b now).1 = some interval ∧ 0 < interval

section Timed
variable {crate : BackoffCrate} (hc : crate.Timed) {b : crate.Backoff} {now : ℕ}
include hc

theorem interval_pos_of_nextBackoff (hinitial : 0 < crate.initialInterval b) {interval : ℕ}
    (h : (crate.nextBackoff b now).1 = some interval) : 0 < interval := by
  rcases Nat.lt_or_ge (crate.startTime b+crate.maxElapsedTime) now with hlate | hearly
  · cases h.symm.trans (hc.nextBackoff_late b now hlate)
  · obtain ⟨interval',he,hpos⟩ := hc.nextBackoff_early b now hearly hinitial
    cases h.symm.trans he
    exact hpos

theorem nextBackoff_eq_none_iff (now : ℕ) (hinitial : 0 < crate.initialInterval b) :
    (crate.nextBackoff b now).1 = none ↔ crate.startTime b+crate.maxElapsedTime < now := by
  refine ⟨?_,hc.nextBackoff_late b now⟩
  intro hnone
  by_contra hearly
  obtain ⟨interval,he,-⟩ := hc.nextBackoff_early b now (Nat.le_of_not_lt hearly) hinitial
  cases hnone.symm.trans he

end Timed

inductive ReconnectEvent where
  | lost
  | slept (interval : ℕ)
  | attempted
  deriving DecidableEq, Repr

/-- A client with the time. `since` and `interval` are the begin and the length of its last sleep, and
`journal` is what has happened, the oldest first. -/
structure TimedClient (crate : BackoffCrate) where
  client : ClientState
  now : ℕ
  backoff : crate.Backoff
  since : ℕ
  interval : ℕ
  journal : List ReconnectEvent

inductive TimedAct where
  | elapse (duration : ℕ)
  | pass
  | other (act : ClientAct)
  deriving DecidableEq, Repr

/-- The journal ends in a sleep of positive length, with no attempt and no loss after it. -/
def Sleeps (journal : List ReconnectEvent) : Prop :=
  ∃ earlier interval rest, journal = earlier ++ .slept interval :: rest ∧ 0 < interval ∧
    .lost ∉ rest ∧ .attempted ∉ rest

/-- Every attempt comes after a sleep of positive length since the attempt or the loss before it. -/
def Rested (journal : List ReconnectEvent) : Prop :=
  ∀ before after, journal = before ++ .attempted :: after → Sleeps before

section Journal
variable {journal : List ReconnectEvent} {event : ReconnectEvent}

theorem rested_append (h : Rested journal) (hevent : event = .attempted → Sleeps journal) :
    Rested (journal ++ [event]) := by
  intro before after he
  rcases List.eq_nil_or_concat after with rfl | ⟨init,last,rfl⟩
  · obtain ⟨rfl,hlast⟩ := List.append_inj' he rfl
    exact hevent (List.singleton_inj.mp hlast)
  · rw [List.concat_eq_append,← List.cons_append,← List.append_assoc] at he
    exact h before init (List.append_inj' he rfl).1

theorem rested_append_slept {interval : ℕ} (h : Rested journal) (hpos : 0 < interval) :
    Rested (journal ++ [.slept interval,.attempted]) := by
  rw [List.append_cons]
  refine rested_append (rested_append h (fun he => by cases he)) ?_
  intro _
  exact ⟨journal,interval,[],rfl,hpos,List.not_mem_nil,List.not_mem_nil⟩

def Awake (journal : List ReconnectEvent) : Prop := ∀ before interval, journal ≠ before ++ [.slept interval]

theorem awake_append (hevent : ∀ interval, event ≠ .slept interval) : Awake (journal ++ [event]) := by
  intro before interval he
  exact hevent interval (List.singleton_inj.mp (List.append_inj' he rfl).2)

theorem Awake.not_sleeps (h : Awake journal) : ¬ Sleeps journal := by
  rintro ⟨earlier,interval,rest,rfl,-,hlost,hattempted⟩
  rcases List.eq_nil_or_concat rest with rfl | ⟨init,last,rfl⟩
  · exact h earlier interval rfl
  · rw [List.concat_eq_append] at h hlost hattempted
    cases last with
    | lost => exact hlost (List.mem_append_right _ List.mem_cons_self)
    | attempted => exact hattempted (List.mem_append_right _ List.mem_cons_self)
    | slept interval' => exact h (earlier ++ .slept interval :: init) interval' (by simp)

theorem Awake.not_rested (h : Awake journal) : ¬ Rested (journal ++ [.attempted]) := by
  intro hrested
  exact h.not_sleeps (hrested journal [] rfl)

end Journal

namespace TimedClient
variable (crate : BackoffCrate) (options : ReconnectOptions)

/-- The client that `Client::new` returns at a time; the delays of the builder are in milliseconds. -/
def built (reconnectDelayMin reconnectDelayMax now : ℕ) : TimedClient crate :=
  ⟨ClientState.initial,now,crate.build (reconnectDelayMin*1000000) (reconnectDelayMax*1000000) now,now,0,[]⟩

variable {crate}

/-- The next interval of the backoff, and a sleep or an attempt at once. -/
def pass (s : TimedClient crate) : Option (TimedClient crate) :=
  let next := crate.nextBackoff s.backoff s.now
  (ClientState.step options s.client (.attempt next.1.isSome)).map (fun client =>
    match next.1 with
    | some interval => { s with client := client, backoff := next.2, since := s.now, interval := interval }
    | none => { s with client := client, backoff := next.2, journal := s.journal ++ [.attempted] })

def step (s : TimedClient crate) : TimedAct → Option (TimedClient crate)
  | .elapse duration => some { s with now := s.now+duration }
  | .pass =>
    match s.client.task with
    | .attempting attempts =>
      if ClientState.Exhausted options attempts then
        (ClientState.step options s.client (.attempt false)).map (fun client => { s with client := client })
      else s.pass options
    | _ => none
  | .other (.attempt _) => none
  | .other .wake =>
    if s.since+s.interval ≤ s.now then
      (ClientState.step options s.client .wake).map (fun client =>
        { s with client := client, journal := s.journal ++ [.slept s.interval,.attempted] })
    else none
  | .other .engineError =>
    (ClientState.step options s.client .engineError).map (fun client =>
      { s with client := client, journal := s.journal ++ [.lost] })
  | .other act => (ClientState.step options s.client act).map (fun client => { s with client := client })

/-- A pass that leads to an attempt begins while the backoff, built at that time, still gives intervals. -/
def Early (builtAt : ℕ) (s : TimedClient crate) (act : TimedAct) : Prop :=
  ∀ attempts, act = .pass → s.client.task = .attempting attempts → ¬ ClientState.Exhausted options attempts →
    s.now ≤ builtAt+crate.maxElapsedTime

instance (builtAt : ℕ) (s : TimedClient crate) (act : TimedAct) : Decidable (s.Early options builtAt act) :=
  match act, h : s.client.task with
  | .pass, .attempting attempts =>
    decidable_of_iff (ClientState.Exhausted options attempts ∨ s.now ≤ builtAt+crate.maxElapsedTime)
      ⟨fun hor k _ hk hrest => hor.resolve_left (by rw [h] at hk; cases hk; exact hrest),
        fun hearly => Decidable.or_iff_not_imp_left.mpr (hearly attempts rfl h)⟩
  | .pass, .polling | .pass, .dropping | .pass, .sleeping _ | .pass, .connecting _ | .pass, .installing
  | .pass, .checking | .pass, .exited => isTrue (fun k _ hk => by rw [h] at hk; cases hk)
  | .elapse _, _ | .other _, _ => isTrue (fun k hact => by cases hact)

section Steps
variable {options} {s t : TimedClient crate} {act : TimedAct}

theorem sleeping_of_step {c d : ClientState} {act : ClientAct} {attempts : ℕ}
    (h : ClientState.step options c act = some d) (hact : ∀ backoff, act ≠ .attempt backoff)
    (hd : d.task = .sleeping attempts) : c.task = .sleeping attempts := by
  obtain ⟨connected,task,disconnects,log⟩ := c
  cases act with
  | attempt backoff => exact absurd rfl (hact backoff)
  | wake =>
    cases task with
    | sleeping attempts =>
      cases h
      cases hd
    | _ => cases h
  | connect ok =>
    cases task with
    | connecting attempts =>
      cases h
      cases ok <;> cases hd
    | _ => cases h
  | call =>
    cases h
    exact hd
  | clear i =>
    simp only [ClientState.step] at h
    split at h
    · split at h <;> cases h <;> exact hd
    · cases h
  | dropped =>
    simp only [ClientState.step] at h
    split at h
    · cases h
      split at hd <;> cases hd
    · cases h
  | check =>
    simp only [ClientState.step] at h
    split at h
    · cases h
      split at hd <;> cases hd
    · cases h
  | _ =>
    simp only [ClientState.step] at h
    split at h
    · cases h
      first | exact hd | cases hd
    · cases h

inductive Does (options : ReconnectOptions) (s t : TimedClient crate) : TimedAct → Prop where
  | quiet (act : TimedAct) (hjournal : t.journal = s.journal) (hbackoff : t.backoff = s.backoff)
      (hinterval : t.interval = s.interval)
      (htask : ∀ k, t.client.task = .sleeping k → s.client.task = .sleeping k) : Does options s t act
  | loses (hjournal : t.journal = s.journal ++ [.lost]) (hbackoff : t.backoff = s.backoff)
      (htask : ∀ k, t.client.task ≠ .sleeping k) : Does options s t (.other .engineError)
  | sleeps (hnext : (crate.nextBackoff s.backoff s.now).1 = some t.interval) (hjournal : t.journal = s.journal)
      (hbackoff : t.backoff = (crate.nextBackoff s.backoff s.now).2) : Does options s t .pass
  | attempts (k : ℕ) (hfrom : s.client.task = .attempting k) (hrest : ¬ ClientState.Exhausted options k)
      (hnext : (crate.nextBackoff s.backoff s.now).1 = none) (hjournal : t.journal = s.journal ++ [.attempted])
      (hbackoff : t.backoff = (crate.nextBackoff s.backoff s.now).2)
      (htask : ∀ k, t.client.task ≠ .sleeping k) : Does options s t .pass
  | wakes (k : ℕ) (hfrom : s.client.task = .sleeping k)
      (hjournal : t.journal = s.journal ++ [.slept s.interval,.attempted]) (hbackoff : t.backoff = s.backoff)
      (htask : ∀ k, t.client.task ≠ .sleeping k) : Does options s t (.other .wake)

theorem pass_does {k : ℕ} (hfrom : s.client.task = .attempting k) (hrest : ¬ ClientState.Exhausted options k)
    (h : s.pass options = some t) : Does options s t .pass := by
  unfold pass at h
  simp only [ClientState.step,hfrom,if_neg hrest] at h
  cases hnext : (crate.nextBackoff s.backoff s.now).1 with
  | some interval =>
    simp only [hnext,Option.isSome_some,↓reduceIte,Option.map_some,Option.some.injEq] at h
    subst h
    exact .sleeps hnext rfl rfl
  | none =>
    simp only [hnext,Option.isSome_none,Bool.false_eq_true,↓reduceIte,Option.map_some,Option.some.injEq] at h
    subst h
    exact .attempts k hfrom hrest hnext rfl rfl (fun k hk => by cases hk)

theorem pass_without_wait {k : ℕ} (hfrom : s.client.task = .attempting k) (hrest : ¬ ClientState.Exhausted options k)
    (hnext : (crate.nextBackoff s.backoff s.now).1 = none) :
    ∃ t, s.pass options = some t ∧ t.journal = s.journal ++ [.attempted] := by
  simp only [pass,hnext,Option.isSome_none,ClientState.step,hfrom,if_neg hrest,Bool.false_eq_true,↓reduceIte,
    Option.map_some]
  exact ⟨_,rfl,rfl⟩

theorem step_does (h : step options s act = some t) : Does options s t act := by
  cases act with
  | elapse duration =>
    cases h
    exact .quiet _ rfl rfl rfl (fun k hk => hk)
  | pass =>
    simp only [step] at h
    split at h
    · rename_i k hfrom
      split at h
      · rename_i hexhausted
        simp only [ClientState.step,hfrom,if_pos hexhausted,Option.map_some,Option.some.injEq] at h
        subst h
        exact .quiet _ rfl rfl rfl (fun k hk => by cases hk)
      · rename_i hrest
        exact pass_does hfrom hrest h
    · cases h
  | other act =>
    cases act with
    | attempt backoff => cases h
    | wake =>
      simp only [step,ClientState.step] at h
      split at h
      · split at h
        · rename_i k hfrom
          simp only [Option.map_some,Option.some.injEq] at h
          subst h
          exact .wakes k hfrom rfl rfl (fun k hk => by cases hk)
        · cases h
      · cases h
    | engineError =>
      simp only [step,ClientState.step] at h
      split at h
      · simp only [Option.map_some,Option.some.injEq] at h
        subst h
        exact .loses rfl rfl (fun k hk => by cases hk)
      · cases h
    | call =>
      cases h
      exact .quiet _ rfl rfl rfl (fun k hk => hk)
    | _ =>
      obtain ⟨client,hclient,rfl⟩ := Option.map_eq_some_iff.mp h
      exact .quiet _ rfl rfl rfl (fun k => sleeping_of_step hclient (fun backoff hb => by cases hb))

theorem step_client (h : step options s act = some t) :
    t.client = s.client ∨ ∃ act, ClientState.step options s.client act = some t.client := by
  cases act with
  | elapse duration =>
    cases h
    exact Or.inl rfl
  | pass =>
    right
    simp only [step] at h
    split at h
    · split at h
      · obtain ⟨client,hclient,rfl⟩ := Option.map_eq_some_iff.mp h
        exact ⟨_,hclient⟩
      · obtain ⟨client,hclient,rfl⟩ := Option.map_eq_some_iff.mp h
        refine ⟨_,hclient.trans ?_⟩
        split <;> rfl
    · cases h
  | other act =>
    right
    cases act with
    | attempt backoff => cases h
    | wake =>
      simp only [step] at h
      split at h
      · obtain ⟨client,hclient,rfl⟩ := Option.map_eq_some_iff.mp h
        exact ⟨_,hclient⟩
      · cases h
    | call =>
      cases h
      exact ⟨.call,rfl⟩
    | _ =>
      obtain ⟨client,hclient,rfl⟩ := Option.map_eq_some_iff.mp h
      exact ⟨_,hclient⟩

theorem run_client {acts : List TimedAct} (h : run (step options) s acts = some t) :
    ∃ acts, run (ClientState.step options) s.client acts = some t.client := by
  induction acts generalizing s with
  | nil =>
    cases h
    exact ⟨[],rfl⟩
  | cons act rest ih =>
    obtain ⟨u,hu,hrest⟩ := run_cons h
    obtain ⟨acts,hacts⟩ := ih hrest
    rcases step_client hu with hsame | ⟨act,hact⟩
    · exact ⟨acts,hsame ▸ hacts⟩
    · refine ⟨act :: acts,?_⟩
      simp only [run,hact,Option.bind_some]
      exact hacts

/-- The backoff is the one that was built with the client, the task sleeps for a positive time only, no
sleep is the last entry of the journal, and every attempt in it has had its wait. -/
structure Sound (initial builtAt : ℕ) (s : TimedClient crate) : Prop where
  startTime : crate.startTime s.backoff = builtAt
  initialInterval : crate.initialInterval s.backoff = initial
  interval_pos : ∀ k, s.client.task = .sleeping k → 0 < s.interval
  awake : Awake s.journal
  rested : Rested s.journal

variable {initial builtAt : ℕ} (hc : crate.Timed) (hinitial : 0 < initial)
include hc hinitial

theorem step_sound (hs : s.Sound initial builtAt) (h : step options s act = some t) (hrested : Rested t.journal) :
    t.Sound initial builtAt := by
  cases step_does h with
  | quiet act hjournal hbackoff hinterval htask =>
    refine ⟨hbackoff ▸ hs.startTime,hbackoff ▸ hs.initialInterval,?_,hjournal ▸ hs.awake,hrested⟩
    intro k hk
    rw [hinterval]
    exact hs.interval_pos k (htask k hk)
  | loses hjournal hbackoff htask =>
    refine ⟨hbackoff ▸ hs.startTime,hbackoff ▸ hs.initialInterval,fun k hk => absurd hk (htask k),?_,hrested⟩
    rw [hjournal]
    exact awake_append (fun interval he => by cases he)
  | sleeps hnext hjournal hbackoff =>
    refine ⟨?_,?_,?_,hjournal ▸ hs.awake,hrested⟩
    · rw [hbackoff,hc.startTime_nextBackoff,hs.startTime]
    · rw [hbackoff,hc.initialInterval_nextBackoff,hs.initialInterval]
    · intro k _
      exact interval_pos_of_nextBackoff hc (hs.initialInterval.symm ▸ hinitial) hnext
  | attempts k hfrom hrest hnext hjournal hbackoff htask =>
    refine ⟨?_,?_,fun k hk => absurd hk (htask k),?_,hrested⟩
    · rw [hbackoff,hc.startTime_nextBackoff,hs.startTime]
    · rw [hbackoff,hc.initialInterval_nextBackoff,hs.initialInterval]
    · rw [hjournal]
      exact awake_append (fun interval he => by cases he)
  | wakes k hfrom hjournal hbackoff htask =>
    refine ⟨hbackoff ▸ hs.startTime,hbackoff ▸ hs.initialInterval,fun k hk => absurd hk (htask k),?_,hrested⟩
    rw [hjournal,List.append_cons]
    exact awake_append (fun interval he => by cases he)

theorem step_rested_iff (hs : s.Sound initial builtAt) :
    (∀ t, step options s act = some t → Rested t.journal) ↔ s.Early options builtAt act := by
  have hnone := nextBackoff_eq_none_iff hc s.now (hs.initialInterval.symm ▸ hinitial)
  rw [hs.startTime] at hnone
  constructor
  · intro hall k hact hfrom hrest
    subst hact
    by_contra hlate
    have hnext := hnone.mpr (Nat.lt_of_not_le hlate)
    obtain ⟨t,ht,hjournal⟩ := pass_without_wait hfrom hrest hnext
    have hstep : step options s .pass = some t := by
      simp only [step,hfrom,if_neg hrest]
      exact ht
    have ht := hall t hstep
    rw [hjournal] at ht
    exact hs.awake.not_rested ht
  · intro hearly t h
    cases step_does h with
    | quiet act hjournal hbackoff hinterval htask =>
      rw [hjournal]
      exact hs.rested
    | loses hjournal hbackoff htask =>
      rw [hjournal]
      exact rested_append hs.rested (fun he => by cases he)
    | sleeps hnext hjournal hbackoff =>
      rw [hjournal]
      exact hs.rested
    | attempts k hfrom hrest hnext hjournal hbackoff htask =>
      exact absurd (hnone.mp hnext) (Nat.not_lt_of_le (hearly k rfl hfrom hrest))
    | wakes k hfrom hjournal hbackoff htask =>
      rw [hjournal]
      exact rested_append_slept hs.rested (hs.interval_pos k hfrom)

end Steps
end TimedClient

open TimedClient

/-- Over the life of a client, every attempt to reconnect is preceded by a wait since the attempt or the
loss before it, exactly if no pass of `reconnect` begins an attempt more than `maxElapsedTime` after the
client was built. -/
theorem reconnect_rested_iff (crate : BackoffCrate) (hc : crate.Timed) (options : ReconnectOptions)
    (reconnectDelayMin reconnectDelayMax builtAt : ℕ) (hmin : 0 < reconnectDelayMin) (acts : List TimedAct) :
    Along (step options) (fun s act => ∀ t, step options s act = some t → Rested t.journal)
      (built crate reconnectDelayMin reconnectDelayMax builtAt) acts ↔
    Along (step options) (Early options builtAt) (built crate reconnectDelayMin reconnectDelayMax builtAt) acts := by
  have hinitial : 0 < reconnectDelayMin*1000000 := Nat.mul_pos hmin (by decide)
  have hs : (built crate reconnectDelayMin reconnectDelayMax builtAt).Sound (reconnectDelayMin*1000000) builtAt := by
    refine ⟨hc.startTime_build _ _ _,hc.initialInterval_build _ _ _,?_,?_,?_⟩
    · intro k hk
      cases hk
    · intro before interval h
      cases before <;> cases h
    · intro before after h
      cases before <;> cases h
  refine along_iff_along (fun s act hs => step_rested_iff hc hinitial hs) ?_ hs acts
  intro s act t hgood hs h
  exact step_sound hc hinitial hs h (hgood t h)

structure ExponentialBackoff where
  startTime : ℕ
  initialInterval : ℕ
  maxInterval : ℕ
  currentInterval : ℕ
  currentInterval_pos : 0 < initialInterval → 0 < currentInterval

/-- The interval grows by half and stays at the greatest one once it is reached; one of zero is no bound. -/
def ExponentialBackoff.increase (b : ExponentialBackoff) : ExponentialBackoff where
  startTime := b.startTime
  initialInterval := b.initialInterval
  maxInterval := b.maxInterval
  currentInterval := if b.maxInterval = 0 then b.currentInterval else min (b.currentInterval*3/2) b.maxInterval
  currentInterval_pos := by
    intro h
    have hpos := b.currentInterval_pos h
    split <;> omega

/-- `next_backoff`, with the random part of the interval taken to be zero. -/
def ExponentialBackoff.next (maxElapsed : ℕ) (b : ExponentialBackoff) (now : ℕ) : Option ℕ × ExponentialBackoff :=
  if b.startTime+maxElapsed < now then (none,b) else (some b.currentInterval,b.increase)

section Exponential
variable {maxElapsed : ℕ} {b : ExponentialBackoff} {now : ℕ}

theorem next_late (h : b.startTime+maxElapsed < now) : (b.next maxElapsed now).1 = none := by
  rw [ExponentialBackoff.next,if_pos h]

theorem next_early (h : now ≤ b.startTime+maxElapsed) (hpos : 0 < b.initialInterval) :
    ∃ interval, (b.next maxElapsed now).1 = some interval ∧ 0 < interval := by
  rw [ExponentialBackoff.next,if_neg (Nat.not_lt_of_le h)]
  exact ⟨b.currentInterval,rfl,b.currentInterval_pos hpos⟩

theorem next_built (maxElapsed : ℕ) (b : ExponentialBackoff) (now : ℕ) :
    (b.next maxElapsed now).2.startTime = b.startTime ∧
      (b.next maxElapsed now).2.initialInterval = b.initialInterval := by
  unfold ExponentialBackoff.next
  split
  · exact ⟨rfl,rfl⟩
  · exact ⟨rfl,rfl⟩

end Exponential

def exponential (maxElapsed : ℕ) : BackoffCrate where
  Backoff := ExponentialBackoff
  maxElapsedTime := maxElapsed
  build initial greatest now := ⟨now,initial,greatest,initial,id⟩
  nextBackoff := ExponentialBackoff.next maxElapsed
  startTime := ExponentialBackoff.startTime
  initialInterval := ExponentialBackoff.initialInterval

theorem exponential_timed (maxElapsed : ℕ) : (exponential maxElapsed).Timed where
  startTime_build _ _ _ := rfl
  initialInterval_build _ _ _ := rfl
  startTime_nextBackoff b now := (next_built maxElapsed b now).1
  initialInterval_nextBackoff b now := (next_built maxElapsed b now).2
  nextBackoff_late _ _ := next_late
  nextBackoff_early _ _ := next_early

/-- With the default limit of fifteen minutes; the crate also gives nothing when the interval would end after it. -/
def standardBackoff : BackoffCrate := exponential (15*60*1000000000)

def lossAndRecovery : List TimedAct :=
  [.other .engineError,.other .dropped,.pass,.elapse 1000000000,.other .wake,.other (.connect false),.pass,
    .elapse 1500000000,.other .wake,.other (.connect true),.other .install,.other .check]

theorem reconnect_rested_recovery :
    (∃ s, run (step ⟨true,none⟩) (built standardBackoff 1000 5000 0) lossAndRecovery = some s ∧
      s.journal = [.lost,.slept 1000000000,.attempted,.slept 1500000000,.attempted]) ∧
    Along (step ⟨true,none⟩) (fun s act => ∀ t, step ⟨true,none⟩ s act = some t → Rested t.journal)
      (built standardBackoff 1000 5000 0) lossAndRecovery :=
  ⟨⟨_,rfl,rfl⟩,
    (reconnect_rested_iff standardBackoff (exponential_timed _) ⟨true,none⟩ 1000 5000 0 (by decide) lossAndRecovery).mpr
      (by decide)⟩

/-- The connection is lost more than fifteen minutes after the client was built, and the first attempt
follows at once. -/
theorem reconnect_not_rested :
    ∃ s, run (step ⟨true,none⟩) (built standardBackoff 1000 5000 0)
        [.elapse 900000000001,.other .engineError,.other .dropped,.pass] = some s ∧
      s.journal = [.lost,.attempted] ∧ ¬ Rested s.journal := by
  refine ⟨_,rfl,rfl,?_⟩
  have hawake : Awake ([] ++ [.lost]) := awake_append (fun interval he => by cases he)
  exact hawake.not_rested

end SocketIox.SocketIo
