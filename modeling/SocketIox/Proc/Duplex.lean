import SocketIox.Proc.Runs

/-! # Two parties on one connection

A party is a script: it sends a message, waits for one, has an effect on the world around
it, or is done. What it does next depends on how that came out. The connection keeps the
order of messages in both directions until it is cut, which may lose what is on its way. The
world goes on between the steps, and an effect may have to wait for it.
-/
namespace Proc.Duplex

inductive Received (M : Type*) where
  | message (message : M)
  | failed (error : String)
  | ended
  deriving DecidableEq, Repr

inductive Script (M E R : Type*) where
  | done (result : R)
  | send (message : M) (next : Option String → Script M E R)
  | receive (next : Received M → Script M E R)
  | perform (effect : E) (next : Script M E R)

variable {M E R S W : Type*}

def Script.Within : ℕ → Script M E R → Prop
  | _, .done _ => True
  | 0, _ => False
  | n + 1, .send _ next => ∀ error, (next error).Within n
  | n + 1, .receive next => ∀ received, (next received).Within n
  | n + 1, .perform _ next => next.Within n

/-- One step of a script, given what is on its way to it: what is left, what it sends and its
effect. On a connection that is cut, sending fails with an error or its message is lost, and
waiting fails or comes to the end once nothing is on its way any more. -/
def Script.advance (cut : Bool) (incoming : List M) (error : Option String) :
    Script M E R → Option (Script M E R × List M × List M × List E)
  | .done _ => none
  | .send message next =>
    match error with
    | none => some (next none,incoming,if cut then [] else [message],[])
    | some e => if cut then some (next (some e),incoming,[],[]) else none
  | .receive next =>
    match incoming with
    | message :: rest => some (next (.message message),rest,[],[])
    | [] =>
      if cut then
        match error with
        | none => some (next .ended,[],[],[])
        | some e => some (next (.failed e),[],[],[])
      else none
  | .perform effect next => some (next,incoming,[],[effect])

/-- `rightEffects` are those of the right party, the oldest first. -/
structure State (M E R S W : Type*) where
  left : Script M E R
  right : Script M E S
  toRight : List M
  toLeft : List M
  cut : Bool
  leftEffects : List E
  rightEffects : List E
  world : W

def initial (left : Script M E R) (right : Script M E S) (world : W) : State M E R S W :=
  ⟨left,right,[],[],false,[],[],world⟩

/-- The others may leave any world. -/
inductive Act (W : Type*) where
  | left (error : Option String)
  | right (error : Option String)
  | cut (keptRight keptLeft : ℕ)
  | around (world : W)
  deriving DecidableEq, Repr

def Act.moves : Act W → Bool
  | .left _ | .right _ => true
  | .cut _ _ | .around _ => false

section Step
variable (perform : W → E → Option W)

/-- What a step of the left party leaves; an effect that has to wait is `none`. -/
def stepLeft (s : State M E R S W) (next : Script M E R × List M × List M × List E) : Option (State M E R S W) :=
  (next.2.2.2.foldlM perform s.world).map (fun world => { s with
    left := next.1
    toLeft := next.2.1
    toRight := s.toRight ++ next.2.2.1
    leftEffects := s.leftEffects ++ next.2.2.2
    world := world })

def stepRight (s : State M E R S W) (next : Script M E S × List M × List M × List E) : Option (State M E R S W) :=
  (next.2.2.2.foldlM perform s.world).map (fun world => { s with
    right := next.1
    toRight := next.2.1
    toLeft := s.toLeft ++ next.2.2.1
    rightEffects := s.rightEffects ++ next.2.2.2
    world := world })

def step (s : State M E R S W) : Act W → Option (State M E R S W)
  | .left error => (s.left.advance s.cut s.toLeft error).bind (stepLeft perform s)
  | .right error => (s.right.advance s.cut s.toRight error).bind (stepRight perform s)
  | .cut keptRight keptLeft => some { s with
      cut := true
      toRight := s.toRight.take keptRight
      toLeft := s.toLeft.take keptLeft }
  | .around world => some { s with world := world }

end Step

section Steps
variable {perform : W → E → Option W} {s t u : State M E R S W} {act : Act W} {acts : List (Act W)}

theorem step_left_iff {error : Option String} : step perform s (.left error) = some t ↔
    ∃ script rest sent effects world, s.left.advance s.cut s.toLeft error = some (script,rest,sent,effects) ∧
      effects.foldlM perform s.world = some world ∧ t = { s with
        left := script
        toLeft := rest
        toRight := s.toRight ++ sent
        leftEffects := s.leftEffects ++ effects
        world := world } := by
  simp only [step,stepLeft,Option.bind_eq_some_iff,Option.map_eq_some_iff]
  constructor
  · rintro ⟨⟨script,rest,sent,effects⟩,hadvance,world,hworld,rfl⟩
    exact ⟨script,rest,sent,effects,world,hadvance,hworld,rfl⟩
  · rintro ⟨script,rest,sent,effects,world,hadvance,hworld,rfl⟩
    exact ⟨_,hadvance,world,hworld,rfl⟩

theorem step_right_iff {error : Option String} : step perform s (.right error) = some t ↔
    ∃ script rest sent effects world, s.right.advance s.cut s.toRight error = some (script,rest,sent,effects) ∧
      effects.foldlM perform s.world = some world ∧ t = { s with
        right := script
        toRight := rest
        toLeft := s.toLeft ++ sent
        rightEffects := s.rightEffects ++ effects
        world := world } := by
  simp only [step,stepRight,Option.bind_eq_some_iff,Option.map_eq_some_iff]
  constructor
  · rintro ⟨⟨script,rest,sent,effects⟩,hadvance,world,hworld,rfl⟩
    exact ⟨script,rest,sent,effects,world,hadvance,hworld,rfl⟩
  · rintro ⟨script,rest,sent,effects,world,hadvance,hworld,rfl⟩
    exact ⟨_,hadvance,world,hworld,rfl⟩

theorem advance_within {script next : Script M E R} {cut : Bool} {incoming rest sent : List M} {error : Option String}
    {effects : List E} {n : ℕ} (hn : script.Within n)
    (h : script.advance cut incoming error = some (next,rest,sent,effects)) : ∃ k, n = k+1 ∧ next.Within k := by
  cases script with
  | done result => cases h
  | send message further =>
    cases n with
    | zero => exact absurd hn (by simp [Script.Within])
    | succ k =>
      refine ⟨k,rfl,?_⟩
      simp only [Script.advance] at h
      split at h
      · cases h
        exact hn none
      · split at h
        · cases h
          exact hn _
        · cases h
  | receive further =>
    cases n with
    | zero => exact absurd hn (by simp [Script.Within])
    | succ k =>
      refine ⟨k,rfl,?_⟩
      simp only [Script.advance] at h
      split at h
      · cases h
        exact hn _
      · split at h
        · split at h <;> cases h <;> exact hn _
        · cases h
  | perform effect further =>
    cases n with
    | zero => exact absurd hn (by simp [Script.Within])
    | succ k =>
      cases h
      exact ⟨k,rfl,hn⟩

/-- Scripts that are done after so many steps bound the length of a run between them. -/
theorem run_length {n k : ℕ} (h : run (step perform) s acts = some u) (hl : s.left.Within n) (hr : s.right.Within k) :
    (acts.filter Act.moves).length ≤ n+k := by
  induction acts generalizing s n k with
  | nil => simp
  | cons act rest ih =>
    obtain ⟨t,hst,hrun⟩ := run_cons h
    cases act with
    | left error =>
      obtain ⟨_,_,_,_,_,hadvance,-,rfl⟩ := step_left_iff.mp hst
      obtain ⟨m,rfl,hm⟩ := advance_within hl hadvance
      have hle := ih hrun hm hr
      rw [List.filter_cons_of_pos rfl,List.length_cons]
      omega
    | right error =>
      obtain ⟨_,_,_,_,_,hadvance,-,rfl⟩ := step_right_iff.mp hst
      obtain ⟨m,rfl,hm⟩ := advance_within hr hadvance
      have hle := ih hrun hl hm
      rw [List.filter_cons_of_pos rfl,List.length_cons]
      omega
    | cut keptRight keptLeft =>
      cases hst
      rw [List.filter_cons_of_neg (by simp [Act.moves])]
      exact ih hrun hl hr
    | around world =>
      cases hst
      rw [List.filter_cons_of_neg (by simp [Act.moves])]
      exact ih hrun hl hr

end Steps

end Proc.Duplex
