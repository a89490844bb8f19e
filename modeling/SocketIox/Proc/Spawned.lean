import Mathlib.Data.List.Perm.Basic
import SocketIox.Proc.Runs
import SocketIox.Proc.Tasks

/-! # Jobs on tasks of their own

Every job is given to a task that is spawned for it. The task waits for the lock that the
job needs, works under the lock and releases it. The scheduler decides which waiting task
gets a lock. The log is the order in which the jobs got their locks: every job once, never
two jobs of one lock at a time, and in the order of spawning where the scheduler keeps it.
-/
namespace Proc.Spawned
variable {J κ γ : Type*}

/-- All lists but `running` are in the order in which things have happened. -/
structure State (J : Type*) where
  spawned : List J
  waiting : List J
  running : List J
  log : List J
  deriving DecidableEq

def initial : State J := ⟨[],[],[],[]⟩

inductive Act (J : Type*) where
  | spawn (job : J)
  | acquire (i : ℕ)
  | release (i : ℕ)

def Act.jobs : Act J → List J
  | .spawn job => [job]
  | .acquire _ | .release _ => []

section Step
variable [DecidableEq κ] (lock : J → κ)

def step (s : State J) : Act J → Option (State J)
  | .spawn job => some { s with spawned := s.spawned ++ [job], waiting := s.waiting ++ [job] }
  | .acquire i =>
    match s.waiting[i]? with
    | some job =>
      if ∀ other ∈ s.running, lock other ≠ lock job then
        some { s with waiting := s.waiting.eraseIdx i, running := job :: s.running, log := s.log ++ [job] }
      else none
    | none => none
  | .release i => if i < s.running.length then some { s with running := s.running.eraseIdx i } else none

inductive Does (s : State J) : Act J → State J → Prop
  | spawn (job : J) : Does s (.spawn job) { s with spawned := s.spawned ++ [job], waiting := s.waiting ++ [job] }
  | acquire (i : ℕ) (job : J) (before after : List J) (hi : s.waiting[i]? = some job)
      (hbefore : before = s.waiting.take i) (hwaiting : s.waiting = before ++ job :: after)
      (hfree : ∀ other ∈ s.running, lock other ≠ lock job) :
      Does s (.acquire i) { s with waiting := before ++ after, running := job :: s.running, log := s.log ++ [job] }
  | release (i : ℕ) : Does s (.release i) { s with running := s.running.eraseIdx i }

variable {lock} {s t : State J} {act : Act J}

theorem step_does (h : step lock s act = some t) : Does lock s act t := by
  cases act with
  | spawn job =>
    cases h
    exact .spawn job
  | acquire i =>
    simp only [step] at h
    split at h
    · rename_i job hi
      split at h
      · rename_i hfree
        cases h
        obtain ⟨hlt,hget⟩ := List.getElem?_eq_some_iff.mp hi
        have hwaiting : s.waiting = s.waiting.take i ++ job :: s.waiting.drop (i+1) := by
          rw [← hget,List.getElem_cons_drop,List.take_append_drop]
        rw [List.eraseIdx_eq_take_drop_succ]
        exact .acquire i job _ _ hi rfl hwaiting hfree
      · cases h
    · cases h
  | release i =>
    simp only [step] at h
    split at h
    · cases h
      exact .release i
    · cases h

theorem step_spawned (h : step lock s act = some t) : t.spawned = s.spawned ++ act.jobs := by
  cases step_does h with
  | spawn job => rfl
  | acquire i => exact (List.append_nil _).symm
  | release i => exact (List.append_nil _).symm

/-- Every spawned job waits or is in the log, and no two running jobs have the same lock. -/
structure Sound (lock : J → κ) (s : State J) : Prop where
  accounts : (s.log ++ s.waiting).Perm s.spawned
  exclusive : (s.running.map lock).Nodup

omit [DecidableEq κ] in
theorem sound_initial : Sound lock (initial : State J) := ⟨List.Perm.refl _,List.nodup_nil⟩

theorem step_sound (hs : Sound lock s) (h : step lock s act = some t) : Sound lock t := by
  cases step_does h with
  | spawn job =>
    refine ⟨?_,hs.exclusive⟩
    rw [← List.append_assoc]
    exact hs.accounts.append_right [job]
  | acquire i job before after hi hbefore hwaiting hfree =>
    constructor
    · refine List.Perm.trans ?_ hs.accounts
      rw [hwaiting,List.append_assoc,List.singleton_append]
      exact List.Perm.append_left s.log List.perm_middle.symm
    · rw [List.map_cons,List.nodup_cons,List.mem_map]
      refine ⟨?_,hs.exclusive⟩
      rintro ⟨other,hmem,heq⟩
      exact hfree other hmem heq
  | release i => exact ⟨hs.accounts,hs.exclusive.sublist ((List.eraseIdx_sublist _ _).map lock)⟩

end Step

section Order
variable [DecidableEq κ] [DecidableEq γ] {lock : J → κ} (cls : J → γ)

/-- No task gets its lock before one of the same class that was spawned earlier. -/
def InOrder (s : State J) : Act J → Prop
  | .acquire i => ∀ job ∈ s.waiting[i]?, ∀ earlier ∈ s.waiting.take i, cls earlier ≠ cls job
  | _ => True

instance (s : State J) (act : Act J) : Decidable (InOrder cls s act) :=
  match act with
  | .acquire i => inferInstanceAs (Decidable (∀ job ∈ s.waiting[i]?, ∀ earlier ∈ s.waiting.take i, cls earlier ≠ cls job))
  | .spawn _ | .release _ => isTrue trivial

def ofClass (c : γ) (jobs : List J) : List J := jobs.filter (fun job => cls job = c)

theorem pairwise_of_ofClass {R : J → J → Prop} {jobs : List J} (h : ∀ c, (ofClass cls c jobs).Pairwise R) :
    jobs.Pairwise (fun job job' => cls job = cls job' → R job job') := by
  simp only [ofClass,List.pairwise_filter] at h
  rw [List.pairwise_iff_getElem]
  intro i j hi hj hij heq
  have hc := List.pairwise_iff_getElem.mp (h (cls jobs[i])) i j hi hj hij
  exact hc (by simp) (by simp [heq])

def Ordered (s : State J) : Prop := ∀ c, ofClass cls c (s.log ++ s.waiting) = ofClass cls c s.spawned

theorem ordered_initial : Ordered cls (initial : State J) := fun _ => rfl

variable {cls} {s t : State J} {act : Act J}

omit [DecidableEq κ] in
theorem Sound.ofClass_running_le_one (hs : Sound lock s)
    (hcls : ∀ job job', cls job = cls job' → lock job = lock job') (c : γ) :
    (ofClass cls c s.running).length ≤ 1 := by
  have hnodup : ((ofClass cls c s.running).map lock).Nodup :=
    hs.exclusive.sublist (List.filter_sublist.map lock)
  rcases hl : ofClass cls c s.running with _ | ⟨job,_ | ⟨job',rest⟩⟩
  · exact Nat.zero_le _
  · exact Nat.le_refl _
  · have hclass : ∀ x ∈ ofClass cls c s.running, cls x = c := by
      intro x hx
      simpa using (List.mem_filter.mp hx).2
    rw [hl] at hnodup hclass
    have heq := hcls job job' ((hclass job (by simp)).trans (hclass job' (by simp)).symm)
    simp [heq] at hnodup

theorem step_ordered (ho : InOrder cls s act) (hs : Ordered cls s) (h : step lock s act = some t) :
    Ordered cls t := by
  intro c
  have hc := hs c
  cases step_does h with
  | spawn job =>
    simp only [ofClass,List.filter_append] at hc ⊢
    rw [← List.append_assoc,hc]
  | acquire i job before after hi hbefore hwaiting hfree =>
    rw [hwaiting] at hc
    simp only [ofClass,List.filter_append,List.append_assoc] at hc ⊢
    rw [← hc]
    congr 1
    by_cases hj : cls job = c
    · have hnone : before.filter (fun job => cls job = c) = [] := by
        rw [List.filter_eq_nil_iff]
        intro earlier hmem
        have hne := ho job hi earlier (hbefore ▸ hmem)
        simpa [hj] using hne
      simp [hnone,hj]
    · simp [hj]
  | release i => exact hc

end Order

end Proc.Spawned
