import Mathlib.Logic.Function.Basic
import SocketIox.Proc.Runs

/-! # Groups written under one lock

Each task has a list of jobs, and a job writes a group of items to a shared log.
A task writes only while it holds the lock, and keeps it for the whole group. Then
the log is made of whole groups, in the order in which the lock was taken, and the
jobs of each task are in their own order.
-/
namespace Proc.Exclusive
variable {ι κ α : Type*}

structure State (ι κ α : Type*) where
  pending : ι → List κ
  holder : Option (ι × List α)
  log : List α

/-- Writing and releasing are done by the task that holds the lock. -/
inductive Act (ι : Type*) where
  | acquire (i : ι)
  | write
  | release

section Step
variable [DecidableEq ι] (items : κ → List α)

def step (s : State ι κ α) : Act ι → Option (State ι κ α)
  | .acquire i =>
    match s.holder,s.pending i with
    | none,job :: rest => some { s with
        pending := Function.update s.pending i rest
        holder := some (i,items job) }
    | _,_ => none
  | .write =>
    match s.holder with
    | some (i,a :: group) => some { s with holder := some (i,group), log := s.log ++ [a] }
    | _ => none
  | .release =>
    match s.holder with
    | some (_,[]) => some { s with holder := none }
    | _ => none

end Step

def initial (programs : ι → List κ) : State ι κ α := ⟨programs,none,[]⟩

def Finished (s : State ι κ α) : Prop := s.holder = none ∧ ∀ i, s.pending i = []

def State.unwritten (s : State ι κ α) : List α :=
  match s.holder with
  | some (_,group) => group
  | none => []

section Order
variable [DecidableEq ι]

/-- The jobs of one task in an order of all jobs. -/
def jobsOf (i : ι) (order : List (ι × κ)) : List κ := (order.filter (fun job => job.1 = i)).map Prod.snd

theorem jobsOf_append (i : ι) (order order' : List (ι × κ)) :
    jobsOf i (order ++ order') = jobsOf i order ++ jobsOf i order' := by
  simp [jobsOf]

variable (items : κ → List α) (programs : ι → List κ)

/-- The log with what is still to be written consists of whole groups. -/
def Whole (s : State ι κ α) : Prop :=
  ∃ order : List (ι × κ), s.log ++ s.unwritten = order.flatMap (fun job => items job.2) ∧
    ∀ i, jobsOf i order ++ s.pending i = programs i

theorem whole_initial : Whole items programs (initial programs) := by
  refine ⟨[],rfl,?_⟩
  intro i
  rfl

theorem step_whole (s : State ι κ α) (act : Act ι) (t : State ι κ α) (hs : Whole items programs s)
    (h : step items s act = some t) : Whole items programs t := by
  obtain ⟨order,hlog,hjobs⟩ := hs
  cases act with
  | acquire i =>
    cases hholder : s.holder with
    | some held => simp [step,hholder] at h
    | none =>
      cases hpending : s.pending i with
      | nil => simp [step,hholder,hpending] at h
      | cons job rest =>
        simp only [step,hholder,hpending,Option.some.injEq] at h
        subst h
        refine ⟨order ++ [(i,job)],?_,?_⟩
        · simp only [State.unwritten,hholder,List.append_nil] at hlog
          simp [State.unwritten,hlog]
        · intro j
          rw [jobsOf_append,← hjobs j]
          by_cases hj : j = i
          · subst hj
            simp [jobsOf,hpending]
          · have hij : i ≠ j := fun he => hj he.symm
            simp [jobsOf,hij,hj]
  | write =>
    cases hholder : s.holder with
    | none => simp [step,hholder] at h
    | some held =>
      obtain ⟨i,group⟩ := held
      cases group with
      | nil => simp [step,hholder] at h
      | cons a group =>
        simp only [step,hholder,Option.some.injEq] at h
        subst h
        refine ⟨order,?_,hjobs⟩
        simp only [State.unwritten,hholder] at hlog
        simp [State.unwritten,← hlog]
  | release =>
    cases hholder : s.holder with
    | none => simp [step,hholder] at h
    | some held =>
      obtain ⟨i,group⟩ := held
      cases group with
      | cons a group => simp [step,hholder] at h
      | nil =>
        simp only [step,hholder,Option.some.injEq] at h
        subst h
        refine ⟨order,?_,hjobs⟩
        simp only [State.unwritten,hholder] at hlog
        simpa [State.unwritten] using hlog

/-- After a run in which every job was done, the log is an order of whole groups. -/
theorem log_of_finished {acts : List (Act ι)} {s : State ι κ α}
    (h : run (step items) (initial programs) acts = some s) (hf : Finished s) :
    ∃ order : List (ι × κ), s.log = order.flatMap (fun job => items job.2) ∧
      ∀ i, jobsOf i order = programs i := by
  obtain ⟨order,hlog,hjobs⟩ := run_preserves (step_whole items programs) (whole_initial items programs) h
  refine ⟨order,?_,?_⟩
  · simpa [State.unwritten,hf.1] using hlog
  · intro i
    simpa [hf.2 i] using hjobs i

end Order

end Proc.Exclusive
