import Mathlib.Data.List.Basic
import Mathlib.Tactic.Common

/-! # Lists of concurrent tasks

Tasks that run side by side are kept in a list, and a step of one of them replaces
its entry. What holds of some task after such a step held of some task before it, or
is what the step adds. New tasks are added at the end.
-/
namespace Proc
variable {τ : Type*} {tasks : List τ} {i : ℕ} {old new task : τ}

theorem exists_split_of_getElem? (h : tasks[i]? = some old) :
    ∃ before after, tasks = before ++ old :: after ∧ tasks.eraseIdx i = before ++ after ∧
      ∀ task, tasks.set i task = before ++ task :: after := by
  induction tasks generalizing i with
  | nil => simp at h
  | cons first rest ih =>
    cases i with
    | zero =>
      simp only [List.getElem?_cons_zero,Option.some.injEq] at h
      subst h
      exact ⟨[],rest,rfl,rfl,fun task => rfl⟩
    | succ i =>
      obtain ⟨before,after,hrest,herase,hset⟩ := ih (by simpa using h)
      refine ⟨first :: before,after,by rw [hrest,List.cons_append],?_,?_⟩
      · rw [List.eraseIdx_cons_succ,herase,List.cons_append]
      · intro task
        rw [List.set_cons_succ,hset,List.cons_append]

theorem perm_cons_eraseIdx (h : tasks[i]? = some old) : tasks.Perm (old :: tasks.eraseIdx i) := by
  obtain ⟨before,after,htasks,herase,-⟩ := exists_split_of_getElem? h
  rw [herase,htasks]
  exact List.perm_middle

theorem eq_or_mem_eraseIdx (h : tasks[i]? = some old) (hmem : task ∈ tasks) :
    task = old ∨ task ∈ tasks.eraseIdx i := List.mem_cons.mp ((perm_cons_eraseIdx h).mem_iff.mp hmem)

theorem mem_set_new (h : tasks[i]? = some old) : new ∈ tasks.set i new :=
  List.mem_set (List.getElem?_eq_some_iff.mp h).1 new

theorem eq_or_mem_set (h : tasks[i]? = some old) (hmem : task ∈ tasks) : task = old ∨ task ∈ tasks.set i new := by
  obtain ⟨before,after,htasks,-,hset⟩ := exists_split_of_getElem? h
  rw [htasks,List.mem_append,List.mem_cons] at hmem
  rw [hset,List.mem_append,List.mem_cons]
  rcases hmem with hmem | rfl | hmem
  · exact Or.inr (Or.inl hmem)
  · exact Or.inl rfl
  · exact Or.inr (Or.inr (Or.inr hmem))

/-- A property of some task is not affected by a step that does not affect it. -/
theorem exists_mem_set_iff (h : tasks[i]? = some old) {P : τ → Prop} {Q : Prop} (hstep : P new ↔ P old ∨ Q) :
    (∃ task ∈ tasks.set i new, P task) ↔ (∃ task ∈ tasks, P task) ∨ Q := by
  obtain ⟨before,after,htasks,-,hset⟩ := exists_split_of_getElem? h
  rw [hset,htasks]
  simp only [List.mem_append,List.mem_cons,or_and_right,exists_or,exists_eq_left,hstep]
  generalize (∃ task, task ∈ before ∧ P task) = A
  generalize (∃ task, task ∈ after ∧ P task) = B
  tauto

/-- A property of all tasks is kept by a step of a task that keeps it. -/
theorem forall_mem_set {P : τ → Prop} (hnew : P new) (h : ∀ task ∈ tasks, P task) :
    ∀ task ∈ tasks.set i new, P task := by
  intro task ht
  rcases List.mem_or_eq_of_mem_set ht with hmem | rfl
  · exact h task hmem
  · exact hnew

/-- A step that leaves a feature of its task alone leaves the list of these features alone. -/
theorem map_set_of_eq {β : Type*} {f : τ → β} (h : tasks[i]? = some old) (hf : f new = f old) :
    (tasks.set i new).map f = tasks.map f := by
  obtain ⟨before,after,htasks,-,hset⟩ := exists_split_of_getElem? h
  rw [hset,htasks,List.map_append,List.map_append,List.map_cons,List.map_cons,hf]

/-- A new entry keeps what holds between the entries, each with the later ones. -/
theorem pairwise_append_singleton {R : τ → τ → Prop} (h : tasks.Pairwise R) (hnew : ∀ task ∈ tasks, R task new) :
    (tasks ++ [new]).Pairwise R := by
  refine List.pairwise_append.mpr ⟨h,List.pairwise_singleton R new,?_⟩
  intro task ht last hlast
  rw [List.mem_singleton.mp hlast]
  exact hnew task ht

end Proc
