import Mathlib.Tactic.Common

/-! # Runs of a partial step function

A run is a list of actions, each of them possible where it is taken. What every
step preserves, possibly under a condition on the state before it, a whole run
preserves.
-/
namespace Proc
variable {σ α : Type*} (step : σ → α → Option σ)

def run : σ → List α → Option σ
  | s, [] => some s
  | s, a :: rest => (step s a).bind (fun t => run t rest)

/-- A condition on state and action that holds before every step of a run. -/
def Along (P : σ → α → Prop) : σ → List α → Prop
  | _, [] => True
  | s, a :: rest => P s a ∧ ∀ t, step s a = some t → Along P t rest

instance Along.decidable {P : σ → α → Prop} [∀ s a, Decidable (P s a)] :
    ∀ s acts, Decidable (Along step P s acts)
  | _, [] => isTrue trivial
  | s, a :: rest =>
    match h : step s a with
    | none => decidable_of_iff (P s a) ⟨fun hp => ⟨hp,fun t ht => by rw [h] at ht; cases ht⟩,And.left⟩
    | some t =>
      have : Decidable (Along step P t rest) := Along.decidable t rest
      decidable_of_iff (P s a ∧ Along step P t rest)
        ⟨fun hp => ⟨hp.1,fun u hu => by rw [h] at hu; cases hu; exact hp.2⟩,fun hp => ⟨hp.1,hp.2 t h⟩⟩

variable {step}

theorem run_cons {s u : σ} {a : α} {rest : List α} (h : run step s (a :: rest) = some u) :
    ∃ t, step s a = some t ∧ run step t rest = some u := Option.bind_eq_some_iff.mp h

theorem run_append {s t : σ} {acts acts' : List α} (h : run step s acts = some t) :
    run step s (acts ++ acts') = run step t acts' := by
  induction acts generalizing s with
  | nil =>
    cases h
    rfl
  | cons a rest ih =>
    obtain ⟨u,hsu,hrun⟩ := run_cons h
    simp only [List.cons_append,run,hsu,Option.bind_some]
    exact ih hrun

theorem run_preserves_along {P : σ → α → Prop} {Inv : σ → Prop}
    (hstep : ∀ s a t, P s a → Inv s → step s a = some t → Inv t) {s u : σ} {acts : List α}
    (hp : Along step P s acts) (hs : Inv s) (h : run step s acts = some u) : Inv u := by
  induction acts generalizing s with
  | nil =>
    cases h
    exact hs
  | cons a rest ih =>
    obtain ⟨t,hst,hrun⟩ := run_cons h
    exact ih (hp.2 t hst) (hstep s a t hp.1 hs hst) hrun

theorem along_of_forall {P : α → Prop} {acts : List α} (h : ∀ a ∈ acts, P a) (s : σ) :
    Along step (fun _ a => P a) s acts := by
  induction acts generalizing s with
  | nil => trivial
  | cons a rest ih =>
    refine ⟨h a List.mem_cons_self,?_⟩
    intro t _
    exact ih (fun b hb => h b (List.mem_cons_of_mem _ hb)) t

theorem Along.and {P Q : σ → α → Prop} {s : σ} {acts : List α} (hp : Along step P s acts)
    (hq : Along step Q s acts) : Along step (fun s a => P s a ∧ Q s a) s acts := by
  induction acts generalizing s with
  | nil => trivial
  | cons a rest ih =>
    refine ⟨⟨hp.1,hq.1⟩,?_⟩
    intro t ht
    exact ih (hp.2 t ht) (hq.2 t ht)

/-- A condition gives another one where an invariant holds that it carries along. -/
theorem Along.of_along {P Q : σ → α → Prop} {Inv : σ → Prop} (hq : ∀ s a, Inv s → P s a → Q s a)
    (hstep : ∀ s a t, P s a → Inv s → step s a = some t → Inv t) {s : σ} (hs : Inv s) {acts : List α}
    (hp : Along step P s acts) : Along step Q s acts := by
  induction acts generalizing s with
  | nil => trivial
  | cons a rest ih =>
    refine ⟨hq s a hs hp.1,?_⟩
    intro t ht
    exact ih (hstep s a t hp.1 hs ht) (hp.2 t ht)

/-- Two conditions that agree where an invariant holds, which the first of them carries along. -/
theorem along_iff_along {P Q : σ → α → Prop} {Inv : σ → Prop} (hiff : ∀ s a, Inv s → (P s a ↔ Q s a))
    (hstep : ∀ s a t, P s a → Inv s → step s a = some t → Inv t) {s : σ} (hs : Inv s) (acts : List α) :
    Along step P s acts ↔ Along step Q s acts := by
  constructor
  · exact Along.of_along (fun s a hi => (hiff s a hi).mp) hstep hs
  · refine Along.of_along (fun s a hi => (hiff s a hi).mpr) ?_ hs
    intro s a t hq hi
    exact hstep s a t ((hiff s a hi).mpr hq) hi

theorem run_preserves {Inv : σ → Prop} (hstep : ∀ s a t, Inv s → step s a = some t → Inv t)
    {s u : σ} {acts : List α} (hs : Inv s) (h : run step s acts = some u) : Inv u :=
  run_preserves_along (fun s a t _ hi ht => hstep s a t hi ht) (along_of_forall (fun _ _ => trivial) s) hs h

/-- What holds of the history of a fold and of its state, if every step carries it along. -/
theorem foldl_history {f : σ → α → σ} (Inv : List α → σ → Prop)
    (hstep : ∀ history s a, Inv history s → Inv (history ++ [a]) (f s a)) {history : List α} {s : σ}
    (hs : Inv history s) (more : List α) : Inv (history ++ more) (more.foldl f s) := by
  induction more generalizing history s with
  | nil =>
    rw [List.append_nil]
    exact hs
  | cons a rest ih =>
    rw [List.foldl_cons,List.append_cons]
    exact ih (hstep history s a hs)

end Proc
