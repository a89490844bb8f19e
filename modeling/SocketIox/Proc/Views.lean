import SocketIox.Proc.Runs

/-! # What one observer sees of a run

A relation says that a second state has what an observer can see of a first one, and nothing
that gets in its way. If its own steps can be followed there and the steps of others do not
show, then the observer sees of a run what it sees of its own actions alone.
-/
namespace Proc
variable {σ τ α : Type*} {step : σ → α → Option σ} {alone : τ → α → Option τ} {own : α → Bool} {R : σ → τ → Prop}

/-- Own steps can be followed. -/
def Followed (step : σ → α → Option σ) (alone : τ → α → Option τ) (own : α → Bool) (R : σ → τ → Prop) : Prop :=
  ∀ s s' a t, own a = true → R s s' → step s a = some t → ∃ t', alone s' a = some t' ∧ R t t'

/-- The step does not show to the observer, unless it is its own. -/
def Unseen (step : σ → α → Option σ) (own : α → Bool) (R : σ → τ → Prop) (s : σ) (a : α) : Prop :=
  own a = false → ∀ s' t, R s s' → step s a = some t → R t s'

theorem run_own (hown : Followed step alone own R) {s u : σ} {s' : τ} {acts : List α}
    (hothers : Along step (Unseen step own R) s acts) (hs : R s s') (h : run step s acts = some u) :
    ∃ u', run alone s' (acts.filter own) = some u' ∧ R u u' := by
  induction acts generalizing s s' with
  | nil =>
    cases h
    exact ⟨s',rfl,hs⟩
  | cons a rest ih =>
    obtain ⟨t,hst,hrun⟩ := run_cons h
    cases ha : own a with
    | true =>
      obtain ⟨t',hst',ht⟩ := hown s s' a t ha hs hst
      obtain ⟨u',hrun',hu⟩ := ih (hothers.2 t hst) ht hrun
      refine ⟨u',?_,hu⟩
      rw [List.filter_cons_of_pos ha,run,hst']
      exact hrun'
    | false =>
      obtain ⟨u',hrun',hu⟩ := ih (hothers.2 t hst) (hothers.1 ha s' t hs hst) hrun
      refine ⟨u',?_,hu⟩
      rw [List.filter_cons_of_neg (by simp [ha])]
      exact hrun'

/-- What never decreases is bounded by what it comes to in the end. -/
theorem along_le_last {f : σ → ℕ} (hmono : ∀ s a t, step s a = some t → f s ≤ f t) {s u : σ} {acts : List α}
    (h : run step s acts = some u) : Along step (fun s a => ∀ t, step s a = some t → f t ≤ f u) s acts ∧ f s ≤ f u := by
  induction acts generalizing s with
  | nil =>
    cases h
    exact ⟨trivial,Nat.le_refl _⟩
  | cons a rest ih =>
    obtain ⟨t,hst,hrun⟩ := run_cons h
    obtain ⟨halong,hle⟩ := ih hrun
    refine ⟨⟨?_,?_⟩,Nat.le_trans (hmono s a t hst) hle⟩
    · intro t' ht'
      rw [hst] at ht'
      cases ht'
      exact hle
    · intro t' ht'
      rw [hst] at ht'
      cases ht'
      exact halong

end Proc
