import SocketIox.Store.Groups

/-! # Maps that are filled by insertions

Of several insertions at one key the last one stays. The insertions are kept as a list,
the oldest first.
-/
namespace Store
variable {κ v : Type*} [DecidableEq κ] {entries : List (κ × v)} {k k' : κ} {b b' : v} {m : Map κ v}

def lastValue (k : κ) (entries : List (κ × v)) : Option v := entries.reverse.lookup k

@[simp] theorem lastValue_nil : lastValue k ([] : List (κ × v)) = none := rfl

theorem lastValue_append : lastValue k (entries ++ [(k',b)]) = if k = k' then some b else lastValue k entries := by
  unfold lastValue
  rw [List.reverse_append,List.reverse_singleton,List.singleton_append,List.lookup_cons]
  by_cases h : k = k'
  · simp [h]
  · simp [beq_false_of_ne h,h]

theorem lastValue_eq_some_iff : lastValue k entries = some b ↔
    ∃ before after, entries = before ++ (k,b) :: after ∧ ∀ entry ∈ after, entry.1 ≠ k := by
  unfold lastValue
  rw [List.lookup_eq_some_iff]
  constructor
  · rintro ⟨after,before,hentries,hafter⟩
    refine ⟨before.reverse,after.reverse,?_,?_⟩
    · have hreverse := congrArg List.reverse hentries
      simpa using hreverse
    · intro entry hentry he
      have hne := hafter entry (List.mem_reverse.mp hentry)
      simp [he] at hne
  · rintro ⟨before,after,rfl,hafter⟩
    refine ⟨after.reverse,before.reverse,by simp,?_⟩
    intro entry hentry
    exact bne_iff_ne.mpr (hafter entry (List.mem_reverse.mp hentry)).symm

theorem exists_lastValue (h : (k,b) ∈ entries) : ∃ b, lastValue k entries = some b := by
  cases hlast : lastValue k entries with
  | some b => exact ⟨b,rfl⟩
  | none =>
    unfold lastValue at hlast
    rw [List.lookup_eq_none_iff] at hlast
    have hne := hlast (k,b) (List.mem_reverse.mpr h)
    simp at hne

theorem mem_of_lastValue (h : lastValue k entries = some b) : (k,b) ∈ entries := by
  obtain ⟨before,after,rfl,-⟩ := lastValue_eq_some_iff.mp h
  exact List.mem_append_right _ List.mem_cons_self

/-- The map is what the insertions have made of the empty one. -/
def FilledBy (m : Map κ v) (entries : List (κ × v)) : Prop := ∀ k, m.lookup k = lastValue k entries

theorem filledBy_empty : FilledBy (∅ : Map κ v) [] := fun _ => rfl

theorem FilledBy.insert (h : FilledBy m entries) (k : κ) (b : v) : FilledBy (m.insert k b) (entries ++ [(k,b)]) := by
  intro k'
  rw [lookup_insert_eq,lastValue_append,h k']

end Store
