import Mathlib.Data.Finset.Basic
import Mathlib.Data.List.AList
import Mathlib.Data.Set.Insert

/-! # Groups of members in nested maps

A map from names to finite sets, and a map from spaces to such maps. Entries are made
on demand by the first member and stay behind when their last member leaves. What the
operations do to the set of memberships does not depend on which entries there are.
-/
namespace Store
variable {κ ν α v w : Type*}

abbrev Map (κ v : Type*) := AList (fun _ : κ => v)

section Map
variable [DecidableEq κ]

theorem lookup_insert_eq (m : Map κ v) (k k' : κ) (b : v) :
    (m.insert k b).lookup k' = if k' = k then some b else m.lookup k' := by
  by_cases h : k' = k
  · subst h
    simp
  · rw [AList.lookup_insert_ne h,if_neg h]

theorem lookup_erase_eq (m : Map κ v) (k k' : κ) :
    (m.erase k).lookup k' = if k' = k then none else m.lookup k' := by
  by_cases h : k' = k
  · subst h
    simp
  · rw [AList.lookup_erase_ne h,if_neg h]

theorem lookup_getD_empty (found : Option (Map κ v)) (k : κ) :
    (found.getD ∅).lookup k = found.bind (fun m => m.lookup k) := by
  cases found with
  | none => simp
  | some m => simp

def mapValues (f : v → w) (m : Map κ v) : Map κ w :=
  ⟨m.entries.map (Sigma.map id (fun _ => f)),List.NodupKeys.map₂ (fun _ => f) m.entries m.nodupKeys⟩

@[simp] theorem lookup_mapValues (f : v → w) (m : Map κ v) (k : κ) :
    (mapValues f m).lookup k = (m.lookup k).map f := List.dlookup_map₂ k

end Map

abbrev Groups (κ α : Type*) := Map κ (Finset α)

namespace Groups
variable [DecidableEq κ] (groups : Groups κ α)

def Mem (k : κ) (a : α) : Prop := ∃ members, groups.lookup k = some members ∧ a ∈ members

instance [DecidableEq α] (k : κ) (a : α) : Decidable (groups.Mem k a) :=
  match h : groups.lookup k with
  | none => isFalse (by
      rintro ⟨members,hm,-⟩
      rw [h] at hm
      cases hm)
  | some members => decidable_of_iff (a ∈ members)
      ⟨fun ha => ⟨members,h,ha⟩,fun ⟨members',hm,ha⟩ => by
        rw [h] at hm
        cases hm
        exact ha⟩

def add [DecidableEq α] (k : κ) (a : α) : Groups κ α :=
  match groups.lookup k with
  | some members => groups.insert k (insert a members)
  | none => groups.insert k {a}

def remove [DecidableEq α] (k : κ) (a : α) : Groups κ α :=
  match groups.lookup k with
  | some members => groups.insert k (members.erase a)
  | none => groups

/-- Keep the members that pass the test, in every group. -/
def retain (keep : α → Bool) : Groups κ α := mapValues (fun members => members.filter (fun a => keep a)) groups

variable {groups}

theorem mem_retain_iff {keep : α → Bool} {k : κ} {a : α} :
    (groups.retain keep).Mem k a ↔ groups.Mem k a ∧ keep a = true := by
  unfold retain Mem
  cases h : groups.lookup k with
  | none => simp [h]
  | some members => simp [h]

theorem mem_singleton_iff {k k' : κ} {a a' : α} :
    Mem (AList.singleton k {a} : Groups κ α) k' a' ↔ k' = k ∧ a' = a := by
  unfold Mem
  rw [← AList.insert_empty,lookup_insert_eq]
  by_cases hk : k' = k
  · simp [hk]
  · simp [hk]

@[simp] theorem mem_keys_retain_iff {keep : α → Bool} {k : κ} : k ∈ groups.retain keep ↔ k ∈ groups := by
  rw [← AList.lookup_isSome,← AList.lookup_isSome]
  simp [retain]

variable [DecidableEq α]

@[simp] theorem mem_keys_add_iff {k k' : κ} {a : α} : k' ∈ groups.add k a ↔ k' = k ∨ k' ∈ groups := by
  unfold add
  split <;> simp

@[simp] theorem mem_keys_remove_iff {k k' : κ} {a : α} : k' ∈ groups.remove k a ↔ k' ∈ groups := by
  unfold remove
  split
  · rename_i members h
    have hk : k ∈ groups := AList.lookup_isSome.mp (by simp [h])
    rw [AList.mem_insert]
    exact or_iff_right_of_imp (fun he => he ▸ hk)
  · exact Iff.rfl

theorem mem_add_iff {k k' : κ} {a a' : α} :
    (groups.add k a).Mem k' a' ↔ k' = k ∧ a' = a ∨ groups.Mem k' a' := by
  unfold add Mem
  cases h : groups.lookup k with
  | none =>
    by_cases hk : k' = k
    · subst hk
      simp [h]
    · simp [hk]
  | some members =>
    by_cases hk : k' = k
    · subst hk
      simp [h]
    · simp [hk]

theorem mem_remove_iff {k k' : κ} {a a' : α} :
    (groups.remove k a).Mem k' a' ↔ groups.Mem k' a' ∧ ¬ (k' = k ∧ a' = a) := by
  unfold remove Mem
  cases h : groups.lookup k with
  | none =>
    by_cases hk : k' = k
    · subst hk
      simp [h]
    · simp [hk]
  | some members =>
    by_cases hk : k' = k
    · subst hk
      simp [h,and_comm]
    · simp [hk]

end Groups

abbrev Nested (ν κ α : Type*) := Map ν (Groups κ α)

namespace Nested
variable [DecidableEq ν] [DecidableEq κ] (nested : Nested ν κ α)

def Mem (n : ν) (k : κ) (a : α) : Prop := ∃ groups : Groups κ α, nested.lookup n = some groups ∧ groups.Mem k a

instance [DecidableEq α] (n : ν) (k : κ) (a : α) : Decidable (nested.Mem n k a) :=
  match h : nested.lookup n with
  | none => isFalse (by
      rintro ⟨groups,hg,-⟩
      rw [h] at hg
      cases hg)
  | some groups => decidable_of_iff (groups.Mem k a)
      ⟨fun ha => ⟨groups,h,ha⟩,fun ⟨groups',hg,ha⟩ => by
        rw [h] at hg
        cases hg
        exact ha⟩

/-- There is an entry for the group, with or without members. -/
def HasGroup (n : ν) (k : κ) : Prop := ∃ groups : Groups κ α, nested.lookup n = some groups ∧ k ∈ groups

/-- All memberships of a nested map. -/
def members : Set (ν × κ × α) := { t | nested.Mem t.1 t.2.1 t.2.2 }

/-- Put a new space with one member in place of whatever is there. -/
def put (n : ν) (k : κ) (a : α) : Nested ν κ α := nested.insert n (AList.singleton k {a})

/-- Add a member, and the space and the group if there are none. -/
def add [DecidableEq α] (n : ν) (k : κ) (a : α) : Nested ν κ α :=
  match nested.lookup n with
  | none => nested.put n k a
  | some groups => nested.insert n (groups.add k a)

def remove [DecidableEq α] (n : ν) (k : κ) (a : α) : Nested ν κ α :=
  match nested.lookup n with
  | some groups => nested.insert n (groups.remove k a)
  | none => nested

def retain (keep : α → Bool) : Nested ν κ α := mapValues (fun groups => groups.retain keep) nested

/-- Keep the members that pass the test, in one space only. -/
def retainAt (n : ν) (keep : α → Bool) : Nested ν κ α :=
  match nested.lookup n with
  | some groups => nested.insert n (groups.retain keep)
  | none => nested

variable {nested} {n n' : ν} {k k' : κ} {a a' : α}

theorem mem_of_lookup {groups : Groups κ α} (h : nested.lookup n = some groups) :
    nested.Mem n k a ↔ groups.Mem k a := by
  unfold Mem
  simp [h]

theorem not_mem_of_lookup (h : nested.lookup n = none) : ¬ nested.Mem n k a := by
  rintro ⟨groups,hg,-⟩
  rw [h] at hg
  cases hg

theorem mem_keys_of_mem (h : nested.Mem n k a) : n ∈ nested := by
  obtain ⟨groups,hg,-⟩ := h
  exact AList.lookup_isSome.mp (by simp [hg])

omit [DecidableEq κ] in
theorem hasGroup_of_lookup {groups : Groups κ α} (h : nested.lookup n = some groups) :
    nested.HasGroup n k ↔ k ∈ groups := by
  unfold HasGroup
  simp [h]

omit [DecidableEq κ] in
theorem not_hasGroup_of_lookup (h : nested.lookup n = none) : ¬ nested.HasGroup n k := by
  rintro ⟨groups,hg,-⟩
  rw [h] at hg
  cases hg

omit [DecidableEq κ] in
theorem hasGroup_insert_iff {groups : Groups κ α} :
    HasGroup (nested.insert n groups) n' k' ↔ if n' = n then k' ∈ groups else nested.HasGroup n' k' := by
  unfold HasGroup
  rw [lookup_insert_eq]
  by_cases hn : n' = n
  · simp [hn]
  · simp [hn]

theorem mem_insert_iff {groups : Groups κ α} :
    Mem (nested.insert n groups) n' k' a' ↔ if n' = n then groups.Mem k' a' else nested.Mem n' k' a' := by
  unfold Mem
  rw [lookup_insert_eq]
  by_cases hn : n' = n
  · simp [hn]
  · simp [hn]

theorem mem_retain_iff {keep : α → Bool} :
    (nested.retain keep).Mem n k a ↔ nested.Mem n k a ∧ keep a = true := by
  unfold retain
  cases h : nested.lookup n with
  | none =>
    have hr : (mapValues (fun groups => Groups.retain groups keep) nested).lookup n = none := by simp [h]
    simp [not_mem_of_lookup h,not_mem_of_lookup hr]
  | some groups =>
    have hr : (mapValues (fun groups => Groups.retain groups keep) nested).lookup n =
      some (groups.retain keep) := by simp [h]
    rw [mem_of_lookup h,mem_of_lookup hr,Groups.mem_retain_iff]

theorem mem_retainAt_iff {keep : α → Bool} :
    (nested.retainAt n keep).Mem n' k' a' ↔ nested.Mem n' k' a' ∧ (n' = n → keep a' = true) := by
  unfold retainAt
  cases h : nested.lookup n with
  | none =>
    dsimp only
    by_cases hn : n' = n
    · subst hn
      simp [not_mem_of_lookup h]
    · simp [hn]
  | some groups =>
    dsimp only
    rw [mem_insert_iff,Groups.mem_retain_iff]
    by_cases hn : n' = n
    · subst hn
      simp [mem_of_lookup h]
    · simp [hn]

omit [DecidableEq κ] in
@[simp] theorem mem_keys_retainAt_iff {keep : α → Bool} : n' ∈ nested.retainAt n keep ↔ n' ∈ nested := by
  unfold retainAt
  split
  · rename_i groups h
    have hn : n ∈ nested := AList.lookup_isSome.mp (by simp [h])
    rw [AList.mem_insert]
    exact or_iff_right_of_imp (fun he => he ▸ hn)
  · exact Iff.rfl

omit [DecidableEq κ] in
@[simp] theorem mem_keys_retain_iff {keep : α → Bool} : n ∈ nested.retain keep ↔ n ∈ nested := by
  rw [← AList.lookup_isSome,← AList.lookup_isSome]
  simp [retain]

theorem hasGroup_retain_iff {keep : α → Bool} : (nested.retain keep).HasGroup n k ↔ nested.HasGroup n k := by
  unfold retain HasGroup
  cases h : nested.lookup n with
  | none => simp [h]
  | some groups => simp [h]

theorem mem_put_iff :
    (nested.put n k a).Mem n' k' a' ↔
      n' = n ∧ k' = k ∧ a' = a ∨ n' ≠ n ∧ nested.Mem n' k' a' := by
  unfold put
  rw [mem_insert_iff,Groups.mem_singleton_iff]
  by_cases hn : n' = n
  · simp [hn]
  · simp [hn]

variable [DecidableEq α]

@[simp] theorem mem_keys_add_iff : n' ∈ nested.add n k a ↔ n' = n ∨ n' ∈ nested := by
  unfold add put
  split <;> simp

@[simp] theorem mem_keys_remove_iff : n' ∈ nested.remove n k a ↔ n' ∈ nested := by
  unfold remove
  split
  · rename_i groups h
    have hn : n ∈ nested := AList.lookup_isSome.mp (by simp [h])
    rw [AList.mem_insert]
    exact or_iff_right_of_imp (fun he => he ▸ hn)
  · exact Iff.rfl

theorem hasGroup_add_iff : (nested.add n k a).HasGroup n' k' ↔ n' = n ∧ k' = k ∨ nested.HasGroup n' k' := by
  unfold add
  cases h : nested.lookup n with
  | none =>
    dsimp only [put]
    rw [hasGroup_insert_iff]
    by_cases hn : n' = n
    · subst hn
      simp [not_hasGroup_of_lookup h,AList.mem_keys]
    · simp [hn]
  | some groups =>
    dsimp only
    rw [hasGroup_insert_iff]
    by_cases hn : n' = n
    · subst hn
      simp [hasGroup_of_lookup h]
    · simp [hn]

theorem hasGroup_remove_iff : (nested.remove n k a).HasGroup n' k' ↔ nested.HasGroup n' k' := by
  unfold remove
  cases h : nested.lookup n with
  | none => exact Iff.rfl
  | some groups =>
    dsimp only
    rw [hasGroup_insert_iff]
    by_cases hn : n' = n
    · subst hn
      simp [hasGroup_of_lookup h]
    · simp [hn]

theorem mem_add_iff :
    (nested.add n k a).Mem n' k' a' ↔ (n' = n ∧ k' = k ∧ a' = a) ∨ nested.Mem n' k' a' := by
  unfold add
  cases h : nested.lookup n with
  | none =>
    dsimp only
    rw [mem_put_iff]
    by_cases hn : n' = n
    · subst hn
      simp [not_mem_of_lookup h]
    · simp [hn]
  | some groups =>
    dsimp only
    rw [mem_insert_iff,Groups.mem_add_iff]
    by_cases hn : n' = n
    · subst hn
      simp [mem_of_lookup h]
    · simp [hn]

theorem mem_remove_iff :
    (nested.remove n k a).Mem n' k' a' ↔ nested.Mem n' k' a' ∧ ¬ (n' = n ∧ k' = k ∧ a' = a) := by
  unfold remove
  cases h : nested.lookup n with
  | none =>
    dsimp only
    by_cases hn : n' = n
    · subst hn
      simp [not_mem_of_lookup h]
    · simp [hn]
  | some groups =>
    dsimp only
    rw [mem_insert_iff,Groups.mem_remove_iff]
    by_cases hn : n' = n
    · subst hn
      simp [mem_of_lookup h]
    · simp [hn]

end Nested

end Store
