import Mathlib.Data.List.Forall2
import SocketIox.Wire.Text

/-! # Separated segments read by an index loop

A reader walks over the positions of a list, remembers where the current segment
started, and hands every finished segment to a partial decoder. The loop agrees
with splitting at the separator and decoding segment by segment.
-/
namespace Wire
variable {α β ε : Type*}

/-- The elements at the positions from `first` up to but excluding `last`. -/
def slice (xs : List α) (first last : ℕ) : List α := (xs.take last).drop first

section Scan
variable [DecidableEq α] (sep : α) (read : List α → Except ε β) (xs : List α)

def scanStep (state : List β × ℕ) (i : ℕ) : Except ε (List β × ℕ) :=
  if xs[i]? = some sep then do
    let b ← read (slice xs state.2 i)
    pure (state.1 ++ [b],i+1)
  else pure state

def scanRest (state : List β × ℕ) : Except ε (List β) := do
  let b ← read (slice xs state.2 xs.length)
  pure (state.1 ++ [b])

def scan : Except ε (List β) := do
  let state ← (List.range xs.length).foldlM (scanStep sep read xs) ([],0)
  scanRest read xs state

private theorem scan_suffix (done rest : List α) (hxs : xs = done ++ rest) (vec : List β) (last : ℕ)
    (hlast : last ≤ done.length) (hcur : sep ∉ done.drop last) :
    ((List.range' done.length rest.length).foldlM (scanStep sep read xs) (vec,last) >>= scanRest read xs) =
      (do
        let bs ← ((done.drop last ++ rest).splitOn sep).mapM read
        pure (vec ++ bs)) := by
  induction rest generalizing done vec last with
  | nil =>
    have hs : slice xs last xs.length = done.drop last := by simp [slice,hxs]
    simp only [List.length_nil,List.range'_zero,List.foldlM_nil,pure_bind,List.append_nil,
      List.splitOn_eq_singleton hcur,List.mapM_cons,List.mapM_nil,scanRest,hs,bind_assoc]
  | cons x rest ih =>
    have hx : xs[done.length]? = some x := by simp [hxs]
    have hnext : xs = (done ++ [x]) ++ rest := by simp [hxs]
    have hlen : (done ++ [x]).length = done.length + 1 := by simp
    simp only [List.length_cons,List.range'_succ,List.foldlM_cons,bind_assoc]
    by_cases hsep : x = sep
    · subst hsep
      have hs : slice xs last done.length = done.drop last := by simp [slice,hxs]
      have hi := fun b => ih (done ++ [x]) hnext (vec ++ [b]) (done.length+1) (by simp) (by simp)
      have hdrop : (done ++ [x]).drop (done.length+1) = [] := by simp
      simp only [hlen,hdrop,List.nil_append] at hi
      simp only [scanStep,hx,↓reduceIte,hs,bind_assoc,pure_bind,hi,
        List.splitOn_append_cons_self_of_not_mem hcur,List.mapM_cons,List.append_assoc,
        List.singleton_append]
    · have hne : xs[done.length]? ≠ some sep := by simpa [hx] using hsep
      have hdrop : (done ++ [x]).drop last = done.drop last ++ [x] :=
        List.drop_append_of_le_length hlast
      have hcur' : sep ∉ (done ++ [x]).drop last := by
        rw [hdrop]
        simp only [List.mem_append,List.mem_singleton,not_or]
        exact ⟨hcur,fun h => hsep h.symm⟩
      have hi := ih (done ++ [x]) hnext vec last (by simp; omega) hcur'
      rw [hlen,hdrop,List.append_assoc,List.singleton_append] at hi
      simp only [scanStep,hne,↓reduceIte,pure_bind]
      exact hi

/-- The loop decodes exactly the segments between separators, in order. -/
theorem scan_eq_mapM : scan sep read xs = (xs.splitOn sep).mapM read := by
  have h := scan_suffix sep read xs [] xs rfl [] 0 (Nat.zero_le _) (by simp)
  simp only [List.length_nil,List.drop_nil,List.nil_append,bind_pure] at h
  rw [← h,scan,List.range_eq_range']

end Scan

theorem flatMap_terminated (sep : α) (f : β → List α) {xs : List β} (h : xs ≠ []) :
    xs.flatMap (fun x => f x ++ [sep]) = [sep].intercalate (xs.map f) ++ [sep] := by
  induction xs with
  | nil => exact absurd rfl h
  | cons x rest ih =>
    cases rest with
    | nil => simp
    | cons y rest =>
      rw [List.flatMap_cons,ih (List.cons_ne_nil _ _)]
      simp [List.intercalate_cons_cons]

theorem length_splitOn [DecidableEq α] (sep : α) (xs : List α) :
    (xs.splitOn sep).length = xs.count sep + 1 := by
  induction xs with
  | nil => simp
  | cons x xs ih =>
    rw [List.splitOn_cons_eq_if_modifyHead,List.count_cons]
    split
    · simp [ih]
    · simp [ih]

theorem append_cons_inj_of_not_mem [DecidableEq α] {sep : α} {xs xs' ys ys' : List α} (hy : sep ∉ ys)
    (hy' : sep ∉ ys') (h : xs ++ sep :: ys = xs' ++ sep :: ys') : xs = xs' ∧ ys = ys' := by
  have hs := congrArg (List.splitOn sep) h
  rw [List.splitOn_append_cons_self,List.splitOn_append_cons_self,List.splitOn_eq_singleton hy,
    List.splitOn_eq_singleton hy'] at hs
  obtain ⟨hx,hlast⟩ := List.append_inj' hs rfl
  refine ⟨?_,List.singleton_inj.mp hlast⟩
  calc xs = [sep].intercalate (xs.splitOn sep) := (List.intercalate_splitOn sep).symm
    _ = [sep].intercalate (xs'.splitOn sep) := by rw [hx]
    _ = xs' := List.intercalate_splitOn sep

theorem mapM_eq_ok_iff {f : α → Except ε β} {xs : List α} {ys : List β} :
    xs.mapM f = .ok ys ↔ List.Forall₂ (fun x y => f x = .ok y) xs ys := by
  induction xs generalizing ys with
  | nil =>
    rw [List.mapM_nil,List.forall₂_nil_left_iff]
    exact ⟨fun h => (Except.ok.inj h).symm,fun h => h ▸ rfl⟩
  | cons x xs ih =>
    rw [List.mapM_cons]
    constructor
    · intro h
      cases hx : f x with
      | error e => simp [hx,bind,Except.bind] at h
      | ok y =>
        cases hxs : xs.mapM f with
        | error e => simp [hx,hxs,bind,Except.bind] at h
        | ok zs =>
          simp only [hx,hxs,bind,Except.bind,pure,Except.pure,Except.ok.injEq] at h
          subst h
          exact .cons hx (ih.mp hxs)
    · rintro (_ | ⟨hx,hxs⟩)
      simp only [hx,ih.mpr hxs,bind,Except.bind,pure,Except.pure]

theorem map_eq_of_forall₂ {R : α → β → Prop} {g : β → α} {xs : List α} {ys : List β}
    (h : List.Forall₂ R xs ys) (hg : ∀ x ∈ xs, ∀ y, R x y → g y = x) : ys.map g = xs := by
  induction h with
  | nil => simp
  | @cons x y xs ys hxy _ ih =>
    rw [List.map_cons,hg x List.mem_cons_self y hxy,ih (fun a ha => hg a (List.mem_cons_of_mem x ha))]

theorem length_le_length_flatten {xss : List (List α)} (h : ∀ xs ∈ xss, xs ≠ []) :
    xss.length ≤ xss.flatten.length := by
  induction xss with
  | nil => simp
  | cons xs xss ih =>
    have hxs := List.length_pos_of_ne_nil (h xs List.mem_cons_self)
    have hrest := ih (fun ys hys => h ys (List.mem_cons_of_mem xs hys))
    simp only [List.flatten_cons,List.length_append,List.length_cons]
    omega

theorem length_eq_one_of_length_flatten {xss : List (List α)} (h : ∀ xs ∈ xss, xs ≠ [])
    (hlen : xss.flatten.length = xss.length) : ∀ xs ∈ xss, xs.length = 1 := by
  induction xss with
  | nil => simp
  | cons xs xss ih =>
    have hxs := List.length_pos_of_ne_nil (h xs List.mem_cons_self)
    have hne : ∀ ys ∈ xss, ys ≠ [] := fun ys hys => h ys (List.mem_cons_of_mem xs hys)
    have hrest := length_le_length_flatten hne
    simp only [List.flatten_cons,List.length_append,List.length_cons] at hlen
    intro ys hys
    rcases List.mem_cons.mp hys with rfl | hys
    · omega
    · exact ih hne (by omega) ys hys

theorem flatten_eq_map_flatten {xss : List (List (List α))} (h : ∀ xs ∈ xss, xs.length = 1) :
    xss.flatten = xss.map List.flatten := by
  induction xss with
  | nil => rfl
  | cons xs xss ih =>
    obtain ⟨x,rfl⟩ := List.length_eq_one_iff.mp (h xs List.mem_cons_self)
    have hrest := ih (fun ys hys => h ys (List.mem_cons_of_mem _ hys))
    simp [hrest]

end Wire
