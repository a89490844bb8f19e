import SocketIox.Wire.Text

/-! # Terminated lines up to an empty one

A head is a sequence of lines, each ended by the two marks `cr` and `lf`, and it is
over at the first empty line. A reader collects the line it is in.
-/
namespace Wire
variable {α : Type*} [DecidableEq α] (cr lf : α)

/-- The lines up to the first empty one and what follows it; `line` has been read of the current line. -/
def readLines (line : List α) : List α → Option (List (List α) × List α)
  | [] => none
  | [_] => none
  | a :: b :: rest =>
    if a = cr ∧ b = lf then
      if line = [] then some ([],rest) else (readLines [] rest).map (fun p => (line :: p.1,p.2))
    else readLines (line ++ [a]) (b :: rest)

theorem readLines_line (done : List α) {line : List α} (h : cr ∉ line) (hne : done ++ line ≠ []) (rest : List α) :
    readLines cr lf done (line ++ cr :: lf :: rest) =
      (readLines cr lf [] rest).map (fun p => ((done ++ line) :: p.1,p.2)) := by
  induction line generalizing done with
  | nil =>
    have hdone : done ≠ [] := by simpa using hne
    simp [readLines,hdone]
  | cons a line ih =>
    simp only [List.mem_cons,not_or] at h
    have hstep := ih (done ++ [a]) h.2 (by simp)
    have ha : a ≠ cr := Ne.symm h.1
    rw [List.append_assoc,List.singleton_append] at hstep
    rw [← hstep]
    cases line with
    | nil => simp [readLines,ha]
    | cons b line => simp [readLines,ha]

theorem readLines_lines {lines : List (List α)} (hcr : ∀ line ∈ lines, cr ∉ line) (hne : ∀ line ∈ lines, line ≠ [])
    (rest : List α) :
    readLines cr lf [] (lines.flatMap (· ++ [cr,lf]) ++ rest) =
      (readLines cr lf [] rest).map (fun p => (lines ++ p.1,p.2)) := by
  induction lines with
  | nil => simp
  | cons line lines ih =>
    have hline := readLines_line cr lf [] (hcr line List.mem_cons_self) (by simpa using hne line List.mem_cons_self)
      (lines.flatMap (· ++ [cr,lf]) ++ rest)
    have hlines := ih (fun l hl => hcr l (List.mem_cons_of_mem _ hl)) (fun l hl => hne l (List.mem_cons_of_mem _ hl))
    simp only [List.flatMap_cons,List.append_assoc,List.cons_append,List.nil_append]
    rw [hline,hlines,Option.map_map]
    rfl

theorem readLines_head {lines : List (List α)} (hcr : ∀ line ∈ lines, cr ∉ line) (hne : ∀ line ∈ lines, line ≠ [])
    (rest : List α) :
    readLines cr lf [] (lines.flatMap (· ++ [cr,lf]) ++ cr :: lf :: rest) = some (lines,rest) := by
  rw [readLines_lines cr lf hcr hne]
  simp [readLines]

theorem readLines_unended {lines : List (List α)} (hcr : ∀ line ∈ lines, cr ∉ line)
    (hne : ∀ line ∈ lines, line ≠ []) : readLines cr lf [] (lines.flatMap (· ++ [cr,lf])) = none := by
  have h := readLines_lines cr lf hcr hne []
  rw [List.append_nil] at h
  rw [h]
  rfl

/-- What stands before and after the first `sep`. -/
def cutAt (sep : α) : List α → Option (List α × List α)
  | [] => none
  | a :: rest => if a = sep then some ([],rest) else (cutAt sep rest).map (fun p => (a :: p.1,p.2))

theorem cutAt_append {sep : α} {before : List α} (h : sep ∉ before) (after : List α) :
    cutAt sep (before ++ sep :: after) = some (before,after) := by
  induction before with
  | nil => simp [cutAt]
  | cons a before ih =>
    simp only [List.mem_cons,not_or] at h
    have ha : a ≠ sep := Ne.symm h.1
    simp [cutAt,ha,ih h.2]

end Wire
