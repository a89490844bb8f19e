import Mathlib.Data.List.Forall2
import Mathlib.Tactic.Common

/-! # Finite streams that stop after their first error

A stream is the list of the items it yields before it ends. Delegating to an inner
stream yields its items one by one and stops for good at an error. A stream that is
polled answers that it is pending or gives its next item.
-/
namespace Proc

inductive Poll (α : Type*) where
  | pending
  | ready (value : α)
  deriving DecidableEq, Repr

theorem ok_of_bind_ok {ε α β : Type} {x : Except ε α} {f : α → Except ε β} {b : β} (h : x >>= f = .ok b) :
    ∃ a, x = .ok a ∧ f a = .ok b := by
  cases x with
  | error e => cases h
  | ok a => exact ⟨a,rfl,h⟩

namespace TryStream
variable {ε α β : Type*}

/-- Yield every item of the inner stream, then continue with the outer one. -/
def yieldFrom : List (Except ε α) → List (Except ε α) → List (Except ε α)
  | [], rest => rest
  | .ok a :: inner, rest => .ok a :: yieldFrom inner rest
  | .error e :: _, _ => [.error e]

@[simp] theorem yieldFrom_map_ok (xs : List α) (rest : List (Except ε α)) :
    yieldFrom (xs.map .ok) rest = xs.map .ok ++ rest := by
  induction xs with
  | nil => rfl
  | cons x xs ih => simp only [List.map_cons,yieldFrom,ih,List.cons_append]

@[simp] theorem yieldFrom_error (e : ε) (inner rest : List (Except ε α)) :
    yieldFrom (.error e :: inner) rest = [.error e] := rfl

/-- A relation that no error satisfies. -/
def RefusesErrors (R : β → Except ε α → Prop) : Prop := ∀ b e, ¬ R b (.error e)

theorem exists_values {R : β → Except ε α → Prop} (hR : RefusesErrors R) {bs : List β}
    {items : List (Except ε α)} (h : List.Forall₂ R bs items) : ∃ xs : List α, items = xs.map .ok := by
  induction h with
  | nil => exact ⟨[],rfl⟩
  | @cons b item bs items hb _ ih =>
    obtain ⟨xs,hxs⟩ := ih
    cases item with
    | error e => exact absurd hb (hR b e)
    | ok x => exact ⟨x :: xs,by simp [hxs]⟩

end TryStream

end Proc
