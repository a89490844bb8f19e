import Mathlib.Tactic.Common

/-! # Tasks that ask the world around them

A task asks one question after another; what it does next depends on the answers. A
transcript lists the questions with their answers, so that what holds for every transcript
holds whatever the world answers. An attempt is a task that may end with an error, and
whatever follows it in a sequence is left out then.
-/
namespace Proc

inductive Task (Q : Type) (A : Q → Type) (R : Type) where
  | done (result : R)
  | ask (question : Q) (next : A question → Task Q A R)

abbrev Transcript (Q : Type) (A : Q → Type) := List (Σ q, A q)

namespace Task
variable {Q : Type} {A : Q → Type} {R S : Type}

def andThen : Task Q A R → (R → Task Q A S) → Task Q A S
  | .done r, f => f r
  | .ask q next, f => .ask q (fun a => (next a).andThen f)

/-- The task may ask and be answered so, and come to this result. -/
inductive Yields : Task Q A R → Transcript Q A → R → Prop
  | done (r : R) : Yields (.done r) [] r
  | ask {q : Q} {next : A q → Task Q A R} {a : A q} {transcript : Transcript Q A} {r : R}
      (h : Yields (next a) transcript r) : Yields (.ask q next) (⟨q,a⟩ :: transcript) r

theorem yields_done {r s : R} {transcript : Transcript Q A} :
    (done r : Task Q A R).Yields transcript s ↔ transcript = [] ∧ s = r := by
  constructor
  · rintro ⟨⟩
    exact ⟨rfl,rfl⟩
  · rintro ⟨rfl,rfl⟩
    exact .done s

theorem Yields.andThen {x : Task Q A R} {f : R → Task Q A S} {first rest : Transcript Q A} {r : R} {s : S}
    (hx : x.Yields first r) (hf : (f r).Yields rest s) : (x.andThen f).Yields (first ++ rest) s := by
  induction hx with
  | done r => exact hf
  | ask _ ih => exact .ask (ih hf)

theorem yields_andThen {x : Task Q A R} {f : R → Task Q A S} {transcript : Transcript Q A} {s : S}
    (h : (x.andThen f).Yields transcript s) :
    ∃ first r rest, transcript = first ++ rest ∧ x.Yields first r ∧ (f r).Yields rest s := by
  induction x generalizing transcript with
  | done r => exact ⟨[],r,transcript,rfl,.done r,h⟩
  | ask q next ih =>
    cases h with
    | @ask _ _ a further _ h =>
      obtain ⟨first,r,rest,rfl,hx,hf⟩ := ih a h
      exact ⟨⟨q,a⟩ :: first,r,rest,rfl,.ask hx,hf⟩

end Task

def Attempt (Q : Type) (A : Q → Type) (ε R : Type) : Type := Task Q A (Except ε R)

namespace Attempt
variable {Q : Type} {A : Q → Type} {ε R S : Type}

def Yields (x : Attempt Q A ε R) (transcript : Transcript Q A) (r : Except ε R) : Prop := Task.Yields x transcript r

def fail (e : ε) : Attempt Q A ε R := Task.done (.error e)

def ofExcept (r : Except ε R) : Attempt Q A ε R := Task.done r

def ask (q : Q) : Attempt Q A ε (A q) := Task.ask q (fun a => .done (.ok a))

def observe (x : Attempt Q A ε R) (f : Except ε R → Attempt Q A ε S) : Attempt Q A ε S := Task.andThen x f

instance : Monad (Attempt Q A ε) where
  pure r := Task.done (.ok r)
  bind x f := x.observe fun
    | .ok r => f r
    | .error e => fail e

variable {x : Attempt Q A ε R} {f : R → Attempt Q A ε S} {transcript : Transcript Q A}

@[simp] theorem yields_pure {r : R} {s : Except ε R} :
    (pure r : Attempt Q A ε R).Yields transcript s ↔ transcript = [] ∧ s = .ok r := Task.yields_done

@[simp] theorem yields_fail {e : ε} {s : Except ε R} :
    (fail e : Attempt Q A ε R).Yields transcript s ↔ transcript = [] ∧ s = .error e := Task.yields_done

@[simp] theorem yields_ofExcept {r s : Except ε R} :
    (ofExcept r : Attempt Q A ε R).Yields transcript s ↔ transcript = [] ∧ s = r := Task.yields_done

@[simp] theorem yields_ask {q : Q} {s : Except ε (A q)} :
    (ask q : Attempt Q A ε (A q)).Yields transcript s ↔ ∃ a, transcript = [⟨q,a⟩] ∧ s = .ok a := by
  constructor
  · intro h
    cases h with
    | @ask _ _ a further _ h =>
      obtain ⟨rfl,rfl⟩ := Task.yields_done.mp h
      exact ⟨a,rfl,rfl⟩
  · rintro ⟨a,rfl,rfl⟩
    exact .ask (.done _)

theorem pure_bind (r : R) (f : R → Attempt Q A ε S) : (pure r : Attempt Q A ε R) >>= f = f r := rfl

theorem yields_observe {f : Except ε R → Attempt Q A ε S} {s : Except ε S} :
    (x.observe f).Yields transcript s ↔
      ∃ first r rest, transcript = first ++ rest ∧ x.Yields first r ∧ (f r).Yields rest s := by
  constructor
  · exact Task.yields_andThen
  · rintro ⟨first,r,rest,rfl,hx,hf⟩
    exact Task.Yields.andThen hx hf

theorem yields_bind {s : Except ε S} :
    (x >>= f).Yields transcript s ↔ (∃ e, s = .error e ∧ x.Yields transcript (.error e)) ∨
      ∃ first r rest, transcript = first ++ rest ∧ x.Yields first (.ok r) ∧ (f r).Yields rest s := by
  constructor
  · intro h
    obtain ⟨first,r,rest,rfl,hx,hf⟩ := yields_observe.mp h
    cases r with
    | error e =>
      obtain ⟨rfl,rfl⟩ := yields_fail.mp hf
      rw [List.append_nil]
      exact Or.inl ⟨e,rfl,hx⟩
    | ok r => exact Or.inr ⟨first,r,rest,rfl,hx,hf⟩
  · rintro (⟨e,rfl,hx⟩ | ⟨first,r,rest,rfl,hx,hf⟩)
    · exact yields_observe.mpr ⟨transcript,.error e,[],(List.append_nil _).symm,hx,yields_fail.mpr ⟨rfl,rfl⟩⟩
    · exact yields_observe.mpr ⟨first,.ok r,rest,rfl,hx,hf⟩

section Asks
variable {P : Q → Prop}

/-- The attempt asks such questions only. -/
def Asks (P : Q → Prop) (x : Attempt Q A ε R) : Prop :=
  ∀ transcript r, x.Yields transcript r → ∀ entry ∈ transcript, P entry.1

theorem asks_pure (r : R) : (pure r : Attempt Q A ε R).Asks P := by
  intro transcript s h
  obtain ⟨rfl,-⟩ := yields_pure.mp h
  exact nofun

theorem asks_fail (e : ε) : (fail e : Attempt Q A ε R).Asks P := by
  intro transcript s h
  obtain ⟨rfl,-⟩ := yields_fail.mp h
  exact nofun

theorem asks_ofExcept (r : Except ε R) : (ofExcept r : Attempt Q A ε R).Asks P := by
  intro transcript s h
  obtain ⟨rfl,-⟩ := yields_ofExcept.mp h
  exact nofun

theorem asks_ask {q : Q} (h : P q) : (ask q : Attempt Q A ε (A q)).Asks P := by
  intro transcript s hask entry hm
  obtain ⟨a,rfl,-⟩ := yields_ask.mp hask
  rw [List.mem_singleton.mp hm]
  exact h

theorem Asks.bind (hx : x.Asks P) (hf : ∀ r, (f r).Asks P) : (x >>= f).Asks P := by
  intro transcript s h entry hm
  rcases yields_bind.mp h with ⟨e,-,he⟩ | ⟨first,r,rest,rfl,hfirst,hrest⟩
  · exact hx _ _ he entry hm
  · rcases List.mem_append.mp hm with hm | hm
    · exact hx _ _ hfirst entry hm
    · exact hf r _ _ hrest entry hm

end Asks

end Attempt

end Proc
