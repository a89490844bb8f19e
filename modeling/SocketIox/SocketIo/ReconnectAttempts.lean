import Mathlib.Algebra.Group.Nat.Defs
import Mathlib.Logic.Function.Iterate
import SocketIox.SocketIo.Reconnect

/-! # How often a client tries to reconnect

`reconnect` compares the number of attempts it has made with the maximum before it counts
the next one, and leaves its loop only when the number is greater. Where every attempt
fails it makes one more than the maximum, also where the maximum is zero.
-/
namespace SocketIox.SocketIo
open Proc

/-- The loop of `reconnect` between two passes. `calls` are the results of `do_reconnect`, the oldest
first; `left` says that the loop has been left. -/
structure ReconnectLoop where
  reconnectAttempts : UInt64
  calls : List Bool
  left : Bool
  deriving DecidableEq, Repr

namespace ReconnectLoop
variable (options : ReconnectOptions) (outcomes : ℕ → Bool)

def entered : ReconnectLoop := ⟨0,[],false⟩

/-- One pass of the loop; `outcomes` says of every call of `do_reconnect` whether it succeeds. -/
def pass (l : ReconnectLoop) : ReconnectLoop :=
  if l.left then l
  else if ClientState.Exhausted options l.reconnectAttempts.toNat then { l with left := true }
  else
    -- the backoff does not bear on the number of attempts
    let ok := outcomes l.calls.length
    ⟨l.reconnectAttempts+1,l.calls ++ [ok],ok⟩

/-- A call of `reconnect` after a number of passes of its loop. -/
def reconnect (passes : ℕ) : ReconnectLoop :=
  if options.reconnect then (pass options outcomes)^[passes] entered else { entered with left := true }

/-- A call of `reconnect` makes at most `max` attempts and none after the first success, and if it
reconnects at all and every attempt fails, it makes `max` of them and returns. -/
structure Bounded (max : ℕ) : Prop where
  length_le : ∀ passes, (reconnect options outcomes passes).calls.length ≤ max
  stops : ∀ passes i, (reconnect options outcomes passes).calls[i]? = some true →
    (reconnect options outcomes passes).left = true ∧ (reconnect options outcomes passes).calls.length = i+1
  all_failed : options.reconnect = true → (∀ i, outcomes i = false) →
    ∃ passes, (reconnect options outcomes passes).left = true ∧ (reconnect options outcomes passes).calls.length = max

section Passes
variable {l : ReconnectLoop}

theorem pass_cases (l : ReconnectLoop) :
    (l.left = true ∧ pass options outcomes l = l) ∨
    (l.left = false ∧ ClientState.Exhausted options l.reconnectAttempts.toNat ∧
      pass options outcomes l = { l with left := true }) ∨
    (l.left = false ∧ ¬ ClientState.Exhausted options l.reconnectAttempts.toNat ∧
      pass options outcomes l =
        ⟨l.reconnectAttempts+1,l.calls ++ [outcomes l.calls.length],outcomes l.calls.length⟩) := by
  unfold pass
  split
  · rename_i hleft
    exact Or.inl ⟨hleft,rfl⟩
  · rename_i hleft
    have hleft : l.left = false := by simpa using hleft
    split
    · rename_i hexhausted
      exact Or.inr (Or.inl ⟨hleft,hexhausted,rfl⟩)
    · rename_i hexhausted
      exact Or.inr (Or.inr ⟨hleft,hexhausted,rfl⟩)

structure Sound (l : ReconnectLoop) : Prop where
  calls_eq : l.calls = (List.range l.calls.length).map outcomes
  last : ∀ i, i < l.calls.length → outcomes i = true → l.left = true ∧ l.calls.length = i+1

variable {options outcomes}

theorem pass_sound (hs : Sound outcomes l) : Sound outcomes (pass options outcomes l) := by
  rcases pass_cases options outcomes l with ⟨-,h⟩ | ⟨hleft,-,h⟩ | ⟨hleft,-,h⟩
  · rw [h]
    exact hs
  · rw [h]
    refine ⟨hs.calls_eq,?_⟩
    intro i hi hok
    exact ⟨rfl,(hs.last i hi hok).2⟩
  · rw [h]
    constructor
    · simp only [List.length_append,List.length_singleton,List.range_succ,List.map_append,List.map_singleton]
      rw [← hs.calls_eq]
    · intro i hi hok
      simp only [List.length_append,List.length_singleton] at hi ⊢
      rcases Nat.lt_succ_iff_lt_or_eq.mp hi with hbefore | rfl
      · have hbroken := (hs.last i hbefore hok).1
        rw [hleft] at hbroken
        cases hbroken
      · exact ⟨hok,rfl⟩

theorem reconnect_sound (passes : ℕ) : Sound outcomes (reconnect options outcomes passes) := by
  unfold reconnect
  split
  · induction passes with
    | zero => exact ⟨rfl,fun i hi => absurd hi (Nat.not_lt_zero i)⟩
    | succ passes ih =>
      rw [Function.iterate_succ_apply']
      exact pass_sound ih
  · exact ⟨rfl,fun i hi => absurd hi (Nat.not_lt_zero i)⟩

theorem Sound.stops (hs : Sound outcomes l) {i : ℕ} (h : l.calls[i]? = some true) :
    l.left = true ∧ l.calls.length = i+1 := by
  have hi : i < l.calls.length := (List.getElem?_eq_some_iff.mp h).1
  rw [hs.calls_eq,List.getElem?_map,List.getElem?_range hi,Option.map_some] at h
  exact hs.last i hi (Option.some_inj.mp h)

variable {max : UInt64} {k : ℕ}

theorem not_exhausted (hk : k ≤ max.toNat) :
    ¬ ClientState.Exhausted ⟨true,some max.toNat⟩ (UInt64.ofNat k).toNat := by
  have hcounter : (UInt64.ofNat k).toNat = k := by
    rw [UInt64.toNat_ofNat',Nat.mod_eq_of_lt (Nat.lt_of_le_of_lt hk max.toNat_lt)]
  rintro ⟨n,hn,hlt⟩
  cases hn
  rw [hcounter] at hlt
  exact absurd hk (Nat.not_le_of_lt hlt)

theorem pass_attempt (hk : k ≤ max.toNat) :
    pass ⟨true,some max.toNat⟩ outcomes ⟨UInt64.ofNat k,(List.range k).map outcomes,false⟩ =
      ⟨UInt64.ofNat (k+1),(List.range (k+1)).map outcomes,outcomes k⟩ := by
  simp only [pass,Bool.false_eq_true,↓reduceIte,if_neg (not_exhausted hk),List.length_map,List.length_range,
    List.range_succ,List.map_append,List.map_singleton,UInt64.ofNat_add]
  rfl

theorem reconnect_attempt (hk : k ≤ max.toNat) (hfail : ∀ i, i < k → outcomes i = false) :
    reconnect ⟨true,some max.toNat⟩ outcomes (k+1) =
      ⟨UInt64.ofNat (k+1),(List.range (k+1)).map outcomes,outcomes k⟩ := by
  induction k with
  | zero => exact pass_attempt hk
  | succ k ih =>
    have hbefore := ih (Nat.le_of_succ_le hk) (fun i hi => hfail i (Nat.lt_succ_of_lt hi))
    simp only [reconnect,↓reduceIte] at hbefore ⊢
    rw [Function.iterate_succ_apply',hbefore,hfail k (Nat.lt_succ_self k)]
    exact pass_attempt hk

end Passes

section Machine
variable {outcomes} {l : ReconnectLoop}

/-- Where the task of the client stands before the next pass of the loop. -/
def stage (l : ReconnectLoop) : PollStage :=
  if l.left then if true ∈ l.calls then .installing else .checking
  else .attempting l.reconnectAttempts.toNat

def attempted (acts : List ClientAct) : List Bool :=
  acts.filterMap fun
    | .connect ok => some ok
    | _ => none

theorem stage_left (hs : Sound outcomes l) (hleft : l.left = false) : stage { l with left := true } = .checking := by
  have hnone : true ∉ l.calls := by
    intro hmem
    obtain ⟨i,hi⟩ := List.getElem?_of_mem hmem
    cases hleft.symm.trans (hs.stops hi).1
  simp only [stage,↓reduceIte,if_neg hnone]

/-- A pass of the loop is a run of the client, with the same attempts. -/
theorem pass_run (options : ReconnectOptions) (hs : Sound outcomes l)
    (hcounter : l.reconnectAttempts.toNat+1 < 2^64) (c : ClientState) :
    ∃ acts, run (ClientState.step options) { c with task := l.stage } acts =
        some { c with task := (pass options outcomes l).stage } ∧
      (pass options outcomes l).calls = l.calls ++ attempted acts := by
  have hadd : (l.reconnectAttempts+1).toNat = l.reconnectAttempts.toNat+1 := by
    rw [UInt64.toNat_add]
    exact Nat.mod_eq_of_lt hcounter
  rcases pass_cases options outcomes l with ⟨-,h⟩ | ⟨hleft,hexhausted,h⟩ | ⟨hleft,hrest,h⟩
  · rw [h]
    exact ⟨[],rfl,(List.append_nil _).symm⟩
  · rw [h,stage_left hs hleft]
    refine ⟨[.attempt true],?_,(List.append_nil _).symm⟩
    simp only [run,ClientState.step,stage,hleft,Bool.false_eq_true,↓reduceIte,if_pos hexhausted,Option.bind_some]
  · rw [h]
    refine ⟨[.attempt true,.wake,.connect (outcomes l.calls.length)],?_,rfl⟩
    simp only [run,ClientState.step,stage,hleft,Bool.false_eq_true,↓reduceIte,if_neg hrest,Option.bind_some,hadd]
    cases outcomes l.calls.length with
    | false => rfl
    | true => rw [if_pos rfl,if_pos rfl,if_pos (List.mem_append_right _ List.mem_cons_self)]

variable (outcomes)

theorem reconnectAttempts_le (passes : ℕ) :
    ((pass options outcomes)^[passes] entered).reconnectAttempts.toNat ≤ passes := by
  induction passes with
  | zero => exact Nat.le_refl 0
  | succ passes ih =>
    rw [Function.iterate_succ_apply']
    rcases pass_cases options outcomes ((pass options outcomes)^[passes] entered) with ⟨-,h⟩ | ⟨-,-,h⟩ | ⟨-,-,h⟩
    · rw [h]
      exact Nat.le_succ_of_le ih
    · rw [h]
      exact Nat.le_succ_of_le ih
    · rw [h,UInt64.toNat_add]
      exact Nat.le_trans (Nat.mod_le _ _) (Nat.succ_le_succ ih)

variable {options}

/-- As far as the counter goes, a call of `reconnect` is a run of the client, with the same attempts. -/
theorem reconnect_run (hreconnect : options.reconnect = true) {passes : ℕ} (hpasses : passes < 2^64)
    (c : ClientState) :
    ∃ acts, run (ClientState.step options) { c with task := .dropping } (.dropped :: acts) =
        some { c with task := (reconnect options outcomes passes).stage } ∧
      (reconnect options outcomes passes).calls = attempted acts := by
  induction passes with
  | zero =>
    refine ⟨[],?_,?_⟩
    · simp [run,ClientState.step,reconnect,hreconnect,stage,entered]
    · simp [reconnect,hreconnect,entered,attempted]
  | succ passes ih =>
    obtain ⟨acts,hrun,hcalls⟩ := ih (Nat.lt_of_succ_lt hpasses)
    have hs : Sound outcomes (reconnect options outcomes passes) := reconnect_sound passes
    simp only [reconnect,hreconnect,↓reduceIte] at hrun hcalls hs ⊢
    have hcounter := Nat.lt_of_le_of_lt (Nat.succ_le_succ (reconnectAttempts_le options outcomes passes)) hpasses
    obtain ⟨more,hmore,hmoreCalls⟩ := pass_run options hs hcounter c
    refine ⟨acts ++ more,?_,?_⟩
    · rw [Function.iterate_succ_apply',← List.cons_append,run_append hrun]
      exact hmore
    · rw [Function.iterate_succ_apply',hmoreCalls,hcalls]
      exact (List.filterMap_append).symm

end Machine
end ReconnectLoop

open ReconnectLoop

/-- With a maximum, the attempts are bounded by it exactly if one of the first `max` of them succeeds or
the client does not reconnect at all. -/
theorem reconnect_bounded_iff (reconnects : Bool) (max : UInt64) (outcomes : ℕ → Bool) :
    Bounded ⟨reconnects,some max.toNat⟩ outcomes max.toNat ↔
      reconnects = false ∨ ∃ i, i < max.toNat ∧ outcomes i = true := by
  constructor
  · intro hbounded
    cases reconnects with
    | false => exact Or.inl rfl
    | true =>
      right
      by_contra hnone
      have hfail : ∀ i, i < max.toNat → outcomes i = false := by
        intro i hi
        by_contra hok
        exact hnone ⟨i,hi,by simpa using hok⟩
      have hlength := hbounded.length_le (max.toNat+1)
      rw [reconnect_attempt (Nat.le_refl _) hfail,List.length_map,List.length_range] at hlength
      exact absurd hlength (Nat.not_succ_le_self _)
  · intro hcondition
    refine ⟨?_,fun passes i => (reconnect_sound passes).stops,?_⟩
    · intro passes
      rcases hcondition with rfl | ⟨i,hi,hok⟩
      · exact Nat.zero_le _
      · by_contra hlt
        have hbefore : i < (reconnect ⟨reconnects,some max.toNat⟩ outcomes passes).calls.length :=
          Nat.lt_trans hi (Nat.lt_of_not_le hlt)
        have hlast := ((reconnect_sound passes).last i hbefore hok).2
        omega
    · intro hreconnects hfail
      rcases hcondition with hoff | ⟨i,-,hok⟩
      · cases hoff.symm.trans hreconnects
      · cases (hfail i).symm.trans hok

/-- With a maximum of zero and a server that never answers there is one attempt. -/
theorem reconnect_not_bounded :
    (reconnect ⟨true,some 0⟩ (fun _ => false) 1).calls = [false] ∧
    ¬ ∀ (max : UInt64) (outcomes : ℕ → Bool), Bounded ⟨true,some max.toNat⟩ outcomes max.toNat := by
  refine ⟨rfl,?_⟩
  intro hall
  have hlength := (hall 0 (fun _ => false)).length_le 1
  exact absurd hlength (by decide)

theorem reconnect_all_failed (max : UInt64) (outcomes : ℕ → Bool) (hmax : max.toNat+1 < 2^64)
    (hfail : ∀ i, i ≤ max.toNat → outcomes i = false) :
    reconnect ⟨true,some max.toNat⟩ outcomes (max.toNat+2) =
      ⟨UInt64.ofNat (max.toNat+1),(List.range (max.toNat+1)).map outcomes,true⟩ := by
  have hlast := reconnect_attempt (Nat.le_refl _) (fun i hi => hfail i (Nat.le_of_lt hi))
  have hexhausted : ClientState.Exhausted ⟨true,some max.toNat⟩ (UInt64.ofNat (max.toNat+1)).toNat := by
    refine ⟨max.toNat,rfl,?_⟩
    rw [UInt64.toNat_ofNat',Nat.mod_eq_of_lt hmax]
    exact Nat.lt_succ_self _
  simp only [reconnect,↓reduceIte] at hlast ⊢
  rw [Function.iterate_succ_apply',hlast,hfail _ (Nat.le_refl _)]
  simp only [ReconnectLoop.pass,Bool.false_eq_true,↓reduceIte,if_pos hexhausted]

end SocketIox.SocketIo
