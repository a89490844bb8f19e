import Mathlib.Data.List.Nodup
import Mathlib.Data.List.Range
import SocketIox.EngineIo.SidUniqueness
import SocketIox.SocketIo.SidGenerator

/-! # Session ids are unique and invertible

Both generators number their calls. The number is the last part of the text that is
written in base-64, so that calls with different numbers give different session ids,
whatever the engine sessions are and in whatever order the calls come.
-/
namespace SocketIox.SocketIo
open Proc Wire
variable {base64 : EngineIo.Base64Crate}

theorem SidGenerator.seq_inj (hb : base64.Standard) {esid esid' : String} {m n : UInt64}
    (h : SidGenerator.generate base64 esid m = SidGenerator.generate base64 esid' n) : m = n := by
  have htext := encodeUtf8_inj.mp (EngineIo.encodeText_inj hb h)
  have hsplit := append_cons_inj_of_not_mem (not_mem_digits (by decide) _) (not_mem_digits (by decide) _) htext
  exact EngineIo.eq_of_digits_toNat hsplit.2

/-- A call of the engine's generator, or of the other one for a session of the engine. -/
inductive SidCall where
  | engine
  | session (engineSid : String)
  deriving DecidableEq, Repr

/-- The counters of the two generators and what they have given out, the oldest first. -/
structure SidGenerators where
  engineSeq : UInt64
  seq : UInt64
  engineSids : List String
  sids : List String
  deriving DecidableEq, Repr

namespace SidGenerators

def initial : SidGenerators := ⟨0,0,[],[]⟩

def call (base64 : EngineIo.Base64Crate) (g : SidGenerators) : SidCall → SidGenerators
  | .engine => { g with
      engineSeq := g.engineSeq+1
      engineSids := g.engineSids ++ [EngineIo.SidGenerator.generate base64 g.engineSeq] }
  | .session engineSid => { g with
      seq := g.seq+1
      sids := g.sids ++ [SidGenerator.generate base64 engineSid g.seq] }

def calls (base64 : EngineIo.Base64Crate) (history : List SidCall) : SidGenerators :=
  history.foldl (call base64) initial

def sessions (history : List SidCall) : List String :=
  history.filterMap fun
    | .session engineSid => some engineSid
    | .engine => none

def engineCalls (history : List SidCall) : ℕ := history.count .engine

structure Numbered (base64 : EngineIo.Base64Crate) (history : List SidCall) (g : SidGenerators) : Prop where
  engineSeq : g.engineSeq = UInt64.ofNat (engineCalls history)
  engineSids : g.engineSids =
    (List.range (engineCalls history)).map (fun i => EngineIo.SidGenerator.generate base64 (UInt64.ofNat i))
  seq : g.seq = UInt64.ofNat (sessions history).length
  sids : g.sids = (sessions history).zipIdx.map (fun p => SidGenerator.generate base64 p.1 (UInt64.ofNat p.2))

theorem Numbered.call {history : List SidCall} {g : SidGenerators} (hg : g.Numbered base64 history) (c : SidCall) :
    (g.call base64 c).Numbered base64 (history ++ [c]) := by
  cases c with
  | engine =>
    have hcount : engineCalls (history ++ [.engine]) = engineCalls history+1 := by simp [engineCalls]
    have hsessions : sessions (history ++ [.engine]) = sessions history := by simp [sessions]
    constructor
    · simp only [SidGenerators.call,hg.engineSeq,hcount,UInt64.ofNat_add]
      rfl
    · simp only [SidGenerators.call,hg.engineSeq,hg.engineSids,hcount,List.range_succ,List.map_append,
        List.map_singleton]
    · rw [hsessions]
      exact hg.seq
    · rw [hsessions]
      exact hg.sids
  | session engineSid =>
    have hcount : engineCalls (history ++ [.session engineSid]) = engineCalls history := by
      simp [engineCalls]
    have hsessions : sessions (history ++ [.session engineSid]) = sessions history ++ [engineSid] := by simp [sessions]
    constructor
    · rw [hcount]
      exact hg.engineSeq
    · rw [hcount]
      exact hg.engineSids
    · simp only [SidGenerators.call,hg.seq,hsessions,List.length_append,List.length_singleton,UInt64.ofNat_add]
      rfl
    · simp only [SidGenerators.call,hg.seq,hg.sids,hsessions,List.zipIdx_append,List.map_append,List.zipIdx_singleton,
        List.map_singleton,Nat.zero_add]

theorem numbered_calls (history : List SidCall) : (calls base64 history).Numbered base64 history := by
  have hinitial : initial.Numbered base64 [] := ⟨rfl,rfl,rfl,rfl⟩
  exact foldl_history (Numbered base64) (fun _ _ c hg => hg.call c) hinitial history

theorem nodup_engineSids (hb : base64.Standard) {history : List SidCall} (hcount : engineCalls history < 2^64) :
    (calls base64 history).engineSids.Nodup := by
  rw [(numbered_calls history).engineSids]
  refine List.nodup_range.map_on ?_
  intro i hi j hj h
  have hi := Nat.lt_trans (List.mem_range.mp hi) hcount
  have hj := Nat.lt_trans (List.mem_range.mp hj) hcount
  exact EngineIo.eq_of_ofNat hi hj (EngineIo.SidGenerator.generate_inj hb h)

theorem nodup_sids (hb : base64.Standard) {history : List SidCall} (hcount : (sessions history).length < 2^64) :
    (calls base64 history).sids.Nodup := by
  rw [(numbered_calls history).sids]
  have hnodup : (sessions history).zipIdx.Nodup := by
    apply List.Nodup.of_map Prod.snd
    rw [List.zipIdx_map_snd]
    exact List.nodup_range'
  refine hnodup.map_on ?_
  rintro ⟨esid,i⟩ hi ⟨esid',j⟩ hj h
  have hi := List.mem_zipIdx_iff_getElem?.mp hi
  have hj := List.mem_zipIdx_iff_getElem?.mp hj
  have hsame : i = j := by
    refine EngineIo.eq_of_ofNat ?_ ?_ (SidGenerator.seq_inj hb h)
    · exact Nat.lt_trans (List.getElem?_eq_some_iff.mp hi).1 hcount
    · exact Nat.lt_trans (List.getElem?_eq_some_iff.mp hj).1 hcount
  subst hsame
  cases hi.symm.trans hj
  rfl

end SidGenerators

open SidGenerators

/-- A session id is decoded to the engine's session it was generated for. With fewer than `2^64` calls of
each generator all session ids are pairwise distinct, and a new connection replaces no other one among the
handles and the sockets of the engine. -/
theorem sids_unique (base64 : EngineIo.Base64Crate) (hb : base64.Standard) :
    (∀ esid, EngineIo.Issued base64 esid →
      ∀ seq, SidGenerator.decode base64 (SidGenerator.generate base64 esid seq) = some esid) ∧
    (∀ history, engineCalls history < 2^64 → (sessions history).length < 2^64 →
      (calls base64 history).engineSids.Nodup ∧ (calls base64 history).sids.Nodup) ∧
    ∀ acts, EngineIo.Server.opens acts < 2^64 →
      Along (EngineIo.Server.step base64) EngineIo.Server.KeepsOthers EngineIo.Server.fresh acts := by
  refine ⟨?_,?_,?_⟩
  · intro esid hesid seq
    exact decode_generate hb (hesid.hyphen_not_mem hb) seq
  · intro history hengine hsessions
    exact ⟨nodup_engineSids hb hengine,nodup_sids hb hsessions⟩
  · intro acts hopens
    refine EngineIo.Server.numbered_fresh.along_keepsOthers hb ?_
    rw [show EngineIo.Server.fresh.opened = 0 from rfl,Nat.zero_add]
    exact Nat.le_of_lt hopens

theorem sids_unique_twice :
    SidGenerator.decode EngineIo.rfc4648 "TVE9PS0x" = some "MQ==" ∧
    (calls EngineIo.rfc4648 [.engine,.session "MA==",.engine,.session "MQ=="]).sids = ["TUE9PS0w","TVE9PS0x"] ∧
    (calls EngineIo.rfc4648 [.engine,.session "MA==",.engine,.session "MQ=="]).sids.Nodup ∧
    Along (EngineIo.Server.step EngineIo.rfc4648) EngineIo.Server.KeepsOthers EngineIo.Server.fresh
      [.openBegin true,.openHandle 0,.openBegin true,.openHandle 1,.openPublish 0,.openStore 0] := by
  obtain ⟨hdecode,hnodup,hkeeps⟩ := sids_unique EngineIo.rfc4648 EngineIo.rfc4648_standard
  have hsecond : SidGenerator.generate EngineIo.rfc4648 "MQ==" 1 = "TVE9PS0x" := by decide +kernel
  refine ⟨?_,by decide +kernel,?_,?_⟩
  · rw [← hsecond]
    exact hdecode "MQ==" ⟨1,by decide +kernel⟩ 1
  · exact (hnodup _ (by decide) (by decide)).2
  · exact hkeeps _ (by decide)

end SocketIox.SocketIo
