import SocketIox.EngineIo.SidGenerator

/-! # Session ids of the socket.io server

A session id holds the engine's session id and a number, separated by a hyphen and
written in base-64. The engine's id is found again by decoding, because base-64 text has
no hyphen in it.
-/
namespace SocketIox.SocketIo
open Wire
variable {base64 : EngineIo.Base64Crate}

def SidGenerator.generate (base64 : EngineIo.Base64Crate) (engineSid : String) (seq : UInt64) : String :=
  base64.encodeText (encodeUtf8 (engineSid.toList ++ '-' :: digits seq.toNat))

def SidGenerator.decode (base64 : EngineIo.Base64Crate) (sid : String) : Option String :=
  match base64.decode (encodeUtf8 sid.toList) with
  | .error _ => none
  | .ok sidVec => (decodeUtf8 sidVec).map (fun esidSid => String.ofList ((esidSid.splitOn '-').headD []))

def GeneratedFor (base64 : EngineIo.Base64Crate) (esid sid : String) : Prop :=
  ∃ seq, SidGenerator.generate base64 esid seq = sid

def Issued (base64 : EngineIo.Base64Crate) (sid : String) : Prop :=
  ∃ esid, EngineIo.Issued base64 esid ∧ GeneratedFor base64 esid sid

section Standard
variable (hb : base64.Standard)
include hb

theorem decode_generate {esid : String} (h : '-' ∉ esid.toList) (seq : UInt64) :
    SidGenerator.decode base64 (SidGenerator.generate base64 esid seq) = some esid := by
  unfold SidGenerator.decode SidGenerator.generate
  rw [EngineIo.encodeUtf8_encodeText hb,hb.decode_encode]
  simp [List.splitOn_append_cons_self_of_not_mem h]

theorem GeneratedFor.decode {esid sid : String} (he : EngineIo.Issued base64 esid)
    (h : GeneratedFor base64 esid sid) : SidGenerator.decode base64 sid = some esid := by
  obtain ⟨seq,rfl⟩ := h
  exact decode_generate hb (he.hyphen_not_mem hb) seq

theorem GeneratedFor.owner_unique {esid esid' sid : String} (h : GeneratedFor base64 esid sid)
    (h' : GeneratedFor base64 esid' sid) : esid' = esid := by
  obtain ⟨seq,rfl⟩ := h
  obtain ⟨seq',he⟩ := h'
  have htext := congrArg decodeUtf8 (EngineIo.encodeText_inj hb he)
  rw [decodeUtf8_encodeUtf8,decodeUtf8_encodeUtf8,Option.some.injEq] at htext
  have hlist := (append_cons_inj_of_not_mem (not_mem_digits (by decide) _) (not_mem_digits (by decide) _) htext).1
  rw [← String.ofList_toList (s := esid'),hlist,String.ofList_toList]

theorem Issued.decode_eq_some_iff {sid : String} (h : Issued base64 sid) {esid : String} :
    SidGenerator.decode base64 sid = some esid ↔ GeneratedFor base64 esid sid := by
  obtain ⟨owner,ho,hg⟩ := h
  have hd := hg.decode hb ho
  constructor
  · intro he
    rw [hd] at he
    cases he
    exact hg
  · intro hg'
    rw [hg.owner_unique hb hg']
    exact hd

end Standard

/-- The first session of the engine is `MA==`, and `TUE9PS0w` is `MA==-0` in base-64. -/
theorem issued_first : Issued EngineIo.rfc4648 "TUE9PS0w" :=
  ⟨"MA==",⟨0,by decide +kernel⟩,⟨0,by decide +kernel⟩⟩

theorem issued_second : Issued EngineIo.rfc4648 "TVE9PS0x" :=
  ⟨"MQ==",⟨1,by decide +kernel⟩,⟨1,by decide +kernel⟩⟩

end SocketIox.SocketIo
