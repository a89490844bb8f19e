import SocketIox.EngineIo.Packet

/-! # Session ids of the engine

The engine numbers its sessions with a counter that wraps around at `2^64` and gives
out the number in base-64.
-/
namespace SocketIox.EngineIo
open Wire
variable {base64 : Base64Crate}

def Base64Crate.encodeText (base64 : Base64Crate) (bytes : Bytes) : String :=
  String.ofList (asciiText (base64.encode bytes))

theorem encodeUtf8_encodeText (hb : base64.Standard) (bytes : Bytes) :
    encodeUtf8 (base64.encodeText bytes).toList = base64.encode bytes := by
  rw [Base64Crate.encodeText,String.toList_ofList]
  exact encodeUtf8_asciiText (fun b h => (hb.inAlphabet bytes b h).ascii.1)

theorem hyphen_not_mem_encodeText (hb : base64.Standard) (bytes : Bytes) :
    '-' ∉ (base64.encodeText bytes).toList := by
  rw [Base64Crate.encodeText,String.toList_ofList]
  intro h
  obtain ⟨b,hmem,he⟩ := mem_asciiText h
  exact (hb.inAlphabet bytes b hmem).ascii.2 he

theorem encodeText_inj (hb : base64.Standard) {bytes bytes' : Bytes}
    (h : base64.encodeText bytes = base64.encodeText bytes') : bytes = bytes' := by
  have he : base64.encode bytes = base64.encode bytes' := by
    rw [← encodeUtf8_encodeText hb,h,encodeUtf8_encodeText hb]
  have hd := hb.decode_encode bytes
  rw [he,hb.decode_encode] at hd
  exact (Except.ok.inj hd).symm

def SidGenerator.generate (base64 : Base64Crate) (seq : UInt64) : String :=
  base64.encodeText (encodeUtf8 (digits seq.toNat))

/-- A session id that the engine can have given out. -/
def Issued (base64 : Base64Crate) (sid : String) : Prop := ∃ seq, SidGenerator.generate base64 seq = sid

theorem Issued.hyphen_not_mem (hb : base64.Standard) {sid : String} (h : Issued base64 sid) :
    '-' ∉ sid.toList := by
  obtain ⟨seq,rfl⟩ := h
  exact hyphen_not_mem_encodeText hb _

end SocketIox.EngineIo
