import SocketIox.EngineIo.Socket

/-! # Single packets and single segments

A text packet is one ASCII digit and its data, so it is recovered from its own
bytes and never looks like a base-64 segment. A byte string is read as one packet
exactly when it holds no separator.
-/
namespace SocketIox.EngineIo
open Wire Proc.TryStream

/-- What a caller may hand to a socket: text data is UTF-8 without separators and
messages are not empty; binary data is unrestricted. -/
def Packet.Sendable (packet : Packet) : Prop :=
  packet.ptype ≠ .messageBinary →
    (decodeUtf8 packet.data).isSome = true ∧ separator ∉ packet.data ∧
      (packet.ptype = .message → packet.data ≠ [])

/-- What the payload format can carry: like `Packet.Sendable`, for data of any encoding. -/
def Packet.Separable (packet : Packet) : Prop :=
  packet.ptype ≠ .messageBinary →
    separator ∉ packet.data ∧ (packet.ptype = .message → packet.data ≠ [])

theorem Packet.Sendable.separable {packet : Packet} (h : packet.Sendable) : packet.Separable :=
  fun hp => (h hp).2

theorem PacketType.toBytes_text {ptype : PacketType} (h : ptype ≠ .messageBinary) :
    ∃ b c, ptype.toBytes = [b] ∧ encodeUtf8 [c] = [b] ∧ b ≠ 98 ∧ b ≠ separator ∧
      PacketType.tryFrom b = .ok ptype := by
  cases ptype with
  | open_ => exact ⟨48,'0',rfl,rfl,by decide,by decide,rfl⟩
  | close => exact ⟨49,'1',rfl,rfl,by decide,by decide,rfl⟩
  | ping => exact ⟨50,'2',rfl,rfl,by decide,by decide,rfl⟩
  | pong => exact ⟨51,'3',rfl,rfl,by decide,by decide,rfl⟩
  | message => exact ⟨52,'4',rfl,rfl,by decide,by decide,rfl⟩
  | messageBinary => exact absurd rfl h
  | upgrade => exact ⟨53,'5',rfl,rfl,by decide,by decide,rfl⟩
  | noop => exact ⟨54,'6',rfl,rfl,by decide,by decide,rfl⟩

section Codec
variable (base64 : Base64Crate)

theorem Packet.tryFrom_cons {b : UInt8} {ptype : PacketType} {data : Bytes} (hb : b ≠ 98)
    (ht : PacketType.tryFrom b = .ok ptype) (hd : ptype = .message → data ≠ []) :
    Packet.tryFrom base64 (b :: data) = .ok ⟨ptype,data⟩ := by
  have hf : (b == 98) = false := by simpa using hb
  have hn : ¬ (data = [] ∧ ptype = .message) := fun h => hd h.2 h.1
  simp [Packet.tryFrom,hf,ht,hn,bind,Except.bind,pure,Except.pure]

theorem Packet.toBytes_text {packet : Packet} (hp : packet.ptype ≠ .messageBinary) :
    packet.toBytes base64 = packet.ptype.toBytes ++ packet.data := by
  simp [Packet.toBytes,hp]

theorem Packet.toBytes_binary {packet : Packet} (hp : packet.ptype = .messageBinary) :
    packet.toBytes base64 = 98 :: base64.encode packet.data := by
  simp [Packet.toBytes,PacketType.toBytes,hp]

theorem pollingBody_toData (packet : Packet) : pollingBody base64 (packet.toData base64) = packet.toBytes base64 := by
  by_cases hp : packet.ptype = .messageBinary
  · rw [Packet.toBytes_binary base64 hp]
    simp [Packet.toData,pollingBody,hp]
  · unfold Packet.toData
    split
    · contradiction
    · rfl

theorem Packet.tryFrom_toBytes_text {packet : Packet} (hp : packet.ptype ≠ .messageBinary)
    (hs : packet.Separable) : Packet.tryFrom base64 (packet.toBytes base64) = .ok packet := by
  obtain ⟨b,c,hb,-,hne,-,ht⟩ := PacketType.toBytes_text hp
  rw [Packet.toBytes_text base64 hp,hb]
  exact Packet.tryFrom_cons base64 hne ht (hs hp).2

theorem Packet.separator_not_mem_toBytes {packet : Packet} (hp : packet.ptype ≠ .messageBinary)
    (hs : packet.Separable) : separator ∉ packet.toBytes base64 := by
  obtain ⟨b,c,hb,-,-,hsep,-⟩ := PacketType.toBytes_text hp
  rw [Packet.toBytes_text base64 hp,hb]
  simp only [List.singleton_append,List.mem_cons,not_or]
  exact ⟨hsep.symm,(hs hp).1⟩

theorem Packet.decodeUtf8_toBytes {packet : Packet} (hp : packet.ptype ≠ .messageBinary)
    (hs : packet.Sendable) : (decodeUtf8 (packet.toBytes base64)).isSome = true := by
  obtain ⟨b,c,hb,hc,-,-,-⟩ := PacketType.toBytes_text hp
  obtain ⟨text,ht⟩ := Option.isSome_iff_exists.mp (hs hp).1
  rw [Packet.toBytes_text base64 hp,hb,← hc,← encodeUtf8_of_decodeUtf8 ht,← encodeUtf8_append]
  simp

theorem Payload.tryFrom_eq_ok_iff {bytes : Bytes} {packets : Payload} :
    Payload.tryFrom base64 bytes = .ok packets ↔
      List.Forall₂ (fun segment packet => Packet.tryFrom base64 segment = .ok packet)
        (bytes.splitOn separator) packets := by
  rw [Payload.tryFrom_eq_mapM]
  exact mapM_eq_ok_iff

theorem Payload.tryFrom_intercalate_iff {toSegment : Packet → Bytes} {packets : List Packet}
    (hne : packets ≠ []) (hsep : ∀ packet ∈ packets, separator ∉ toSegment packet) :
    Payload.tryFrom base64 ([separator].intercalate (packets.map toSegment)) = .ok packets ↔
      ∀ packet ∈ packets, Packet.tryFrom base64 (toSegment packet) = .ok packet := by
  have hsegments : ∀ segment ∈ packets.map toSegment, separator ∉ segment := by
    intro segment h
    obtain ⟨packet,hp,rfl⟩ := List.mem_map.mp h
    exact hsep packet hp
  rw [Payload.tryFrom_eq_ok_iff,List.splitOn_intercalate separator hsegments (by simpa using hne),
    List.forall₂_map_left_iff,List.forall₂_same]

theorem Payload.tryFrom_single {bytes : Bytes} (h : separator ∉ bytes) {packet : Packet}
    (hp : Packet.tryFrom base64 bytes = .ok packet) : Payload.tryFrom base64 bytes = .ok [packet] := by
  rw [Payload.tryFrom_eq_ok_iff,List.splitOn_eq_singleton h]
  exact .cons hp .nil

theorem Payload.tryFrom_length {bytes : Bytes} {packets : Payload}
    (h : Payload.tryFrom base64 bytes = .ok packets) :
    packets.length = (bytes.splitOn separator).length :=
  ((Payload.tryFrom_eq_ok_iff base64).mp h).length_eq.symm

theorem Payload.tryFrom_ne_nil {bytes : Bytes} {packets : Payload}
    (h : Payload.tryFrom base64 bytes = .ok packets) : packets ≠ [] := by
  intro hn
  have hl := Payload.tryFrom_length base64 h
  rw [hn] at hl
  exact List.splitOn_ne_nil separator bytes (List.length_eq_zero_iff.mp hl.symm)

theorem two_le_splitOn {bytes : Bytes} (h : separator ∈ bytes) : 2 ≤ (bytes.splitOn separator).length := by
  obtain ⟨xs,ys,rfl⟩ := List.append_of_mem h
  have hx := List.length_pos_of_ne_nil (List.splitOn_ne_nil separator xs)
  have hy := List.length_pos_of_ne_nil (List.splitOn_ne_nil separator ys)
  rw [List.splitOn_append_cons_self,List.length_append]
  omega

theorem length_le_stream {chunks : List Bytes} {packets : List Packet}
    (h : stream base64 (chunks.map .ok) = packets.map .ok) : chunks.length ≤ packets.length := by
  induction chunks generalizing packets with
  | nil => simp
  | cons chunk rest ih =>
    simp only [List.map_cons,stream,parsePayload] at h
    cases hc : Payload.tryFrom base64 chunk with
    | error e =>
      simp only [hc,yieldFrom_error] at h
      cases packets <;> simp at h
    | ok first =>
      simp only [hc,yieldFrom_map_ok] at h
      obtain ⟨xs,ys,rfl,hx,hy⟩ := List.map_eq_append_iff.mp h.symm
      have hl : first.length = xs.length := by simpa using congrArg List.length hx.symm
      have hpos := List.length_pos_of_ne_nil (Payload.tryFrom_ne_nil base64 hc)
      have hr := ih hy.symm
      simp only [List.length_cons,List.length_append]
      omega

end Codec

section Standard
variable {base64 : Base64Crate} (hb : base64.Standard)
include hb

theorem separator_not_mem_encode (bytes : Bytes) : separator ∉ base64.encode bytes := by
  intro h
  have ha := hb.inAlphabet bytes separator h
  revert ha
  unfold Base64.InAlphabet
  decide

theorem Packet.tryFrom_toBytes {packet : Packet} (hs : packet.Separable) :
    Packet.tryFrom base64 (packet.toBytes base64) = .ok packet := by
  by_cases hp : packet.ptype = .messageBinary
  · obtain ⟨ptype,data⟩ := packet
    subst hp
    simp [Packet.tryFrom,Packet.toBytes,PacketType.toBytes,hb.decode_encode,bind,Except.bind,pure,Except.pure]
  · exact Packet.tryFrom_toBytes_text base64 hp hs

theorem Packet.separator_not_mem {packet : Packet} (hs : packet.Separable) :
    separator ∉ packet.toBytes base64 := by
  by_cases hp : packet.ptype = .messageBinary
  · rw [Packet.toBytes_binary base64 hp]
    exact List.not_mem_cons_of_ne_of_not_mem (by decide) (separator_not_mem_encode hb packet.data)
  · exact Packet.separator_not_mem_toBytes base64 hp hs

end Standard

end SocketIox.EngineIo
