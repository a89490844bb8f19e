import SocketIox.SocketIo.Packet

/-! # The packet codec round trip

Each part of the text ends where the next one can be told apart by its first
character: the count at its dash, the namespace at its comma, the id at the first
character that is no digit.
-/
namespace SocketIox.SocketIo
open Wire

theorem readUntil_append {stop : Char} {xs : List Char} (h : stop ∉ xs) (rest charBuf : List Char) :
    readUntil stop (xs ++ stop :: rest) charBuf = .ok (charBuf ++ xs,rest) := by
  induction xs generalizing charBuf with
  | nil => simp [readUntil]
  | cons c xs ih =>
    simp only [List.mem_cons,not_or] at h
    have hc : c ≠ stop := fun he => h.1 he.symm
    simp only [List.cons_append,readUntil,hc,↓reduceIte,ih h.2,List.append_assoc,List.nil_append]

theorem readId_append {xs : List Char} (h : ∀ c ∈ xs, c.isDigit = true) {c : Char} (hc : c.isDigit = false)
    (rest charBuf : List Char) : readId (xs ++ c :: rest) charBuf = some (charBuf ++ xs,c :: rest) := by
  induction xs generalizing charBuf with
  | nil => simp [readId,hc]
  | cons d xs ih =>
    have hd := h d List.mem_cons_self
    have hr := ih (fun e he => h e (List.mem_cons_of_mem _ he))
    simp only [List.cons_append,readId,hd,↓reduceIte,hr,List.append_assoc,List.nil_append]

/-- Namespaces that the text format can carry. -/
def ValidNsp (nsp : String) : Prop := nsp.toList.head? = some '/' ∧ ',' ∉ nsp.toList

/-- Id and data that the text format can carry: neither, or data whose text does
not start with a digit. -/
def Packet.Encodable (json : SerdeJson) (packet : Packet) : Prop :=
  packet.id = none ∧ packet.data = none ∨
    ∃ v, packet.data = some v ∧ ¬ v.IsNonnegative ∧ json.Faithful v

theorem PacketType.tryFrom_digit (ptype : PacketType) :
    ∃ c, digits ptype.toU8.toNat = [c] ∧ PacketType.tryFrom c = .ok ptype := by
  cases ptype with
  | connect => exact ⟨'0',rfl,rfl⟩
  | disconnect => exact ⟨'1',rfl,rfl⟩
  | event => exact ⟨'2',rfl,rfl⟩
  | ack => exact ⟨'3',rfl,rfl⟩
  | connectError => exact ⟨'4',rfl,rfl⟩
  | binaryEvent => exact ⟨'5',rfl,rfl⟩
  | binaryAck => exact ⟨'6',rfl,rfl⟩

theorem readCount_countText (start packet : Packet) (ht : start.ptype = packet.ptype)
    (hs : start.attachmentCount = 0) (hc : packet.ptype.isBinary = false → packet.attachmentCount = 0)
    (rest : List Char) : start.readCount (packet.countText ++ rest) =
      .ok ({ start with attachmentCount := packet.attachmentCount },rest) := by
  unfold Packet.readCount Packet.countText
  by_cases hb : packet.ptype.isBinary = true
  · have hu := readUntil_append (not_mem_digits (by decide : '-'.isDigit = false) packet.attachmentCount.toNat) rest []
    have hp := parseUnsigned_digits (2^8) packet.attachmentCount.toNat_lt
    simp only [ht,hb,↓reduceIte,List.append_assoc,List.singleton_append,hu,bind,Except.bind,List.nil_append,
      hp,UInt8.ofNat_toNat,pure,Except.pure]
  · have hf : packet.ptype.isBinary = false := by simpa using hb
    have hz : { start with attachmentCount := packet.attachmentCount } = start := by
      rw [hc hf,← hs]
    rw [hz]
    simp only [ht,hf,Bool.false_eq_true,↓reduceIte,List.nil_append,bind,Except.bind,pure,Except.pure,
      parseUnsigned_nil]

theorem readNsp_nspText (start packet : Packet) (hs : start.nsp = "/") (hn : ValidNsp packet.nsp)
    {rest : List Char} (hr : rest.head? ≠ some '/') :
    start.readNsp (packet.nspText ++ rest) = .ok ({ start with nsp := packet.nsp },rest) := by
  unfold Packet.readNsp Packet.nspText
  by_cases hd : packet.nsp = "/"
  · have hz : { start with nsp := packet.nsp } = start := by rw [hd,← hs]
    simp only [hd,ne_eq,not_true_eq_false,↓reduceIte,List.nil_append,hr,bind,Except.bind,pure,Except.pure]
    rw [← hd,hz]
  · obtain ⟨hhead,hcomma⟩ := hn
    obtain ⟨tail,ht⟩ := List.head?_eq_some_iff.mp hhead
    have htail : ',' ∉ tail := fun h => hcomma (ht ▸ List.mem_cons_of_mem _ h)
    have hu := readUntil_append htail rest ['/']
    have ho : String.ofList ('/' :: tail) = packet.nsp := by rw [← ht,String.ofList_toList]
    simp only [hd,ne_eq,not_false_eq_true,↓reduceIte,ht,List.cons_append,List.append_assoc,
      List.head?_cons,List.tail_cons,hu,bind,Except.bind,List.nil_append,
      List.cons_ne_nil,ho,pure,Except.pure]

theorem idText_isDigit (packet : Packet) : ∀ c ∈ packet.idText, c.isDigit = true := by
  intro c hc
  unfold Packet.idText at hc
  cases hi : packet.id with
  | none => simp [hi] at hc
  | some id =>
    simp only [hi] at hc
    exact digits_isDigit hc

theorem parse_idText (packet : Packet) :
    (parseUnsigned (2^64) packet.idText).map UInt64.ofNat = packet.id := by
  unfold Packet.idText
  cases hi : packet.id with
  | none => simp
  | some id =>
    have hp := parseUnsigned_digits (2^64) id.toNat_lt
    simp [hp]

theorem readIdAndData_text {json : SerdeJson} (start packet : Packet) (hi : start.id = none)
    (hd : start.data = none) (he : packet.Encodable json) :
    start.readIdAndData json (packet.idText ++ packet.dataText json) =
      .ok { start with id := packet.id, data := packet.data.bind Value.nonEmpty } := by
  rcases he with ⟨hid,hdata⟩ | ⟨v,hdata,hnonneg,hfaithful⟩
  · have hz : { start with id := none, data := none } = start := by rw [← hi,← hd]
    simp [Packet.readIdAndData,Packet.idText,Packet.dataText,hid,hdata,readId,hz]
  · obtain ⟨c,rest,htext,hlead⟩ := hfaithful.leads
    obtain ⟨hdigit,-⟩ := hlead.separates hnonneg
    have hr := readId_append (idText_isDigit packet) hdigit rest []
    have hparse : json.fromStr (String.ofList (c :: rest)) = .ok v := by
      rw [← htext,String.ofList_toList]
      exact hfaithful.undo
    have hid := parse_idText packet
    simp only [Packet.readIdAndData,Packet.dataText,hdata,htext,hr,List.nil_append,hparse,
      Option.bind_some]
    cases hp : parseUnsigned (2^64) packet.idText with
    | none =>
      rw [hp] at hid
      rw [← hid,Option.map_none,← hi]
    | some n =>
      rw [hp] at hid
      rw [← hid,Option.map_some]

theorem head_text_ne {json : SerdeJson} {packet : Packet} (he : packet.Encodable json) :
    (packet.idText ++ packet.dataText json).head? ≠ some '/' := by
  intro h
  cases hx : packet.idText with
  | cons c rest =>
    have hc := idText_isDigit packet c (hx ▸ List.mem_cons_self)
    simp only [hx,List.cons_append,List.head?_cons,Option.some.injEq] at h
    rw [h] at hc
    exact absurd hc (by decide)
  | nil =>
    rw [hx,List.nil_append] at h
    rcases he with ⟨-,hdata⟩ | ⟨v,hdata,hnonneg,hfaithful⟩
    · simp [Packet.dataText,hdata] at h
    · obtain ⟨c,rest,htext,hlead⟩ := hfaithful.leads
      simp only [Packet.dataText,hdata,htext,List.head?_cons,Option.some.injEq] at h
      exact (hlead.separates hnonneg).2 h

theorem tryFrom_toBytes_step {json : SerdeJson} {packet : Packet} (hn : ValidNsp packet.nsp)
    (hc : packet.ptype.isBinary = false → packet.attachmentCount = 0)
    (hh : (packet.idText ++ packet.dataText json).head? ≠ some '/') :
    Packet.tryFrom json (packet.toBytes json) = Packet.readIdAndData json
      { Packet.initial packet.ptype with attachmentCount := packet.attachmentCount, nsp := packet.nsp }
      (packet.idText ++ packet.dataText json) := by
  obtain ⟨c,hdigit,htype⟩ := PacketType.tryFrom_digit packet.ptype
  have hcount := readCount_countText (Packet.initial packet.ptype) packet rfl rfl hc
    (packet.nspText ++ (packet.idText ++ packet.dataText json))
  have hnsp := readNsp_nspText
    { Packet.initial packet.ptype with attachmentCount := packet.attachmentCount } packet rfl hn hh
  unfold Packet.tryFrom Packet.toBytes
  rw [decodeUtf8_encodeUtf8,hdigit]
  simp only [List.append_assoc,List.cons_append,List.nil_append,htype,bind,Except.bind,hcount,hnsp]

theorem tryFrom_toBytes_eq {json : SerdeJson} {packet : Packet} (hn : ValidNsp packet.nsp)
    (hc : packet.ptype.isBinary = false → packet.attachmentCount = 0) (he : packet.Encodable json) :
    Packet.tryFrom json (packet.toBytes json) =
      .ok { packet with attachments := none, data := packet.data.bind Value.nonEmpty } := by
  have hdata := readIdAndData_text { Packet.initial packet.ptype with
    attachmentCount := packet.attachmentCount, nsp := packet.nsp } packet rfl rfl he
  rw [tryFrom_toBytes_step hn hc (head_text_ne he),hdata]
  rfl

/-- The codec round trip for every packet that the text format can carry. -/
theorem packet_round_trip (json : SerdeJson) (packet : Packet) (hn : ValidNsp packet.nsp)
    (hc : packet.ptype.isBinary = false → packet.attachmentCount = 0)
    (hv : packet.id = none ∧ packet.data = none ∨ ∃ v, packet.data = some v ∧ ¬ v.IsNonnegative)
    (hjson : ∀ v, packet.data = some v → json.Faithful v) :
    Packet.tryFrom json (packet.toBytes json) =
      .ok { packet with attachments := none, data := packet.data.bind Value.nonEmpty } := by
  apply tryFrom_toBytes_eq hn hc
  rcases hv with h | ⟨v,hd,hv⟩
  · exact Or.inl h
  · exact Or.inr ⟨v,hd,hv,hjson v hd⟩

theorem packet_round_trip_binaryEvent :
    Packet.tryFrom (sampleJson [.array [.string "foo",.number (.posInt 7)]])
        (Packet.toBytes (sampleJson [.array [.string "foo",.number (.posInt 7)]])
          ⟨.binaryEvent,"/admin",some (.array [.string "foo",.number (.posInt 7)]),some 12,200,some []⟩) =
      .ok ⟨.binaryEvent,"/admin",some (.array [.string "foo",.number (.posInt 7)]),some 12,200,none⟩ :=
  packet_round_trip _ ⟨.binaryEvent,"/admin",some (.array [.string "foo",.number (.posInt 7)]),some 12,200,
      some []⟩ ⟨by decide,by decide⟩ (by decide) (Or.inr ⟨_,rfl,fun h => h⟩)
    (by
      intro v hv
      cases hv
      exact sampleJson_faithful _)

end SocketIox.SocketIo
