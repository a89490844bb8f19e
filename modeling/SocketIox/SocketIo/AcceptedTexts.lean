import SocketIox.SocketIo.PacketFields

/-! # What the decoder accepts

Every loop of the decoder ends with its delimiter or with an error. A text is rejected
for its bytes, its type or a field that is not closed, and otherwise only for its data,
and what is returned at any of the exits is well formed.
-/
namespace SocketIox.SocketIo
open Proc Wire

/-- What holds of every packet that the decoder returns. -/
structure Packet.WellFormed (packet : Packet) : Prop where
  slash : packet.nsp.toList.head? = some '/'
  comma : ',' ∉ packet.nsp.toList
  attachments : packet.attachments = none
  attachmentCount : packet.ptype ≠ .binaryEvent → packet.ptype ≠ .binaryAck → packet.attachmentCount = 0
  data : packet.data ≠ some (.array [])

def typeChars : List Char := ['0','1','2','3','4','5','6']

/-- The defects of a text other than those of its data, and the error for each. -/
inductive Malformed (payload : Bytes) : Error → Prop where
  | notUtf8 (h : decodeUtf8 payload = none) : Malformed payload .invalidUtf8
  | empty (h : payload = []) : Malformed payload .incompletePacket
  | type (c : Char) (rest : List Char) (h : decodeUtf8 payload = some (c :: rest)) (hc : c ∉ typeChars) :
      Malformed payload (.invalidPacketType c)
  | count (c : Char) (rest : List Char) (h : decodeUtf8 payload = some (c :: rest)) (hc : c = '5' ∨ c = '6')
      (hopen : '-' ∉ rest) : Malformed payload .incompletePacket
  | nsp (c : Char) (rest name : List Char) (h : decodeUtf8 payload = some (c :: rest)) (hc : c ∈ typeChars)
      (hclosed : c = '5' ∨ c = '6' → '-' ∈ rest) (hname : afterCount (c = '5' || c = '6') rest = '/' :: name)
      (hopen : ',' ∉ name) : Malformed payload .incompletePacket

section Accepted
variable {json : SerdeJson} {payload : Bytes} {packet : Packet}

theorem nonEmpty_ne (v : Value) : v.nonEmpty ≠ some (.array []) := by
  intro h
  cases nonEmpty_eq_some h
  cases h

theorem wellFormed_of_tryFrom (h : Packet.tryFrom json payload = .ok packet) : packet.WellFormed := by
  have hr := reads_of_tryFrom h
  obtain ⟨hslash,hcomma⟩ := validNsp_of_tryFrom h
  refine ⟨hslash,hcomma,hr.attachments,?_,?_⟩
  · intro hevent hack
    exact attachmentCount_of_tryFrom h (by simp [PacketType.isBinary,hevent,hack])
  · intro hdata
    by_cases hnil : (packetFields payload).data = []
    · cases (hr.noData hnil).symm.trans hdata
    · obtain ⟨v,-,hv⟩ := hr.data hnil
      exact nonEmpty_ne v (hv.symm.trans hdata)

end Accepted

section Rejected
variable {json : SerdeJson} {payload : Bytes} {c : Char} {rest : List Char}

theorem PacketType.tryFrom_error (hc : c ∉ typeChars) : PacketType.tryFrom c = .error (.invalidPacketType c) := by
  unfold PacketType.tryFrom
  split
  all_goals first | rfl | exact absurd (by decide) hc

theorem PacketType.tryFrom_ok (hc : c ∈ typeChars) : ∃ ptype, PacketType.tryFrom c = .ok ptype := by
  unfold PacketType.tryFrom
  split
  all_goals first | exact ⟨_,rfl⟩ | skip
  simp_all [typeChars]

theorem readCount_open {start : Packet} {chars : List Char} (hb : start.ptype.isBinary = true) (h : '-' ∉ chars) :
    start.readCount chars = .error .incompletePacket := by
  simp only [Packet.readCount,hb,↓reduceIte,readUntil_eq,if_neg h]
  rfl

theorem readNsp_open {start : Packet} {name : List Char} (h : ',' ∉ name) :
    start.readNsp ('/' :: name) = .error .incompletePacket := by
  simp only [Packet.readNsp,List.head?_cons,↓reduceIte,List.tail_cons,readUntil_eq,if_neg h]
  rfl

theorem readCount_closed (start : Packet) (chars : List Char) (hclosed : start.ptype.isBinary = true → '-' ∈ chars) :
    ∃ counted, start.readCount chars = .ok (counted,afterCount start.ptype.isBinary chars) := by
  unfold Packet.readCount afterCount
  cases hb : start.ptype.isBinary with
  | false => exact ⟨start,rfl⟩
  | true =>
    simp only [↓reduceIte,readUntil_eq,if_pos (hclosed hb),List.nil_append,bind,Except.bind]
    cases parseUnsigned (2^8) (chars.takeWhile (· ≠ '-')) with
    | none => exact ⟨_,rfl⟩
    | some n => exact ⟨_,rfl⟩

theorem readNsp_closed (start : Packet) (chars : List Char) (hclosed : ∀ name, chars = '/' :: name → ',' ∈ name) :
    ∃ named, start.readNsp chars = .ok (named,afterNsp chars) := by
  unfold Packet.readNsp afterNsp
  by_cases hh : chars.head? = some '/'
  · obtain ⟨name,rfl⟩ := List.head?_eq_some_iff.mp hh
    refine ⟨{ start with nsp := String.ofList (['/'] ++ name.takeWhile (· ≠ ',')) },?_⟩
    simp only [List.head?_cons,↓reduceIte,List.tail_cons,readUntil_eq,if_pos (hclosed name rfl),bind,Except.bind]
    simp [pure,Except.pure]
  · simp only [if_neg hh,bind,Except.bind]
    exact ⟨start,rfl⟩

theorem readIdAndData_parsed (start : Packet) (chars : List Char)
    (h : chars.dropWhile Char.isDigit = [] ∨
      ∃ v, json.fromStr (String.ofList (chars.dropWhile Char.isDigit)) = .ok v) :
    ∃ packet, start.readIdAndData json chars = .ok packet := by
  rw [Packet.readIdAndData,readId_eq]
  by_cases hnil : chars.dropWhile Char.isDigit = []
  · rw [if_pos hnil]
    exact ⟨start,rfl⟩
  · obtain ⟨v,hv⟩ := h.resolve_left hnil
    simp only [if_neg hnil,hv]
    exact ⟨_,rfl⟩

theorem Malformed.tryFrom {e : Error} (h : Malformed payload e) : Packet.tryFrom json payload = .error e := by
  cases h with
  | notUtf8 h => simp only [Packet.tryFrom,h]
  | empty h =>
    subst h
    rfl
  | type c rest h hc => simp only [Packet.tryFrom,h,PacketType.tryFrom_error hc,bind,Except.bind]
  | count c rest h hc hopen =>
    obtain ⟨ptype,htype⟩ := PacketType.tryFrom_ok (show c ∈ typeChars by rcases hc with rfl | rfl <;> decide)
    have hb : (Packet.initial ptype).ptype.isBinary = true := by
      rw [show (Packet.initial ptype).ptype = ptype from rfl,PacketType.isBinary_of_tryFrom htype]
      simpa using hc
    simp only [Packet.tryFrom,h,htype,readCount_open hb hopen,bind,Except.bind]
  | nsp c rest name h hc hclosed hname hopen =>
    obtain ⟨ptype,htype⟩ := PacketType.tryFrom_ok hc
    have hb : (Packet.initial ptype).ptype.isBinary = (c = '5' || c = '6') := PacketType.isBinary_of_tryFrom htype
    obtain ⟨counted,hcounted⟩ := readCount_closed (Packet.initial ptype) rest (by
      rw [hb]
      simpa using hclosed)
    rw [hb,hname] at hcounted
    simp only [Packet.tryFrom,h,htype,hcounted,readNsp_open hopen,bind,Except.bind]

end Rejected

/-- A text is accepted exactly if it is not malformed and has no data or data that the JSON crate reads. -/
theorem accepted_iff (json : SerdeJson) (payload : Bytes) : (∃ packet, Packet.tryFrom json payload = .ok packet) ↔
    (∀ e, ¬ Malformed payload e) ∧ ((packetFields payload).data = [] ∨
      ∃ v, json.fromStr (String.ofList (packetFields payload).data) = .ok v) := by
  constructor
  · rintro ⟨packet,h⟩
    have hr := reads_of_tryFrom h
    constructor
    · intro e he
      cases h.symm.trans he.tryFrom
    · by_cases hnil : (packetFields payload).data = []
      · exact Or.inl hnil
      · obtain ⟨v,hv,-⟩ := hr.data hnil
        exact Or.inr ⟨v,hv⟩
  · rintro ⟨hwell,hdata⟩
    cases htext : decodeUtf8 payload with
    | none => exact absurd (.notUtf8 htext) (hwell _)
    | some text =>
      cases text with
      | nil => exact absurd (.empty (encodeUtf8_of_decodeUtf8 htext).symm) (hwell _)
      | cons c rest =>
        have hc : c ∈ typeChars := by
          by_contra hc
          exact hwell _ (.type c rest htext hc)
        obtain ⟨ptype,htype⟩ := PacketType.tryFrom_ok hc
        have hb : (Packet.initial ptype).ptype.isBinary = (c = '5' || c = '6') := PacketType.isBinary_of_tryFrom htype
        have hclosed : c = '5' ∨ c = '6' → '-' ∈ rest := by
          intro hbinary
          by_contra hopen
          exact hwell _ (.count c rest htext hbinary hopen)
        obtain ⟨counted,hcounted⟩ := readCount_closed (Packet.initial ptype) rest (by
          rw [hb]
          simpa using hclosed)
        rw [hb] at hcounted
        obtain ⟨named,hnamed⟩ := readNsp_closed counted (afterCount (c = '5' || c = '6') rest) (by
          intro name hname
          by_contra hopen
          exact hwell _ (.nsp c rest name htext hc hclosed hname hopen))
        have hf : (packetFields payload).data =
            (afterNsp (afterCount (c = '5' || c = '6') rest)).dropWhile Char.isDigit := by
          simp only [packetFields,htext]
          rfl
        rw [hf] at hdata
        obtain ⟨packet,hpacket⟩ := readIdAndData_parsed named _ hdata
        refine ⟨packet,?_⟩
        simp only [Packet.tryFrom,htext,htype,hcounted,hnamed,bind,Except.bind]
        exact hpacket

/-- What is decoded is well formed, and what is malformed is rejected. -/
theorem decoder_postcondition (json : SerdeJson) (payload : Bytes) :
    (∀ packet, Packet.tryFrom json payload = .ok packet → packet.WellFormed) ∧
    ∀ e, Malformed payload e → Packet.tryFrom json payload = .error e :=
  ⟨fun _ => wellFormed_of_tryFrom,fun _ => Malformed.tryFrom⟩

theorem decoder_postcondition_admin :
    Packet.WellFormed ⟨.ack,"/admin",none,some 456,0,none⟩ ∧
    Packet.tryFrom sampleDocument (encodeUtf8 "2/admin".toList) = .error .incompletePacket := by
  constructor
  · exact (decoder_postcondition (sampleJson [.array []]) (encodeUtf8 "3/admin,456[]".toList)).1 _
      ((tryFrom_encodeUtf8 _ _ _).trans rfl)
  · exact (decoder_postcondition sampleDocument (encodeUtf8 "2/admin".toList)).2 _
      (.nsp '2' "/admin".toList "admin".toList (decodeUtf8_encodeUtf8 _) (by decide) (by decide) rfl (by decide))

end SocketIox.SocketIo
