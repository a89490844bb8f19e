import Mathlib.Data.List.TakeWhile
import SocketIox.Proc.TryStream
import SocketIox.SocketIo.PacketCodec

/-! # What the decoder reads out of a text

The fields of a text are cut out of it by their delimiters alone, without parsing
anything. Every accepted packet is compared with the fields of its text: which of
the numbers on the wire are reported as they stand there, and which packets
survive being encoded and decoded again.
-/
namespace SocketIox.SocketIo
open Proc Wire

structure Fields where
  binary : Bool
  count : List Char
  nsp : List Char
  id : List Char
  data : List Char
  deriving DecidableEq, Repr

def afterCount (binary : Bool) (chars : List Char) : List Char :=
  if binary then (chars.dropWhile (· ≠ '-')).tail else chars

def afterNsp (chars : List Char) : List Char :=
  if chars.head? = some '/' then (chars.dropWhile (· ≠ ',')).tail else chars

/-- The fields after the type character: the count up to the dash of a binary
type, a namespace from its slash up to its comma, the run of digits and the rest. -/
def Fields.split (binary : Bool) (chars : List Char) : Fields where
  binary := binary
  count := if binary then chars.takeWhile (· ≠ '-') else []
  nsp := if (afterCount binary chars).head? = some '/' then (afterCount binary chars).takeWhile (· ≠ ',') else []
  id := (afterNsp (afterCount binary chars)).takeWhile Char.isDigit
  data := (afterNsp (afterCount binary chars)).dropWhile Char.isDigit

def packetFields (payload : Bytes) : Fields :=
  match decodeUtf8 payload with
  | some (c :: rest) => Fields.split (c = '5' || c = '6') rest
  | _ => Fields.split false []

theorem readUntil_eq (stop : Char) (chars charBuf : List Char) :
    readUntil stop chars charBuf = if stop ∈ chars then
      .ok (charBuf ++ chars.takeWhile (· ≠ stop),(chars.dropWhile (· ≠ stop)).tail) else .error .incompletePacket := by
  induction chars generalizing charBuf with
  | nil => rfl
  | cons c rest ih =>
    by_cases hc : c = stop
    · simp [readUntil,hc]
    · have hs : stop ≠ c := fun h => hc h.symm
      simp [readUntil,hc,hs,ih]

theorem readId_eq (chars charBuf : List Char) :
    readId chars charBuf = if chars.dropWhile Char.isDigit = [] then none else
      some (charBuf ++ chars.takeWhile Char.isDigit,chars.dropWhile Char.isDigit) := by
  induction chars generalizing charBuf with
  | nil => rfl
  | cons c rest ih =>
    by_cases hc : c.isDigit = true
    · simp [readId,hc,ih]
    · simp [readId,hc]

structure Reads (json : SerdeJson) (f : Fields) (packet : Packet) : Prop where
  binary : packet.ptype.isBinary = f.binary
  count : packet.attachmentCount = ((parseUnsigned (2^8) f.count).map UInt8.ofNat).getD 0
  nsp : packet.nsp = if f.nsp = [] then "/" else String.ofList f.nsp
  id : packet.id = if f.data = [] then none else (parseUnsigned (2^64) f.id).map UInt64.ofNat
  noData : f.data = [] → packet.data = none
  data : f.data ≠ [] → ∃ v, json.fromStr (String.ofList f.data) = .ok v ∧ packet.data = v.nonEmpty
  attachments : packet.attachments = none

theorem readUntil_ok {stop : Char} {chars charBuf text rest : List Char}
    (h : readUntil stop chars charBuf = .ok (text,rest)) :
    text = charBuf ++ chars.takeWhile (· ≠ stop) ∧ rest = (chars.dropWhile (· ≠ stop)).tail := by
  rw [readUntil_eq] at h
  split at h
  · cases h
    exact ⟨rfl,rfl⟩
  · cases h

theorem readCount_ok {start packet : Packet} {chars rest : List Char} (hs : start.attachmentCount = 0)
    (h : start.readCount chars = .ok (packet,rest)) :
    rest = afterCount start.ptype.isBinary chars ∧ packet = { start with attachmentCount :=
      ((parseUnsigned (2^8) (Fields.split start.ptype.isBinary chars).count).map UInt8.ofNat).getD 0 } := by
  unfold Packet.readCount at h
  cases hb : start.ptype.isBinary with
  | false =>
    have hempty : parseUnsigned (2^8) [] = none := rfl
    simp only [hb,Bool.false_eq_true,↓reduceIte,pure_bind,hempty] at h
    cases h
    exact ⟨rfl,by simp [Fields.split,← hs]⟩
  | true =>
    simp only [hb,↓reduceIte] at h
    obtain ⟨⟨charBuf,after⟩,hread,h⟩ := ok_of_bind_ok h
    obtain ⟨rfl,rfl⟩ := readUntil_ok hread
    cases hp : parseUnsigned (2^8) (Fields.split true chars).count with
    | none =>
      have hbuf : parseUnsigned (2^8) ([] ++ chars.takeWhile (· ≠ '-')) = none := hp
      simp only [hbuf] at h
      cases h
      exact ⟨rfl,by simp [← hs]⟩
    | some n =>
      have hbuf : parseUnsigned (2^8) ([] ++ chars.takeWhile (· ≠ '-')) = some n := hp
      simp only [hbuf] at h
      cases h
      exact ⟨rfl,rfl⟩

theorem readNsp_ok {start packet : Packet} {chars rest : List Char} (hs : start.nsp = "/")
    (h : start.readNsp chars = .ok (packet,rest)) :
    rest = afterNsp chars ∧ packet =
      { start with nsp := if chars.head? = some '/' then String.ofList (chars.takeWhile (· ≠ ',')) else "/" } := by
  unfold Packet.readNsp at h
  by_cases hh : chars.head? = some '/'
  · obtain ⟨tail,rfl⟩ := List.head?_eq_some_iff.mp hh
    simp only [List.head?_cons,↓reduceIte,List.tail_cons] at h
    obtain ⟨⟨charBuf,after⟩,hread,h⟩ := ok_of_bind_ok h
    obtain ⟨rfl,rfl⟩ := readUntil_ok hread
    cases h
    simp [afterNsp]
  · simp only [hh,↓reduceIte,pure_bind] at h
    cases h
    simp [afterNsp,hh,← hs]

theorem readIdAndData_ok {json : SerdeJson} {start packet : Packet} {chars : List Char} (hi : start.id = none)
    (h : start.readIdAndData json chars = .ok packet) :
    chars.dropWhile Char.isDigit = [] ∧ packet = start ∨
      chars.dropWhile Char.isDigit ≠ [] ∧ ∃ v, json.fromStr (String.ofList (chars.dropWhile Char.isDigit)) = .ok v ∧
        packet = { start with
          id := (parseUnsigned (2^64) (chars.takeWhile Char.isDigit)).map UInt64.ofNat, data := v.nonEmpty } := by
  by_cases hd : chars.dropWhile Char.isDigit = []
  · rw [Packet.readIdAndData,readId_eq,if_pos hd] at h
    cases h
    exact Or.inl ⟨hd,rfl⟩
  · rw [Packet.readIdAndData,readId_eq,if_neg hd] at h
    refine Or.inr ⟨hd,?_⟩
    simp only [List.nil_append] at h
    split at h
    · next v hv =>
      cases h
      refine ⟨v,hv,?_⟩
      cases hp : parseUnsigned (2^64) (chars.takeWhile Char.isDigit) with
      | none => simp [← hi]
      | some n => simp
    · cases h

theorem PacketType.isBinary_of_tryFrom {c : Char} {ptype : PacketType} (h : PacketType.tryFrom c = .ok ptype) :
    ptype.isBinary = (c = '5' || c = '6') := by
  unfold PacketType.tryFrom at h
  split at h <;> cases h <;> decide

theorem nspText_split (binary : Bool) (chars : List Char) :
    (if (afterCount binary chars).head? = some '/' then
      String.ofList ((afterCount binary chars).takeWhile (· ≠ ',')) else "/") =
    if (Fields.split binary chars).nsp = [] then "/" else String.ofList (Fields.split binary chars).nsp := by
  by_cases hh : (afterCount binary chars).head? = some '/'
  · obtain ⟨tail,ht⟩ := List.head?_eq_some_iff.mp hh
    simp [Fields.split,ht]
  · simp [Fields.split,hh]

theorem reads_of_tryFrom {json : SerdeJson} {payload : Bytes} {packet : Packet}
    (h : Packet.tryFrom json payload = .ok packet) : Reads json (packetFields payload) packet := by
  unfold Packet.tryFrom at h
  split at h
  · cases h
  · cases h
  · next c rest htext =>
    obtain ⟨ptype,htype,h⟩ := ok_of_bind_ok h
    obtain ⟨⟨counted,rest₁⟩,hcount,h⟩ := ok_of_bind_ok h
    obtain ⟨⟨named,rest₂⟩,hnsp,h⟩ := ok_of_bind_ok h
    have hb := PacketType.isBinary_of_tryFrom htype
    have hi : (Packet.initial ptype).ptype = ptype := rfl
    obtain ⟨hrest,hcounted⟩ := readCount_ok rfl hcount
    rw [hi,hb] at hrest hcounted
    subst hrest hcounted
    obtain ⟨rfl,rfl⟩ := readNsp_ok rfl hnsp
    have hf : packetFields payload = Fields.split (c = '5' || c = '6') rest := by
      simp only [packetFields,htext]
    rw [hf]
    rcases readIdAndData_ok rfl h with ⟨hnil,rfl⟩ | ⟨hne,v,hv,rfl⟩
    · exact ⟨hb,rfl,nspText_split _ rest,(if_pos hnil).symm,fun _ => rfl,fun hd => absurd hnil hd,rfl⟩
    · exact ⟨hb,rfl,nspText_split _ rest,(if_neg hne).symm,fun hd => absurd hd hne,fun _ => ⟨v,hv,rfl⟩,rfl⟩

def sampleDocument : SerdeJson := sampleJson [.array [.string "foo"]]

theorem tryFrom_encodeUtf8 (json : SerdeJson) (c : Char) (rest : List Char) :
    Packet.tryFrom json (encodeUtf8 (c :: rest)) = (do
      let ptype ← PacketType.tryFrom c
      let (packet,rest) ← (Packet.initial ptype).readCount rest
      let (packet,rest) ← packet.readNsp rest
      packet.readIdAndData json rest) := by
  simp only [Packet.tryFrom,decodeUtf8_encodeUtf8]

theorem packetFields_encodeUtf8 (c : Char) (rest : List Char) :
    packetFields (encodeUtf8 (c :: rest)) = Fields.split (c = '5' || c = '6') rest := by
  simp only [packetFields,decodeUtf8_encodeUtf8]

/-! ## Numbers -/

/-- The text of a number in decimal, with its value below a limit. -/
def IsNumeral (limit : ℕ) (text : List Char) : Prop :=
  text ≠ [] ∧ (∀ c ∈ text, c.isDigit = true) ∧ numeralValue text < limit

/-- The count field is a number and is the attachment count, and the digit run is
the decimal text of the id. -/
def NumbersReported (f : Fields) (packet : Packet) : Prop :=
  (packet.ptype.isBinary = true →
    IsNumeral (2^8) f.count ∧ packet.attachmentCount.toNat = numeralValue f.count) ∧
  (f.id = [] ↔ packet.id = none) ∧ ∀ id, packet.id = some id → f.id = digits id.toNat

/-- The count field of a binary type is a number below 256, and the digit run is
empty, or the text of a number below 2^64 that does not end the packet. -/
def NumbersWellFormed (f : Fields) : Prop :=
  (f.binary = true → IsNumeral (2^8) f.count) ∧
  (f.id = [] ∨ (∃ n < 2^64, f.id = digits n) ∧ f.data ≠ [])

theorem Reads.count_reported_iff {json : SerdeJson} {f : Fields} {packet : Packet} (h : Reads json f packet) :
    (packet.ptype.isBinary = true →
        IsNumeral (2^8) f.count ∧ packet.attachmentCount.toNat = numeralValue f.count) ↔
      (f.binary = true → IsNumeral (2^8) f.count) := by
  rw [h.binary]
  refine ⟨fun hr hb => (hr hb).1,fun hw hb => ⟨hw hb,?_⟩⟩
  obtain ⟨hne,hd,hlt⟩ := hw hb
  rw [h.count,parseUnsigned_of_isDigit _ hne hd,if_pos hlt,Option.map_some,Option.getD_some]
  exact UInt8.toNat_ofNat_of_lt' hlt

theorem Reads.id_reported_iff {json : SerdeJson} {f : Fields} {packet : Packet} (h : Reads json f packet) :
    ((f.id = [] ↔ packet.id = none) ∧ ∀ id, packet.id = some id → f.id = digits id.toNat) ↔
      (f.id = [] ∨ (∃ n < 2^64, f.id = digits n) ∧ f.data ≠ []) := by
  constructor
  · rintro ⟨hiff,hid⟩
    by_cases hnil : f.id = []
    · exact Or.inl hnil
    · obtain ⟨id,hsome⟩ := Option.ne_none_iff_exists'.mp (fun hnone => hnil (hiff.mpr hnone))
      refine Or.inr ⟨⟨id.toNat,id.toNat_lt,hid id hsome⟩,?_⟩
      intro hdata
      rw [h.id,if_pos hdata] at hsome
      cases hsome
  · rintro (hnil | ⟨⟨n,hn,htext⟩,hdata⟩)
    · have hnone : packet.id = none := by simp [h.id,hnil]
      exact ⟨⟨fun _ => hnone,fun _ => hnil⟩,fun id hid => by rw [hnone] at hid; cases hid⟩
    · have hsome : packet.id = some (UInt64.ofNat n) := by
        rw [h.id,if_neg hdata,htext,parseUnsigned_digits _ hn,Option.map_some]
      have hne : f.id ≠ [] := htext ▸ Nat.toDigits_ne_nil
      refine ⟨⟨fun hnil => absurd hnil hne,fun hnone => by rw [hsome] at hnone; cases hnone⟩,?_⟩
      intro id hid
      rw [hsome] at hid
      cases hid
      rw [htext,UInt64.toNat_ofNat_of_lt' hn]

/-- Which texts have their numbers reported as they stand there. -/
theorem numbers_reported_iff (json : SerdeJson) (payload : Bytes) (packet : Packet)
    (h : Packet.tryFrom json payload = .ok packet) :
    NumbersReported (packetFields payload) packet ↔ NumbersWellFormed (packetFields payload) := by
  have hr := reads_of_tryFrom h
  exact and_congr hr.count_reported_iff hr.id_reported_iff

theorem numbers_reported_binaryEvent :
    NumbersReported (packetFields (encodeUtf8 "52-/admin,12[\"foo\"]".toList))
      ⟨.binaryEvent,"/admin",some (.array [.string "foo"]),some 12,2,none⟩ := by
  apply (numbers_reported_iff sampleDocument _ _ ((tryFrom_encodeUtf8 _ _ _).trans rfl)).mpr
  rw [packetFields_encodeUtf8]
  exact ⟨fun _ => ⟨by decide,List.all_eq_true.mp (by decide),by decide⟩,Or.inr ⟨⟨12,by decide,by decide⟩,by decide⟩⟩

/-- A count above 255 is replaced by zero, and an id that ends the text is lost. -/
theorem numbers_not_reported :
    Packet.tryFrom sampleDocument (encodeUtf8 "5999-[\"foo\"]".toList) =
      .ok ⟨.binaryEvent,"/",some (.array [.string "foo"]),none,0,none⟩ ∧
    ¬ NumbersReported (packetFields (encodeUtf8 "5999-[\"foo\"]".toList))
      ⟨.binaryEvent,"/",some (.array [.string "foo"]),none,0,none⟩ ∧
    Packet.tryFrom sampleDocument (encodeUtf8 "3456".toList) = .ok ⟨.ack,"/",none,none,0,none⟩ ∧
    ¬ NumbersReported (packetFields (encodeUtf8 "3456".toList)) ⟨.ack,"/",none,none,0,none⟩ := by
  refine ⟨(tryFrom_encodeUtf8 _ _ _).trans rfl,?_,(tryFrom_encodeUtf8 _ _ _).trans rfl,?_⟩
  · rintro ⟨hcount,-⟩
    have h := (hcount rfl).1.2.2
    rw [show "5999-[\"foo\"]".toList = '5' :: "999-[\"foo\"]".toList from rfl,packetFields_encodeUtf8] at h
    exact absurd h (by decide)
  · rintro ⟨-,hid,-⟩
    have h := hid.mpr rfl
    rw [show "3456".toList = '3' :: "456".toList from rfl,packetFields_encodeUtf8] at h
    exact absurd h (by decide)


/-! ## Forwarding -/

/-- There is no text after the digit run, or its value is no nonnegative number
and, if it is the empty array, the digit run is no number below 2^64. -/
def Forwardable (json : SerdeJson) (f : Fields) : Prop :=
  f.data = [] ∨ ∃ v, json.fromStr (String.ofList f.data) = .ok v ∧ ¬ v.IsNonnegative ∧
    (v = .array [] → f.id = [] ∨ 2^64 ≤ numeralValue f.id)

theorem packetFields_eq_split (payload : Bytes) :
    ∃ binary chars, packetFields payload = Fields.split binary chars := by
  unfold packetFields
  split
  · exact ⟨_,_,rfl⟩
  · exact ⟨_,_,rfl⟩

theorem validNsp_of_tryFrom {json : SerdeJson} {payload : Bytes} {packet : Packet}
    (h : Packet.tryFrom json payload = .ok packet) : ValidNsp packet.nsp := by
  obtain ⟨binary,chars,hf⟩ := packetFields_eq_split payload
  rw [(reads_of_tryFrom h).nsp,hf,← nspText_split]
  split
  · next hh =>
    obtain ⟨tail,ht⟩ := List.head?_eq_some_iff.mp hh
    rw [ht]
    refine ⟨by simp,?_⟩
    intro hc
    rw [String.toList_ofList] at hc
    simpa using List.mem_takeWhile_imp hc
  · exact ⟨by decide,by decide⟩

theorem attachmentCount_of_tryFrom {json : SerdeJson} {payload : Bytes} {packet : Packet}
    (h : Packet.tryFrom json payload = .ok packet) (hb : packet.ptype.isBinary = false) :
    packet.attachmentCount = 0 := by
  obtain ⟨binary,chars,hf⟩ := packetFields_eq_split payload
  have hr := reads_of_tryFrom h
  have hb' : binary = false := by rw [← hb,hr.binary,hf]; rfl
  simp [hr.count,hf,hb',Fields.split]

theorem parse_id_eq_none_iff (payload : Bytes) : parseUnsigned (2^64) (packetFields payload).id = none ↔
    (packetFields payload).id = [] ∨ 2^64 ≤ numeralValue (packetFields payload).id := by
  obtain ⟨binary,chars,hf⟩ := packetFields_eq_split payload
  have hd : ∀ c ∈ (packetFields payload).id, c.isDigit = true := by
    intro c hc
    rw [hf] at hc
    exact List.mem_takeWhile_imp hc
  by_cases hne : (packetFields payload).id = []
  · simp [hne]
  · rw [parseUnsigned_of_isDigit _ hne hd]
    simp [hne]

theorem nonEmpty_eq_none_iff {v : Value} : v.nonEmpty = none ↔ v = .array [] := by
  unfold Value.nonEmpty
  split
  · simp
  · next hne => simpa using hne

theorem nonEmpty_eq_some {v w : Value} (h : v.nonEmpty = some w) : v = w := by
  unfold Value.nonEmpty at h
  split at h
  · cases h
  · exact Option.some.inj h

theorem head_ne_slash_of_isDigit {text : List Char} (h : ∀ c, text.head? = some c → c.isDigit = true) :
    text.head? ≠ some '/' := by
  intro hs
  exact absurd (h '/' hs) (by decide)

theorem id_eq_none_of_tryFrom_toBytes {json : SerdeJson} {packet : Packet} (hn : ValidNsp packet.nsp)
    (hc : packet.ptype.isBinary = false → packet.attachmentCount = 0) (hd : packet.data = none)
    (h : Packet.tryFrom json (packet.toBytes json) = .ok packet) : packet.id = none := by
  have htext : packet.idText ++ packet.dataText json = packet.idText := by simp [Packet.dataText,hd]
  have hdigits := idText_isDigit packet
  have hhead := head_ne_slash_of_isDigit (fun c hc => hdigits c (List.mem_of_head? hc))
  have hdrop : packet.idText.dropWhile Char.isDigit = [] := List.dropWhile_eq_nil_iff.mpr hdigits
  rw [tryFrom_toBytes_step hn hc (by rwa [htext]),htext] at h
  rcases readIdAndData_ok rfl h with ⟨-,heq⟩ | ⟨hne,-⟩
  · rw [heq]
    rfl
  · exact absurd hdrop hne

theorem Value.Leads.isDigit {v : Value} {c : Char} (h : v.Leads c) (hv : v.IsNonnegative) : c.isDigit = true := by
  cases v with
  | number n =>
    have hn : n.isNegative = false := hv
    simpa [Value.Leads,hn] using h
  | _ => exact absurd hv (fun hf => hf)

theorem SerdeJson.Grammatical.fromStr_rest {json : SerdeJson} (hg : json.Grammatical) {v w : Value}
    {xs rest : List Char} (hv : v.IsNonnegative) (hw : w.IsNonnegative) (hxs : ∀ c ∈ xs, c.isDigit = true)
    (hrest : (xs ++ (json.toString v).toList).dropWhile Char.isDigit = rest)
    (hne : rest ≠ []) : json.fromStr (String.ofList rest) ≠ .ok w := by
  intro hok
  obtain ⟨e,tail,rfl⟩ := List.exists_cons_of_ne_nil hne
  obtain ⟨c,after,hdrop,hlead⟩ := hg.starts _ _ hok
  have hedigit : e.isDigit = false := by
    have hnot := List.head?_dropWhile_not Char.isDigit (xs ++ (json.toString v).toList)
    rwa [hrest] at hnot
  have hemem : e ∈ (json.toString v).toList := by
    have hsub := (List.dropWhile_suffix Char.isDigit (l := xs ++ (json.toString v).toList)).subset
    rw [hrest] at hsub
    rcases List.mem_append.mp (hsub List.mem_cons_self) with hx | hx
    · rw [hxs e hx] at hedigit
      cases hedigit
    · exact hx
  have heblank : isBlank e = false := by
    cases v with
    | number n => exact hg.noBlank n e hemem
    | _ => exact absurd hv (fun hf => hf)
  rw [String.toList_ofList,List.dropWhile_cons_of_neg (by simp [heblank])] at hdrop
  cases hdrop
  rw [hlead.isDigit hw] at hedigit
  cases hedigit

theorem tryFrom_toBytes_number {json : SerdeJson} {packet : Packet} {v : Value} (hg : json.Grammatical)
    (hn : ValidNsp packet.nsp) (hc : packet.ptype.isBinary = false → packet.attachmentCount = 0)
    (hd : packet.data = some v) (hv : v.IsNonnegative) (hj : json.Faithful v) :
    Packet.tryFrom json (packet.toBytes json) ≠ .ok packet := by
  intro h
  have htext : packet.dataText json = (json.toString v).toList := by simp [Packet.dataText,hd]
  have hhead : (packet.idText ++ packet.dataText json).head? ≠ some '/' := by
    apply head_ne_slash_of_isDigit
    intro c hc
    cases hx : packet.idText with
    | cons d rest =>
      rw [hx] at hc
      cases hc
      exact idText_isDigit packet _ (hx ▸ List.mem_cons_self)
    | nil =>
      obtain ⟨d,rest,hrest,hlead⟩ := hj.leads
      rw [hx,htext,hrest] at hc
      cases hc
      exact hlead.isDigit hv
  rw [tryFrom_toBytes_step hn hc hhead,htext] at h
  rcases readIdAndData_ok rfl h with ⟨-,heq⟩ | ⟨hne,w,hw,heq⟩
  · rw [heq] at hd
    cases hd
  · have hwv : w.nonEmpty = some v := by rw [← hd,heq]
    cases nonEmpty_eq_some hwv
    exact hg.fromStr_rest hv hv (idText_isDigit packet) rfl hne hw

theorem tryFrom_toBytes_of_encodable {json : SerdeJson} {payload : Bytes} {packet : Packet}
    (h : Packet.tryFrom json payload = .ok packet) (he : packet.Encodable json) :
    Packet.tryFrom json (packet.toBytes json) = .ok packet := by
  have hr := reads_of_tryFrom h
  have hd : packet.data.bind Value.nonEmpty = packet.data := by
    by_cases hnil : (packetFields payload).data = []
    · simp [hr.noData hnil]
    · obtain ⟨v,-,hv⟩ := hr.data hnil
      cases hw : v.nonEmpty with
      | none => simp [hv,hw]
      | some w =>
        cases nonEmpty_eq_some hw
        simp [hv,hw]
  rw [tryFrom_toBytes_eq (validNsp_of_tryFrom h) (attachmentCount_of_tryFrom h) he,hd,← hr.attachments]

/-- Which accepted texts give a packet that is decoded again as it is. -/
theorem forwarded_iff (json : SerdeJson) (payload : Bytes) (packet : Packet)
    (h : Packet.tryFrom json payload = .ok packet) (hg : json.Grammatical)
    (hj : ∀ v, packet.data = some v → json.Faithful v) :
    Packet.tryFrom json (packet.toBytes json) = .ok packet ↔ Forwardable json (packetFields payload) := by
  have hr := reads_of_tryFrom h
  have hn := validNsp_of_tryFrom h
  have hc := attachmentCount_of_tryFrom h
  by_cases hnil : (packetFields payload).data = []
  · have hid : packet.id = none := by rw [hr.id,if_pos hnil]
    have he : packet.Encodable json := Or.inl ⟨hid,hr.noData hnil⟩
    exact iff_of_true (tryFrom_toBytes_of_encodable h he) (Or.inl hnil)
  · obtain ⟨v,hv,hd⟩ := hr.data hnil
    have hforward : Forwardable json (packetFields payload) ↔
        ¬ v.IsNonnegative ∧ (v.nonEmpty = none → packet.id = none) := by
      rw [hr.id,if_neg hnil,Option.map_eq_none_iff,parse_id_eq_none_iff,nonEmpty_eq_none_iff]
      simp [Forwardable,hnil,hv]
    rw [hforward]
    by_cases hnum : v.IsNonnegative
    · have hsome : packet.data = some v := by
        cases v with
        | number n => exact hd
        | _ => exact absurd hnum (fun hf => hf)
      have hnot := tryFrom_toBytes_number hg hn hc hsome hnum (hj v hsome)
      exact iff_of_false hnot (fun hf => hf.1 hnum)
    · cases hw : v.nonEmpty with
      | none =>
        rw [hw] at hd
        refine ⟨fun hok => ⟨hnum,fun _ => id_eq_none_of_tryFrom_toBytes hn hc hd hok⟩,?_⟩
        rintro ⟨-,hid⟩
        exact tryFrom_toBytes_of_encodable h (Or.inl ⟨hid rfl,hd⟩)
      | some w =>
        cases nonEmpty_eq_some hw
        have hsome : packet.data = some v := by rw [hd,hw]
        have he : packet.Encodable json := Or.inr ⟨v,hsome,hnum,hj v hsome⟩
        exact iff_of_true (tryFrom_toBytes_of_encodable h he) ⟨hnum,fun hf => by cases hf⟩

theorem forwarded_event :
    Packet.tryFrom sampleDocument (Packet.toBytes sampleDocument
        ⟨.event,"/admin",some (.array [.string "foo"]),some 12,0,none⟩) =
      .ok ⟨.event,"/admin",some (.array [.string "foo"]),some 12,0,none⟩ := by
  apply (forwarded_iff sampleDocument (encodeUtf8 ('2' :: "/admin,12[\"foo\"]".toList)) _
    ((tryFrom_encodeUtf8 _ _ _).trans rfl) (sampleJson_grammatical _) ?_).mpr
  · rw [packetFields_encodeUtf8]
    exact Or.inr ⟨.array [.string "foo"],rfl,fun h => h,fun h => by cases h⟩
  · intro v hv
    cases hv
    exact sampleJson_faithful _

/-- The acknowledgement with an empty array: its id is read, but not written so
that it could be read again. -/
theorem forwarded_ack_loses_id :
    Packet.tryFrom (sampleJson [.array []]) (encodeUtf8 "3/admin,456[]".toList) =
      .ok ⟨.ack,"/admin",none,some 456,0,none⟩ ∧
    Packet.tryFrom (sampleJson [.array []]) (Packet.toBytes (sampleJson [.array []])
      ⟨.ack,"/admin",none,some 456,0,none⟩) = .ok ⟨.ack,"/admin",none,none,0,none⟩ ∧
    Packet.tryFrom (sampleJson [.array []]) (Packet.toBytes (sampleJson [.array []])
      ⟨.ack,"/admin",none,some 456,0,none⟩) ≠ .ok ⟨.ack,"/admin",none,some 456,0,none⟩ := by
  have hlost : Packet.tryFrom (sampleJson [.array []]) (Packet.toBytes (sampleJson [.array []])
      ⟨.ack,"/admin",none,some 456,0,none⟩) = .ok ⟨.ack,"/admin",none,none,0,none⟩ :=
    (tryFrom_encodeUtf8 _ _ _).trans rfl
  refine ⟨(tryFrom_encodeUtf8 _ _ _).trans rfl,hlost,?_⟩
  rw [hlost]
  intro h
  cases h

end SocketIox.SocketIo
