import SocketIox.SocketIo.Reassembly

/-! # Polling past malformed packets

What the poll loops are meant to report: an error for each malformed message and
every packet of the namespace, before and after. The raw stream ends at the first
error, so its answers are only the first part of these reports.
-/
namespace SocketIox.SocketIo
open Wire

section Poll

/-- What `poll_packet` comes to; `closed` is `None`. -/
inductive Answer where
  | closed
  | packet (result : Except Error Packet)
  | panicked

/-- An item that `poll_packet` does not skip. -/
def isOwn (nsp : String) : Except Error Packet → Bool
  | .ok packet => packet.nsp = nsp
  | .error _ => true

def pollPacketLoop (nsp : String) (panicked : Bool) : List (Except Error Packet) → Answer × Yielded
  | [] => (if panicked then .panicked else .closed,⟨[],panicked⟩)
  | .error e :: rest => (.packet (.error e),⟨rest,panicked⟩)
  | .ok packet :: rest =>
    if packet.nsp = nsp then (.packet (.ok packet),⟨rest,panicked⟩)
    else pollPacketLoop nsp panicked rest

/-- `Socket::poll_packet` on what is left of the raw stream. -/
def pollPacket (nsp : String) (left : Yielded) : Answer × Yielded := pollPacketLoop nsp left.panicked left.items

def pollCall (nsp : String) : ℕ → Yielded → Answer
  | 0, left => (pollPacket nsp left).1
  | k + 1, left => pollCall nsp k (pollPacket nsp left).2

theorem pollPacketLoop_eq (nsp : String) (panicked : Bool) (items : List (Except Error Packet)) :
    (∃ item rest, pollPacketLoop nsp panicked items = (.packet item,⟨rest,panicked⟩) ∧
        items.filter (isOwn nsp) = item :: rest.filter (isOwn nsp)) ∨
      (pollPacketLoop nsp panicked items = (if panicked then .panicked else .closed,⟨[],panicked⟩) ∧
        items.filter (isOwn nsp) = []) := by
  induction items with
  | nil => exact Or.inr ⟨rfl,rfl⟩
  | cons item items ih =>
    cases item with
    | error e => exact Or.inl ⟨.error e,items,rfl,List.filter_cons_of_pos rfl⟩
    | ok packet =>
      by_cases hn : packet.nsp = nsp
      · refine Or.inl ⟨.ok packet,items,?_,?_⟩
        · simp [pollPacketLoop,hn]
        · simp [isOwn,hn]
      · simpa [pollPacketLoop,hn,isOwn] using ih

theorem pollCall_packet_iff (nsp : String) (k : ℕ) (left : Yielded) (item : Except Error Packet) :
    pollCall nsp k left = .packet item ↔ (left.items.filter (isOwn nsp))[k]? = some item := by
  induction k generalizing left with
  | zero =>
    rcases pollPacketLoop_eq nsp left.panicked left.items with ⟨first,rest,hp,hf⟩ | ⟨hp,hf⟩
    · simp [pollCall,pollPacket,hp,hf]
    · simp only [pollCall,pollPacket,hp,hf]
      cases left.panicked <;> simp
  | succ k ih =>
    rw [pollCall,ih]
    rcases pollPacketLoop_eq nsp left.panicked left.items with ⟨first,rest,hp,hf⟩ | ⟨hp,hf⟩
    · simp [pollPacket,hp,hf]
    · simp [pollPacket,hp,hf]

end Poll

section Reports
variable (json : SerdeJson)

def Packet.complete (packet : Packet) (messages : List EngineIo.Packet) : Packet :=
  if packet.attachmentCount = 0 then packet
  else { packet with attachments := some ((messages.take packet.attachmentCount.toNat).map (·.data)) }

/-- What a sequence of messages holds for the poll loop, malformed messages included;
a group that the end of the transport cuts off is not reported. -/
def reports : List EngineIo.Packet → List (Except Error Packet)
  | [] => []
  | m :: messages =>
    match Packet.tryFrom json m.data with
    | .error e => .error e :: reports messages
    | .ok packet =>
      if packet.attachmentCount.toNat ≤ messages.length then
        .ok (packet.complete messages) :: reports (messages.drop packet.attachmentCount.toNat)
      else []
termination_by messages => messages.length
decreasing_by
  · simp
  · simp only [List.length_drop,List.length_cons]
    omega

def afterFirstMalformed : List EngineIo.Packet → Option (List EngineIo.Packet)
  | [] => none
  | m :: messages =>
    match Packet.tryFrom json m.data with
    | .error _ => some messages
    | .ok packet =>
      if packet.attachmentCount.toNat ≤ messages.length then
        afterFirstMalformed (messages.drop packet.attachmentCount.toNat)
      else none
termination_by messages => messages.length
decreasing_by
  simp only [List.length_drop,List.length_cons]
  omega

variable {json}

theorem takeAttachments_messages {messages : List EngineIo.Packet}
    (hm : ∀ m ∈ messages, isMessage m.ptype = true) (left : ℕ) (acc : List Bytes) :
    takeAttachments left acc (messages.map .ok) =
      if left ≤ messages.length then
        .done (acc ++ (messages.take left).map (·.data)) ((messages.drop left).map .ok)
      else .panicked := by
  induction left generalizing acc messages with
  | zero => simp [takeAttachments]
  | succ left ih =>
    cases messages with
    | nil => simp [takeAttachments]
    | cons m messages =>
      have hr := ih (fun m' h' => hm m' (List.mem_cons_of_mem _ h')) (acc ++ [m.data])
      simp only [List.map_cons,takeAttachments,hm m List.mem_cons_self,↓reduceIte,hr,List.length_cons,
        Nat.add_le_add_iff_right,List.take_succ_cons,List.drop_succ_cons,List.append_assoc,List.singleton_append]

theorem handleEngineioPacket_messages {m : EngineIo.Packet} {messages : List EngineIo.Packet}
    (hm : ∀ m ∈ messages, isMessage m.ptype = true) {packet : Packet}
    (hd : Packet.tryFrom json m.data = .ok packet) :
    handleEngineioPacket json m (messages.map .ok) =
      if packet.attachmentCount.toNat ≤ messages.length then
        .done (packet.complete messages) ((messages.drop packet.attachmentCount.toNat).map .ok)
      else .panicked := by
  have ht := takeAttachments_messages hm packet.attachmentCount.toNat []
  unfold handleEngineioPacket Packet.complete
  by_cases hz : packet.attachmentCount = 0
  · simp [hd,hz]
  · by_cases hle : packet.attachmentCount.toNat ≤ messages.length
    · simp only [hd,hz,↓reduceIte,ht,hle,List.nil_append]
    · simp only [hd,hz,↓reduceIte,ht,hle]

theorem reports_eq (messages : List EngineIo.Packet) (hm : ∀ m ∈ messages, isMessage m.ptype = true) :
    reports json messages = (RawSocket.stream json (messages.map .ok)).items ++
      ((afterFirstMalformed json messages).map (reports json)).getD [] := by
  induction messages using reports.induct json with
  | case1 => simp [reports,RawSocket.stream,afterFirstMalformed]
  | case2 m messages e hd ih =>
    have hhandle : handleEngineioPacket json m (messages.map .ok) = .failed e (messages.map .ok) := by
      simp [handleEngineioPacket,hd]
    rw [List.map_cons,stream_message (hm m List.mem_cons_self),hhandle,reports,afterFirstMalformed]
    simp [hd]
  | case3 m messages packet hd hle ih =>
    have htail : ∀ m ∈ messages, isMessage m.ptype = true := fun m' h' => hm m' (List.mem_cons_of_mem _ h')
    have hhandle := handleEngineioPacket_messages htail hd
    rw [if_pos hle] at hhandle
    have hr := ih (fun m' h' => htail m' (List.mem_of_mem_drop h'))
    rw [List.map_cons,stream_message (hm m List.mem_cons_self),hhandle,reports,afterFirstMalformed]
    simp [hd,hle,hr,Yielded.cons]
  | case4 m messages packet hd hle =>
    have htail : ∀ m ∈ messages, isMessage m.ptype = true := fun m' h' => hm m' (List.mem_cons_of_mem _ h')
    have hhandle := handleEngineioPacket_messages htail hd
    rw [if_neg hle] at hhandle
    rw [List.map_cons,stream_message (hm m List.mem_cons_self),hhandle,reports,afterFirstMalformed]
    simp [hd,hle]

theorem filter_items_iff (nsp : String) {messages : List EngineIo.Packet}
    (hm : ∀ m ∈ messages, isMessage m.ptype = true) :
    (RawSocket.stream json (messages.map .ok)).items.filter (isOwn nsp) =
        (reports json messages).filter (isOwn nsp) ↔
      ∀ later, afterFirstMalformed json messages = some later →
        ∀ item ∈ reports json later, isOwn nsp item = false := by
  rw [reports_eq messages hm,List.filter_append,List.self_eq_append_right,List.filter_eq_nil_iff]
  cases afterFirstMalformed json messages with
  | none => simp
  | some later => simp

end Reports

/-- The calls of `poll_packet` report every malformed message and every packet of the
namespace, in order. -/
def ReportsAll (json : SerdeJson) (nsp : String) (messages : List EngineIo.Packet) : Prop :=
  ∀ k item, pollCall nsp k (RawSocket.stream json (messages.map .ok)) = .packet item ↔
    ((reports json messages).filter (isOwn nsp))[k]? = some item

theorem reportsAll_iff_filter (json : SerdeJson) (nsp : String) (messages : List EngineIo.Packet) :
    ReportsAll json nsp messages ↔
      (RawSocket.stream json (messages.map .ok)).items.filter (isOwn nsp) =
        (reports json messages).filter (isOwn nsp) := by
  unfold ReportsAll
  simp only [pollCall_packet_iff]
  constructor
  · intro h
    apply List.ext_getElem?
    intro k
    apply Option.ext
    intro item
    exact h k item
  · intro h k item
    rw [h]

/-- Exactly when the poll loop survives malformed messages. -/
theorem pollPacket_reports_iff (json : SerdeJson) (nsp : String) (messages : List EngineIo.Packet)
    (hm : ∀ m ∈ messages, isMessage m.ptype = true) :
    ReportsAll json nsp messages ↔
      ∀ later, afterFirstMalformed json messages = some later →
        ∀ item ∈ reports json later, isOwn nsp item = false :=
  (reportsAll_iff_filter json nsp messages).trans (filter_items_iff nsp hm)

theorem pollPacket_reports_trailing_error :
    ReportsAll (sampleJson []) "/" [⟨.message,[48]⟩,⟨.message,[57]⟩] := by
  apply (pollPacket_reports_iff _ _ _ (by decide)).mpr
  intro later hlater
  have hfirst : Packet.tryFrom (sampleJson []) [48] = .ok (Packet.initial .connect) := rfl
  have hsecond : Packet.tryFrom (sampleJson []) [57] = .error (.invalidPacketType '9') := rfl
  have hcount : (Packet.initial .connect).attachmentCount = 0 := rfl
  simp only [afterFirstMalformed,hfirst,hsecond,hcount,UInt8.toNat_zero,Nat.zero_le,↓reduceIte,
    List.drop_zero,Option.some.injEq] at hlater
  subst hlater
  simp [reports]

/-- The connect packet after a message of no known type is never returned. -/
theorem pollPacket_stops_at_error :
    ¬ ReportsAll (sampleJson []) "/" [⟨.message,[57]⟩,⟨.message,[48]⟩] := by
  rw [reportsAll_iff_filter,filter_items_iff "/" (by decide)]
  intro h
  have hfirst : Packet.tryFrom (sampleJson []) [57] = .error (.invalidPacketType '9') := rfl
  have hsecond : Packet.tryFrom (sampleJson []) [48] = .ok (Packet.initial .connect) := rfl
  have hcount : (Packet.initial .connect).attachmentCount = 0 := rfl
  have hown := h [⟨.message,[48]⟩] (by simp [afterFirstMalformed,hfirst])
    (.ok ((Packet.initial .connect).complete [])) (by simp [reports,hsecond,hcount])
  cases hown

end SocketIox.SocketIo
