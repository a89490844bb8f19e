import SocketIox.SocketIo.MessageFidelity

/-! # The shape of payloads, at both ends

At the sender, the parts of a payload against the packet built from them: how many
attachments it announces and where each part went. At the receiver, the two event
handlers on one and the same array without placeholders.
-/
namespace SocketIox.SocketIo
open Wire

section Built

theorem values_length (k : ℕ) (parts : List RawPayload) : (values k parts).length = parts.length := by
  induction parts generalizing k with
  | nil => rfl
  | cons part parts ih => cases part <;> simp [values,ih]

/-- The data element of a part, where `k` binary parts came before. -/
def RawPayload.element (k : ℕ) : RawPayload → Value
  | .binary _ => binaryPlaceHolder k
  | .json value => value

theorem values_getElem? (k : ℕ) (parts : List RawPayload) (i : ℕ) :
    (values k parts)[i]? = parts[i]?.map (RawPayload.element (k+(binaries (parts.take i)).length)) := by
  induction parts generalizing k i with
  | nil => rfl
  | cons part parts ih =>
    cases i with
    | zero => cases part <;> rfl
    | succ i =>
      cases part with
      | binary bin =>
        simp only [values,List.getElem?_cons_succ,ih,List.take_succ_cons,binaries_binary,List.length_cons]
        rw [Nat.add_right_comm,Nat.add_assoc]
      | json value => simp [values,ih]

theorem binaries_getElem? {parts : List RawPayload} {i : ℕ} {bin : Bytes} (h : parts[i]? = some (.binary bin)) :
    (binaries parts)[(binaries (parts.take i)).length]? = some bin := by
  have hsplit : parts = parts.take i ++ .binary bin :: parts.drop (i+1) := by
    obtain ⟨hi,hget⟩ := List.getElem?_eq_some_iff.mp h
    rw [← hget,List.getElem_cons_drop,List.take_append_drop]
  have hb : binaries parts = binaries (parts.take i) ++ bin :: binaries (parts.drop (i+1)) := by
    conv_lhs => rw [hsplit]
    simp [binaries,List.filterMap_append,RawPayload.bin]
  rw [hb,List.getElem?_append_right (Nat.le_refl _)]
  simp

def placeholderNum (value : Value) : Option ℕ :=
  if (value.get "_placeholder").isSome then ((value.get "num").bind Value.asU64).map UInt64.toNat else none

/-- The packet announces every binary part, holds them in order, and has one data
element for each part: a JSON part itself, or a placeholder numbered by the binary
parts before it. -/
structure WellCounted (payload : Payload) (event : Option Event) (packet : Packet) : Prop where
  count : packet.attachmentCount.toNat = (binaries payload.parts).length
  attachments : packet.attachments = some (binaries payload.parts)
  data : ∃ vec, packet.data = some (.array ((event.map (fun e => .string e.toString)).toList ++ vec)) ∧
    vec.length = payload.parts.length ∧
    (∀ (i : ℕ) v, payload.parts[i]? = some (RawPayload.json v) → vec[i]? = some v) ∧
    ∀ (i : ℕ) bin, payload.parts[i]? = some (RawPayload.binary bin) → ∃ v, vec[i]? = some v ∧
      placeholderNum v = some (binaries (payload.parts.take i)).length ∧
      (binaries payload.parts)[(binaries (payload.parts.take i)).length]? = some bin

theorem placeholderNum_binaryPlaceHolder {k : ℕ} (h : k < 2^64) : placeholderNum (binaryPlaceHolder k) = some k := by
  have hn : (UInt64.ofNat k).toNat = k := UInt64.toNat_ofNat_of_lt' h
  have hp : placeholderNum (binaryPlaceHolder k) = some (UInt64.ofNat k).toNat := rfl
  rw [hp,hn]

section
variable (payload : Payload) (event : Option Event) (nsp : String) (id : Option UInt64) (isAck : Bool)

theorem buildPacketForPayload_attachmentCount :
    (buildPacketForPayload payload event nsp id isAck).attachmentCount =
      UInt8.ofNat (binaries payload.parts).length := by
  simp only [buildPacketForPayload,encodeData_eq]

theorem buildPacketForPayload_attachments :
    (buildPacketForPayload payload event nsp id isAck).attachments = some (binaries payload.parts) := by
  simp only [buildPacketForPayload,encodeData_eq]

end

/-- The packet built for a payload is well counted up to 255 attachments, and never beyond. -/
theorem build_wellCounted_iff (payload : Payload) (event : Option Event) (nsp : String) (id : Option UInt64)
    (isAck : Bool) : WellCounted payload event (buildPacketForPayload payload event nsp id isAck) ↔
      (binaries payload.parts).length ≤ 255 := by
  constructor
  · intro h
    have hlt := (buildPacketForPayload payload event nsp id isAck).attachmentCount.toNat_lt
    rw [h.count] at hlt
    omega
  · intro h
    refine ⟨?_,buildPacketForPayload_attachments _ _ _ _ _,values 0 payload.parts,?_,values_length 0 _,?_,?_⟩
    · rw [buildPacketForPayload_attachmentCount]
      exact UInt8.toNat_ofNat_of_lt' (show (binaries payload.parts).length < 2^8 by omega)
    · simp only [buildPacketForPayload,encodeData_eq]
    · intro i v hv
      rw [values_getElem?,hv]
      rfl
    · intro i bin hbin
      have hget := binaries_getElem? hbin
      have hlt : (binaries (payload.parts.take i)).length < (binaries payload.parts).length :=
        (List.getElem?_eq_some_iff.mp hget).1
      refine ⟨binaryPlaceHolder (binaries (payload.parts.take i)).length,?_,?_,hget⟩
      · rw [values_getElem?,hbin,Nat.zero_add]
        rfl
      · exact placeholderNum_binaryPlaceHolder (by omega)

theorem build_not_wellCounted :
    ∃ packet, packet = buildPacketForPayload (.multi (List.replicate 256 (.binary []))) (some (.custom "foo")) "/"
        none false ∧
      packet.attachmentCount = 0 ∧ packet.attachments = some (List.replicate 256 []) ∧
      ¬ WellCounted (.multi (List.replicate 256 (.binary []))) (some (.custom "foo")) packet := by
  have hb : binaries (List.replicate 256 (.binary [])) = List.replicate 256 [] := by
    exact List.filterMap_replicate_of_some (show RawPayload.bin (.binary []) = some [] from rfl)
  have hcount := buildPacketForPayload_attachmentCount (.multi (List.replicate 256 (.binary [])))
    (some (.custom "foo")) "/" none false
  have hout := buildPacketForPayload_attachments (.multi (List.replicate 256 (.binary [])))
    (some (.custom "foo")) "/" none false
  rw [Payload.parts,hb] at hcount hout
  rw [List.length_replicate] at hcount
  refine ⟨_,rfl,hcount,hout,?_⟩
  intro h
  have hwrong := h.count
  rw [hcount,Payload.parts,hb,List.length_replicate] at hwrong
  exact absurd hwrong (by decide)

end Built

section Dispatched

def arguments (payload : Option Payload) : List RawPayload := (payload.map Payload.parts).getD []

/-- Both handlers report the event of that name, with one and the same payload that
is made of the arguments. -/
def AgreeOn (s : String) (args : List Value) (packet binary : Packet) : Prop :=
  ∃ payload, arguments payload = args.map RawPayload.json ∧
    packet.eventArm = some ⟨Event.fromString s,payload,packet.id⟩ ∧
    binary.eventArm = some ⟨Event.fromString s,payload,binary.id⟩

theorem mapM_decodeBinaryPart_json (attachments : Option (List Bytes)) {args : List Value}
    (h : ∀ v ∈ args, v.get "_placeholder" = none) :
    args.mapM (decodeBinaryPart attachments) = .ok (args.map RawPayload.json) := by
  induction args with
  | nil => rfl
  | cons v args ih =>
    have hv : decodeBinaryPart attachments v = .ok (.json v) := by
      simp [decodeBinaryPart,h v List.mem_cons_self]
    have hrest := ih (fun w hw => h w (List.mem_cons_of_mem _ hw))
    simp only [List.mapM_cons,hv,hrest,bind,Except.bind,pure,Except.pure,List.map_cons]

section
variable (s : String) (args : List Value) (nsp : String) (id : Option UInt64) (count : UInt8)
  (attachments : Option (List Bytes))

/-- An event packet, or a binary one, whose data is the name followed by the arguments. -/
def namedEvent (ptype : PacketType) : Packet :=
  ⟨ptype,nsp,some (.array (.string s :: args)),id,count,attachments⟩

theorem eventArm_event (h : args ≠ []) :
    (namedEvent s args nsp id count attachments .event).eventArm =
      some ⟨Event.fromString s,some (Payload.multi (args.map .json)).normal,id⟩ := by
  rcases args with _ | ⟨v,_ | ⟨w,args⟩⟩
  · exact absurd rfl h
  · rfl
  · rfl

theorem not_agreeOn_alone {binary : Packet} :
    ¬ AgreeOn s [] (namedEvent s [] nsp id count attachments .event) binary := by
  rintro ⟨payload,hpayload,hevent,-⟩
  have halone : (namedEvent s [] nsp id count attachments .event).eventArm =
      some ⟨.message,some (.json (.string s)),id⟩ := rfl
  simp only [halone,Option.some.injEq,Dispatch.mk.injEq] at hevent
  obtain ⟨-,rfl,-⟩ := hevent
  cases hpayload

theorem eventArm_binaryEvent (h : ∀ v ∈ args, v.get "_placeholder" = none) :
    (namedEvent s args nsp id count attachments .binaryEvent).eventArm =
      some ⟨Event.fromString s,some (Payload.multi (args.map .json)).normal,id⟩ := by
  have hm := mapM_decodeBinaryPart_json attachments h
  have hd : decodeBinary (.string s :: args) attachments true =
      .ok (Payload.multi (args.map .json)).normal := by
    unfold decodeBinary Payload.normal Payload.parts
    simp only [↓reduceIte,List.tail_cons,hm]
    rcases args with _ | ⟨v,_ | ⟨w,args⟩⟩ <;> rfl
  simp [namedEvent,Packet.eventArm,handleBinaryEvent,decodeBinaryPayload,hd]

theorem arguments_normal : arguments (some (Payload.multi (args.map .json)).normal) = args.map .json := by
  rcases args with _ | ⟨v,_ | ⟨w,args⟩⟩ <;> rfl

end

/-- The two handlers agree on every array that has an argument, and on no other. -/
theorem handlers_agree_iff (s : String) (args : List Value) (hargs : ∀ v ∈ args, v.get "_placeholder" = none)
    (nsp nsp' : String) (id id' : Option UInt64) (count count' : UInt8)
    (attachments attachments' : Option (List Bytes)) :
    AgreeOn s args (namedEvent s args nsp id count attachments .event)
      (namedEvent s args nsp' id' count' attachments' .binaryEvent) ↔ args ≠ [] := by
  constructor
  · rintro h rfl
    exact not_agreeOn_alone s nsp id count attachments h
  · intro h
    exact ⟨_,arguments_normal args,eventArm_event s args nsp id count attachments h,
      eventArm_binaryEvent s args nsp' id' count' attachments' hargs⟩

theorem handlers_agree_on_two :
    AgreeOn "foo" [.number (.posInt 7),.null] (namedEvent "foo" [.number (.posInt 7),.null] "/" none 0 none .event)
      (namedEvent "foo" [.number (.posInt 7),.null] "/" none 1 (some [[1]]) .binaryEvent) := by
  apply (handlers_agree_iff "foo" [.number (.posInt 7),.null] ?_ "/" "/" none none 0 1 none (some [[1]])).mpr
  · simp
  · intro v hv
    simp only [List.mem_cons,List.not_mem_nil,or_false] at hv
    rcases hv with rfl | rfl <;> rfl

/-- The event without arguments: the text handler calls the message callback with the name. -/
theorem handlers_disagree_alone :
    (namedEvent "foo" [] "/" none 0 none .event).eventArm = some ⟨.message,some (.json (.string "foo")),none⟩ ∧
    (namedEvent "foo" [] "/" none 1 (some [[1]]) .binaryEvent).eventArm =
      some ⟨.custom "foo",some (.multi []),none⟩ ∧
    ¬ AgreeOn "foo" [] (namedEvent "foo" [] "/" none 0 none .event)
      (namedEvent "foo" [] "/" none 1 (some [[1]]) .binaryEvent) := by
  exact ⟨rfl,rfl,not_agreeOn_alone "foo" "/" none 0 none⟩

end Dispatched

end SocketIox.SocketIo
