import SocketIox.EngineIo.PacketCodec

/-! # The payload format in both directions

A payload is written packet by packet, each followed by a separator of which the
last one is cut off again. Reading undoes writing for every payload the format can
carry, and writing undoes reading on texts whose segments are in canonical form.
-/
namespace SocketIox.EngineIo
open Wire
variable {base64 : Base64Crate}

theorem Payload.toBytes_eq {packets : Payload} (h : packets ≠ []) :
    Payload.toBytes base64 packets =
      some ([separator].intercalate (packets.map (Packet.toBytes base64))) := by
  unfold Payload.toBytes
  rw [flatMap_terminated separator (Packet.toBytes base64) h]
  simp

/-- A segment that starts with an ASCII type character and, if it is a binary one,
goes on with canonical base-64 text. -/
def CanonicalSegment : Bytes → Prop
  | [] => False
  | first :: data => 48 ≤ first ∧ first ≤ 54 ∨ first = 98 ∧ (Base64.decode data).isSome = true

instance : DecidablePred CanonicalSegment
  | [] => inferInstanceAs (Decidable False)
  | _ :: _ => inferInstanceAs (Decidable (_ ∨ _))

private theorem eq_digit {first raw digit : UInt8} (h : first = raw ∨ first = digit) (hraw : raw < 48)
    (hl : 48 ≤ first) : first = digit := by
  rcases h with rfl | rfl
  · exact absurd hl (UInt8.not_le.mpr hraw)
  · rfl

theorem PacketType.toBytes_of_tryFrom {first : UInt8} {ptype : PacketType}
    (h : PacketType.tryFrom first = .ok ptype) (hl : 48 ≤ first) :
    ptype ≠ .messageBinary ∧ ptype.toBytes = [first] := by
  unfold PacketType.tryFrom at h
  split_ifs at h with h0 h1 h2 h3 h4 h5 h6 <;> cases h
  · rw [eq_digit h0 (by decide) hl]
    decide
  · rw [eq_digit h1 (by decide) hl]
    decide
  · rw [eq_digit h2 (by decide) hl]
    decide
  · rw [eq_digit h3 (by decide) hl]
    decide
  · rw [eq_digit h4 (by decide) hl]
    decide
  · rw [eq_digit h5 (by decide) hl]
    decide
  · rw [eq_digit h6 (by decide) hl]
    decide

theorem Packet.toBytes_of_tryFrom (hb : base64.Canonical) {segment : Bytes} {packet : Packet}
    (hc : CanonicalSegment segment) (h : Packet.tryFrom base64 segment = .ok packet) :
    packet.toBytes base64 = segment := by
  cases segment with
  | nil => exact absurd hc (fun h => h)
  | cons first data =>
    rcases hc with ⟨hl,hu⟩ | ⟨rfl,hcanonical⟩
    · have hf : (first == 98) = false := by
        apply beq_eq_false_iff_ne.mpr
        rintro rfl
        exact absurd hu (by decide)
      cases ht : PacketType.tryFrom first with
      | error e => simp [Packet.tryFrom,hf,ht,bind,Except.bind] at h
      | ok ptype =>
        obtain ⟨hne,hbytes⟩ := PacketType.toBytes_of_tryFrom ht hl
        simp only [Packet.tryFrom,hf,ht,Bool.false_eq_true,↓reduceIte,bind,Except.bind] at h
        split at h
        · cases h
        · cases h
          rw [Packet.toBytes_text base64 hne,hbytes,List.singleton_append]
    · simp only [Packet.tryFrom,beq_self_eq_true,↓reduceIte,bind,Except.bind,pure,Except.pure] at h
      cases hd : base64.decode data with
      | error e => simp [hd] at h
      | ok decoded =>
        simp only [hd,reduceCtorEq,and_false,↓reduceIte,Except.ok.injEq] at h
        subst h
        simp [Packet.toBytes,PacketType.toBytes,hb.encode_decode data decoded hcanonical hd]

/-- Decoding undoes encoding, and encoding undoes decoding on canonical payloads. -/
theorem payload_round_trip (base64 : Base64Crate) (hb : base64.Canonical) :
    (∀ packets : Payload, packets ≠ [] → (∀ packet ∈ packets, packet.Separable) →
      ∃ bytes, Payload.toBytes base64 packets = some bytes ∧ Payload.tryFrom base64 bytes = .ok packets) ∧
    (∀ (bytes : Bytes) (packets : Payload), Payload.tryFrom base64 bytes = .ok packets →
      (∀ segment ∈ bytes.splitOn separator, CanonicalSegment segment) →
        Payload.toBytes base64 packets = some bytes) := by
  constructor
  · intro packets hne hs
    refine ⟨_,Payload.toBytes_eq hne,?_⟩
    apply (Payload.tryFrom_intercalate_iff base64 hne ?_).mpr
    · intro packet hp
      exact Packet.tryFrom_toBytes hb.toStandard (hs packet hp)
    · intro packet hp
      exact Packet.separator_not_mem hb.toStandard (hs packet hp)
  · intro bytes packets h hc
    have hread := (Payload.tryFrom_eq_ok_iff base64).mp h
    have hmap : packets.map (Packet.toBytes base64) = bytes.splitOn separator :=
      map_eq_of_forall₂ hread (fun segment hs _ ht => Packet.toBytes_of_tryFrom hb (hc segment hs) ht)
    rw [Payload.toBytes_eq (Payload.tryFrom_ne_nil base64 h),hmap,List.intercalate_splitOn]

theorem payload_round_trip_mixed :
    (∃ bytes, Payload.toBytes rfc4648 [⟨.message,[104,105]⟩,⟨.messageBinary,[]⟩,⟨.ping,[]⟩] = some bytes ∧
      Payload.tryFrom rfc4648 bytes = .ok [⟨.message,[104,105]⟩,⟨.messageBinary,[]⟩,⟨.ping,[]⟩]) ∧
    Payload.toBytes rfc4648 [⟨.message,[104,105]⟩,⟨.messageBinary,[7]⟩] =
      some [52,104,105,0x1e,98,66,119,61,61] := by
  obtain ⟨hdecode,hencode⟩ := payload_round_trip rfc4648 rfc4648_canonical
  constructor
  · apply hdecode _ (List.cons_ne_nil _ _)
    intro packet hp
    simp only [List.mem_cons,List.not_mem_nil,or_false] at hp
    rcases hp with rfl | rfl | rfl <;> unfold Packet.Separable <;> decide
  · exact hencode _ _ (by decide +kernel) (by decide +kernel)

end SocketIox.EngineIo
