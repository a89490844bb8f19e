import SocketIox.Wire.Text

/-! # The standard padded base-64 alphabet and codec

Three bytes become four letters. The last group is padded to four letters, and
its decoder refuses letters whose unused bits are not zero, so that decoding
accepts exactly the canonical texts.
-/
namespace Wire.Base64

def pad : UInt8 := 61

def letter (i : ℕ) : UInt8 :=
  if i < 26 then UInt8.ofNat (65+i)
  else if i < 52 then UInt8.ofNat (71+i)
  else if i < 62 then UInt8.ofNat (i-4)
  else if i = 62 then 43 else 47

def value (c : UInt8) : Option ℕ :=
  if 65 ≤ c.toNat ∧ c.toNat ≤ 90 then some (c.toNat-65)
  else if 97 ≤ c.toNat ∧ c.toNat ≤ 122 then some (c.toNat-71)
  else if 48 ≤ c.toNat ∧ c.toNat ≤ 57 then some (c.toNat+4)
  else if c = 43 then some 62
  else if c = 47 then some 63
  else none

def InAlphabet (c : UInt8) : Prop := (value c).isSome = true ∨ c = pad

private theorem inAlphabet_table : ∀ n < 256, (value (UInt8.ofNat n)).isSome = true ∨ UInt8.ofNat n = pad →
    n < 128 ∧ Char.ofNat n ≠ '-' := by
  decide +kernel

theorem InAlphabet.ascii {c : UInt8} (h : InAlphabet c) : c.toNat < 128 ∧ Char.ofNat c.toNat ≠ '-' := by
  have ht := inAlphabet_table c.toNat c.toNat_lt
  rw [UInt8.ofNat_toNat] at ht
  exact ht h

def encode : Bytes → Bytes
  | [] => []
  | [a] => [letter (a.toNat/4), letter (a.toNat%4*16), pad, pad]
  | [a,b] => [letter (a.toNat/4), letter (a.toNat%4*16+b.toNat/16), letter (b.toNat%16*4), pad]
  | a :: b :: c :: rest =>
    letter (a.toNat/4) :: letter (a.toNat%4*16+b.toNat/16) ::
      letter (b.toNat%16*4+c.toNat/64) :: letter (c.toNat%64) :: encode rest

def decodeTwo (w x : UInt8) : Option Bytes := do
  let i ← value w
  let j ← value x
  if j%16 = 0 then some [UInt8.ofNat (i*4+j/16)] else none

def decodeThree (w x y : UInt8) : Option Bytes := do
  let i ← value w
  let j ← value x
  let k ← value y
  if k%4 = 0 then some [UInt8.ofNat (i*4+j/16), UInt8.ofNat (j%16*16+k/4)] else none

def decodeFour (w x y z : UInt8) : Option Bytes := do
  let i ← value w
  let j ← value x
  let k ← value y
  let l ← value z
  some [UInt8.ofNat (i*4+j/16), UInt8.ofNat (j%16*16+k/4), UInt8.ofNat (k%4*64+l)]

def decode : Bytes → Option Bytes
  | [] => some []
  | w :: x :: y :: z :: rest =>
    if rest = [] ∧ z = pad then
      if y = pad then decodeTwo w x else decodeThree w x y
    else do
      let group ← decodeFour w x y z
      let tail ← decode rest
      some (group ++ tail)
  | _ => none

theorem value_letter : ∀ i < 64, value (letter i) = some i := by decide

theorem letter_ne_pad : ∀ i < 64, letter i ≠ pad := by decide

theorem letter_inAlphabet {i : ℕ} (h : i < 64) : InAlphabet (letter i) := by
  left
  simp [value_letter i h]

theorem inAlphabet_of_mem_encode {bytes : Bytes} {c : UInt8} (h : c ∈ encode bytes) : InAlphabet c := by
  induction bytes using encode.induct with
  | case1 => simp [encode] at h
  | case2 a =>
    have ha := a.toNat_lt
    simp only [encode,List.mem_cons,List.not_mem_nil,or_false] at h
    rcases h with rfl | rfl | rfl | rfl
    · exact letter_inAlphabet (by omega)
    · exact letter_inAlphabet (by omega)
    · exact Or.inr rfl
    · exact Or.inr rfl
  | case3 a b =>
    have ha := a.toNat_lt
    have hb := b.toNat_lt
    simp only [encode,List.mem_cons,List.not_mem_nil,or_false] at h
    rcases h with rfl | rfl | rfl | rfl
    · exact letter_inAlphabet (by omega)
    · exact letter_inAlphabet (by omega)
    · exact letter_inAlphabet (by omega)
    · exact Or.inr rfl
  | case4 a b c rest ih =>
    have ha := a.toNat_lt
    have hb := b.toNat_lt
    have hc := c.toNat_lt
    simp only [encode,List.mem_cons] at h
    rcases h with rfl | rfl | rfl | rfl | h
    · exact letter_inAlphabet (by omega)
    · exact letter_inAlphabet (by omega)
    · exact letter_inAlphabet (by omega)
    · exact letter_inAlphabet (by omega)
    · exact ih h

/-- The first letter of a nonempty encoding depends on the first byte alone. -/
theorem head_encode (a : UInt8) (rest : Bytes) : (encode (a :: rest)).head? = some (letter (a.toNat/4)) := by
  match rest with
  | [] => rfl
  | [_] => rfl
  | _ :: _ :: _ => rfl

private theorem ofNat_eq {n : ℕ} {a : UInt8} (h : n = a.toNat) : UInt8.ofNat n = a := by
  rw [h,UInt8.ofNat_toNat]

theorem decode_encode (bytes : Bytes) : decode (encode bytes) = some bytes := by
  induction bytes using encode.induct with
  | case1 => rfl
  | case2 a =>
    have ha := a.toNat_lt
    have hi := value_letter (a.toNat/4) (by omega)
    have hj := value_letter (a.toNat%4*16) (by omega)
    have he := ofNat_eq (a := a) (show a.toNat/4*4+a.toNat%4*16/16 = a.toNat by omega)
    simp only [encode,decode,decodeTwo,hi,hj,he,and_self,↓reduceIte,Option.bind_eq_bind,Option.bind_some]
    rw [if_pos (by omega)]
  | case3 a b =>
    have ha := a.toNat_lt
    have hb := b.toNat_lt
    have hi := value_letter (a.toNat/4) (by omega)
    have hj := value_letter (a.toNat%4*16+b.toNat/16) (by omega)
    have hk := value_letter (b.toNat%16*4) (by omega)
    have hp := letter_ne_pad (b.toNat%16*4) (by omega)
    have he := ofNat_eq (a := a) (show a.toNat/4*4+(a.toNat%4*16+b.toNat/16)/16 = a.toNat by omega)
    have hf := ofNat_eq (a := b)
      (show (a.toNat%4*16+b.toNat/16)%16*16+b.toNat%16*4/4 = b.toNat by omega)
    simp only [encode,decode,decodeThree,hi,hj,hk,hp,he,hf,and_self,↓reduceIte,Option.bind_eq_bind,
      Option.bind_some]
    rw [if_pos (by omega)]
  | case4 a b c rest ih =>
    have ha := a.toNat_lt
    have hb := b.toNat_lt
    have hc := c.toNat_lt
    have hi := value_letter (a.toNat/4) (by omega)
    have hj := value_letter (a.toNat%4*16+b.toNat/16) (by omega)
    have hk := value_letter (b.toNat%16*4+c.toNat/64) (by omega)
    have hl := value_letter (c.toNat%64) (by omega)
    have hp := letter_ne_pad (c.toNat%64) (by omega)
    have he := ofNat_eq (a := a) (show a.toNat/4*4+(a.toNat%4*16+b.toNat/16)/16 = a.toNat by omega)
    have hf := ofNat_eq (a := b)
      (show (a.toNat%4*16+b.toNat/16)%16*16+(b.toNat%16*4+c.toNat/64)/4 = b.toNat by omega)
    have hg := ofNat_eq (a := c)
      (show (b.toNat%16*4+c.toNat/64)%4*64+c.toNat%64 = c.toNat by omega)
    simp only [encode,decode,decodeFour,hi,hj,hk,hl,hp,he,hf,hg,and_false,↓reduceIte,
      Option.bind_eq_bind,Option.bind_some,ih]
    rfl

private theorem letter_of_value_table : ∀ n < 256, ∀ i ∈ value (UInt8.ofNat n),
    i < 64 ∧ letter i = UInt8.ofNat n := by decide +kernel

theorem letter_of_value {c : UInt8} {i : ℕ} (h : value c = some i) : i < 64 ∧ letter i = c := by
  have ht := letter_of_value_table c.toNat c.toNat_lt
  rw [UInt8.ofNat_toNat] at ht
  exact ht i h

theorem encode_of_decodeTwo {w x : UInt8} {bytes : Bytes} (h : decodeTwo w x = some bytes) :
    encode bytes = [w,x,pad,pad] := by
  simp only [decodeTwo,Option.bind_eq_bind,Option.bind_eq_some_iff] at h
  obtain ⟨i,hi,j,hj,hb⟩ := h
  obtain ⟨hi64,rfl⟩ := letter_of_value hi
  obtain ⟨hj64,rfl⟩ := letter_of_value hj
  split at hb
  · cases hb
    have ha := UInt8.toNat_ofNat_of_lt' (show i*4+j/16 < 256 by omega)
    simp only [encode,ha]
    rw [show (i*4+j/16)/4 = i by omega,show (i*4+j/16)%4*16 = j by omega]
  · cases hb

theorem encode_of_decodeThree {w x y : UInt8} {bytes : Bytes} (h : decodeThree w x y = some bytes) :
    encode bytes = [w,x,y,pad] := by
  simp only [decodeThree,Option.bind_eq_bind,Option.bind_eq_some_iff] at h
  obtain ⟨i,hi,j,hj,k,hk,hb⟩ := h
  obtain ⟨hi64,rfl⟩ := letter_of_value hi
  obtain ⟨hj64,rfl⟩ := letter_of_value hj
  obtain ⟨hk64,rfl⟩ := letter_of_value hk
  split at hb
  · cases hb
    have ha := UInt8.toNat_ofNat_of_lt' (show i*4+j/16 < 256 by omega)
    have hb := UInt8.toNat_ofNat_of_lt' (show j%16*16+k/4 < 256 by omega)
    simp only [encode,ha,hb]
    rw [show (i*4+j/16)/4 = i by omega,show (i*4+j/16)%4*16+(j%16*16+k/4)/16 = j by omega,
      show (j%16*16+k/4)%16*4 = k by omega]
  · cases hb

theorem encode_of_decodeFour {w x y z : UInt8} {group : Bytes} (h : decodeFour w x y z = some group)
    (tail : Bytes) : encode (group ++ tail) = w :: x :: y :: z :: encode tail := by
  simp only [decodeFour,Option.bind_eq_bind,Option.bind_eq_some_iff] at h
  obtain ⟨i,hi,j,hj,k,hk,l,hl,hb⟩ := h
  obtain ⟨hi64,rfl⟩ := letter_of_value hi
  obtain ⟨hj64,rfl⟩ := letter_of_value hj
  obtain ⟨hk64,rfl⟩ := letter_of_value hk
  obtain ⟨hl64,rfl⟩ := letter_of_value hl
  cases hb
  have ha := UInt8.toNat_ofNat_of_lt' (show i*4+j/16 < 256 by omega)
  have hb := UInt8.toNat_ofNat_of_lt' (show j%16*16+k/4 < 256 by omega)
  have hc := UInt8.toNat_ofNat_of_lt' (show k%4*64+l < 256 by omega)
  simp only [List.cons_append,List.nil_append,encode,ha,hb,hc]
  rw [show (i*4+j/16)/4 = i by omega,show (i*4+j/16)%4*16+(j%16*16+k/4)/16 = j by omega,
    show (j%16*16+k/4)%16*4+(k%4*64+l)/64 = k by omega,show (k%4*64+l)%64 = l by omega]

/-- A text that the decoder accepts is the encoding of what it decodes to. -/
theorem encode_of_decode {text bytes : Bytes} (h : decode text = some bytes) : encode bytes = text := by
  induction text using decode.induct generalizing bytes with
  | case1 =>
    cases h
    simp only [encode]
  | case2 w x z rest hlast =>
    obtain ⟨rfl,rfl⟩ := hlast
    exact encode_of_decodeTwo (by simpa [decode] using h)
  | case3 w x y z rest hlast hy =>
    obtain ⟨rfl,rfl⟩ := hlast
    exact encode_of_decodeThree (by simpa [decode,hy] using h)
  | case4 w x y z rest hlast ih =>
    simp only [decode,hlast,↓reduceIte,Option.bind_eq_bind,Option.bind_eq_some_iff] at h
    obtain ⟨group,hg,tail,ht,he⟩ := h
    cases he
    rw [encode_of_decodeFour hg,ih ht]
  | case5 text hnil hgroup =>
    rw [decode] at h
    · cases h
    · exact hnil
    · exact hgroup

example : decode (encode [72,101,108,108,111]) = some [72,101,108,108,111] := by decide

end Wire.Base64
