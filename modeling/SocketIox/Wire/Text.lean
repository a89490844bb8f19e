import Mathlib.Data.List.Basic
import Mathlib.Tactic.Common

/-! # UTF-8 text, lower case and decimal numerals

Texts are lists of characters and byte strings are lists of bytes. The UTF-8
codec is the one of the standard library read on lists, lower case is that of
ASCII letters, and numerals are the standard decimal ones together with a bounded
unsigned parser which admits one leading plus sign.
-/
namespace Wire

abbrev Bytes := List UInt8

def encodeUtf8 (text : List Char) : Bytes := text.flatMap String.utf8EncodeChar

def decodeUtf8 (bytes : Bytes) : Option (List Char) :=
  bytes.toByteArray.utf8Decode?.map Array.toList

@[simp] theorem decodeUtf8_encodeUtf8 (text : List Char) : decodeUtf8 (encodeUtf8 text) = some text := by
  have h : (encodeUtf8 text).toByteArray = text.utf8Encode := rfl
  simp [decodeUtf8,h]

theorem encodeUtf8_inj {xs ys : List Char} : encodeUtf8 xs = encodeUtf8 ys ↔ xs = ys := by
  constructor
  · intro h
    have hd := decodeUtf8_encodeUtf8 xs
    rw [h,decodeUtf8_encodeUtf8] at hd
    exact (Option.some.inj hd).symm
  · exact congrArg encodeUtf8

theorem encodeUtf8_of_decodeUtf8 {bytes : Bytes} {text : List Char} (h : decodeUtf8 bytes = some text) :
    encodeUtf8 text = bytes := by
  obtain ⟨chars,hc,rfl⟩ := Option.map_eq_some_iff.mp h
  have hs : bytes.toByteArray.utf8Decode?.isSome = true := by simp [hc]
  have he := ByteArray.utf8Encode_get_utf8Decode? (b := bytes.toByteArray) (h := hs)
  simp only [hc,Option.get_some] at he
  have hd := congrArg (fun b => b.data.toList) he
  simpa [encodeUtf8,List.utf8Encode] using hd

theorem encodeUtf8_append (xs ys : List Char) : encodeUtf8 (xs ++ ys) = encodeUtf8 xs ++ encodeUtf8 ys := by
  simp [encodeUtf8]

/-- The text of ASCII bytes, one character for each. -/
def asciiText (bytes : Bytes) : List Char := bytes.map (fun b => Char.ofNat b.toNat)

private theorem utf8EncodeChar_ascii : ∀ n < 128, String.utf8EncodeChar (Char.ofNat n) = [UInt8.ofNat n] := by
  decide +kernel

theorem encodeUtf8_asciiText {bytes : Bytes} (h : ∀ b ∈ bytes, b.toNat < 128) :
    encodeUtf8 (asciiText bytes) = bytes := by
  induction bytes with
  | nil => rfl
  | cons b rest ih =>
    have hb := utf8EncodeChar_ascii b.toNat (h b List.mem_cons_self)
    have hrest := ih (fun c hc => h c (List.mem_cons_of_mem b hc))
    simp only [encodeUtf8,asciiText,List.map_cons,List.flatMap_cons,hb,UInt8.ofNat_toNat] at hrest ⊢
    rw [hrest,List.singleton_append]

theorem mem_asciiText {bytes : Bytes} {c : Char} (h : c ∈ asciiText bytes) :
    ∃ b ∈ bytes, Char.ofNat b.toNat = c := List.mem_map.mp h

private theorem utf8EncodeChar_of_lt {c : Char} {b : UInt8} (h : b ∈ String.utf8EncodeChar c) (hb : b.toNat < 128) :
    Char.ofNat b.toNat = c := by
  simp only [String.utf8EncodeChar] at h
  split at h
  · rename_i hv
    rw [List.mem_singleton] at h
    have hval : b.toNat = c.toNat := by
      rw [h,UInt8.toNat_ofNat',Nat.mod_eq_of_lt]
      · rfl
      · omega
    rw [hval,Char.ofNat_toNat]
  · exfalso
    have hbig : 128 ≤ b.toNat := by
      split at h
      · simp only [List.mem_cons,List.not_mem_nil,or_false] at h
        rcases h with rfl | rfl <;> rw [UInt8.toNat_ofNat'] <;> omega
      · split at h
        · simp only [List.mem_cons,List.not_mem_nil,or_false] at h
          rcases h with rfl | rfl | rfl <;> rw [UInt8.toNat_ofNat'] <;> omega
        · simp only [List.mem_cons,List.not_mem_nil,or_false] at h
          rcases h with rfl | rfl | rfl | rfl <;> rw [UInt8.toNat_ofNat'] <;> omega
    omega

/-- An ASCII byte stands in an encoded text only for its own character. -/
theorem not_mem_encodeUtf8 {text : List Char} {b : UInt8} (hb : b.toNat < 128) (h : Char.ofNat b.toNat ∉ text) :
    b ∉ encodeUtf8 text := by
  intro hmem
  obtain ⟨c,hc,hbc⟩ := List.mem_flatMap.mp hmem
  rw [utf8EncodeChar_of_lt hbc hb] at h
  exact h hc

/-- Digits of a natural number, most significant first. -/
abbrev digits (n : ℕ) : List Char := Nat.toDigits 10 n

theorem digits_isDigit {n : ℕ} {c : Char} (h : c ∈ digits n) : c.isDigit = true :=
  Nat.isDigit_of_mem_toDigits (by decide) (by decide) h

theorem not_mem_digits {c : Char} (hc : c.isDigit = false) (n : ℕ) : c ∉ digits n := by
  intro h
  simp [digits_isDigit h] at hc

/-- Unsigned decimal parsing below a limit; one leading plus sign is skipped. -/
def parseUnsigned (limit : ℕ) (text : List Char) : Option ℕ :=
  let body := if text.head? = some '+' then text.tail else text
  if body ≠ [] ∧ body.all Char.isDigit = true ∧ Nat.ofDigitChars 10 body 0 < limit then
    some (Nat.ofDigitChars 10 body 0)
  else none

@[simp] theorem parseUnsigned_nil (limit : ℕ) : parseUnsigned limit [] = none := by
  simp [parseUnsigned]

theorem parseUnsigned_lt {limit n : ℕ} {text : List Char} (h : parseUnsigned limit text = some n) : n < limit := by
  simp only [parseUnsigned,Option.ite_none_right_eq_some,Option.some.injEq] at h
  obtain ⟨⟨-,-,hlt⟩,rfl⟩ := h
  exact hlt

abbrev numeralValue (text : List Char) : ℕ := Nat.ofDigitChars 10 text 0

theorem parseUnsigned_of_isDigit (limit : ℕ) {text : List Char} (hne : text ≠ [])
    (hd : ∀ c ∈ text, c.isDigit = true) :
    parseUnsigned limit text = if numeralValue text < limit then some (numeralValue text) else none := by
  have hhead : text.head? ≠ some '+' := by
    intro he
    exact absurd (hd '+' (List.mem_of_head? he)) (by decide)
  have hall : text.all Char.isDigit = true := List.all_eq_true.mpr hd
  simp [parseUnsigned,hhead,hall,hne]

theorem parseUnsigned_digits (limit : ℕ) {n : ℕ} (h : n < limit) : parseUnsigned limit (digits n) = some n := by
  have hn : numeralValue (digits n) = n := Nat.ofDigitChars_ten_toDigits
  rw [parseUnsigned_of_isDigit limit Nat.toDigits_ne_nil (fun _ => digits_isDigit),hn,if_pos h]

/-- Lower case of a character, as far as the outcome has an ASCII letter: the Kelvin sign is the only other
character that becomes one. -/
def lowerChar (c : Char) : Char := if c = '\u212a' then 'k' else c.toLower

def toLowercase (string : String) : String := String.ofList (string.toList.map lowerChar)

end Wire
