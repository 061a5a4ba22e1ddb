import HeaderBindings.Text.Utf8

/-!
Texts as bytes and back. The bytes of a character are taken for that character, whatever stands
behind them, so decoding the bytes of a text gives the text.
-/

namespace HeaderBindings.Text
open String

/-! ### Characters of several bytes -/

theorem continueChar_cons {code taken least greatest count : Nat} {byte : UInt8}
    (h : least ≤ byte.toNat ∧ byte.toNat ≤ greatest) (rest : List UInt8) :
    continueChar code taken least greatest (count + 1) (byte :: rest)
      = continueChar (code * 64 + (byte.toNat - 0x80)) (taken + 1) 0x80 0xBF count rest := if_pos h

theorem continueChar_zero (code taken least greatest : Nat) (rest : List UInt8) :
    continueChar code taken least greatest 0 rest = .char (Char.ofNat code) taken := rfl

section
variable {code : Nat} {first second third fourth : UInt8}

theorem utf8Head_two (hlow : 0x80 ≤ code) (hhigh : code < 0x800)
    (hfirst : first.toNat = 0xC0 + code / 64) (hsecond : second.toNat = 0x80 + code % 64)
    (rest : List UInt8) : utf8Head first (second :: rest) = .char (Char.ofNat code) 2 := by
  have hrange : secondByteRange first.toNat = some (0x80, 0xBF, 1) := by
    rw [secondByteRange, if_neg (by omega), if_pos (by omega)]
  have hcode : first.toNat % 32 * 64 + (second.toNat - 0x80) = code := by omega
  rw [utf8Head, if_neg (by omega), hrange]
  change continueChar (first.toNat % 32) 1 0x80 0xBF 1 (second :: rest) = _
  rw [continueChar_cons (by omega), hcode, continueChar_zero]

theorem utf8Head_three (hlow : 0x800 ≤ code) (hhigh : code < 0x10000)
    (hvalid : code < 0xD800 ∨ 0xDFFF < code) (hfirst : first.toNat = 0xE0 + code / 4096)
    (hsecond : second.toNat = 0x80 + code / 64 % 64) (hthird : third.toNat = 0x80 + code % 64)
    (rest : List UInt8) :
    utf8Head first (second :: third :: rest) = .char (Char.ofNat code) 3 := by
  obtain ⟨least, greatest, hrange, hin⟩ : ∃ least greatest,
      secondByteRange first.toNat = some (least, greatest, 2) ∧
        least ≤ second.toNat ∧ second.toNat ≤ greatest := by
    rw [secondByteRange, if_neg (by omega), if_neg (by omega)]
    -- The shortest and the surrogate characters are excluded by the range of the second byte.
    by_cases hleast : first.toNat = 0xE0
    · exact ⟨_, _, if_pos hleast, by omega, by omega⟩
    · rw [if_neg hleast]
      by_cases hsurrogate : first.toNat = 0xED
      · exact ⟨_, _, if_pos hsurrogate, by omega, by omega⟩
      · rw [if_neg hsurrogate, if_pos (by omega)]
        exact ⟨_, _, rfl, by omega, by omega⟩
  have hcode : (first.toNat % 16 * 64 + (second.toNat - 0x80)) * 64 + (third.toNat - 0x80)
      = code := by omega
  rw [utf8Head, if_neg (by omega), hrange]
  change continueChar (first.toNat % 16) 1 least greatest 2 (second :: third :: rest) = _
  rw [continueChar_cons hin, continueChar_cons (by omega), hcode, continueChar_zero]

theorem utf8Head_four (hlow : 0x10000 ≤ code) (hhigh : code < 0x110000)
    (hfirst : first.toNat = 0xF0 + code / 262144)
    (hsecond : second.toNat = 0x80 + code / 4096 % 64)
    (hthird : third.toNat = 0x80 + code / 64 % 64) (hfourth : fourth.toNat = 0x80 + code % 64)
    (rest : List UInt8) :
    utf8Head first (second :: third :: fourth :: rest) = .char (Char.ofNat code) 4 := by
  obtain ⟨least, greatest, hrange, hin⟩ : ∃ least greatest,
      secondByteRange first.toNat = some (least, greatest, 3) ∧
        least ≤ second.toNat ∧ second.toNat ≤ greatest := by
    rw [secondByteRange, if_neg (by omega), if_neg (by omega), if_neg (by omega),
      if_neg (by omega), if_neg (by omega)]
    by_cases hleast : first.toNat = 0xF0
    · exact ⟨_, _, if_pos hleast, by omega, by omega⟩
    · rw [if_neg hleast]
      by_cases hmiddle : first.toNat < 0xF4
      · exact ⟨_, _, if_pos hmiddle, by omega, by omega⟩
      · rw [if_neg hmiddle, if_pos (by omega)]
        exact ⟨_, _, rfl, by omega, by omega⟩
  have hcode : ((first.toNat % 8 * 64 + (second.toNat - 0x80)) * 64 + (third.toNat - 0x80)) * 64
      + (fourth.toNat - 0x80) = code := by omega
  rw [utf8Head, if_neg (by omega), hrange]
  change continueChar (first.toNat % 8) 1 least greatest 3 (second :: third :: fourth :: rest) = _
  rw [continueChar_cons hin, continueChar_cons (by omega), continueChar_cons (by omega), hcode,
    continueChar_zero]

end

/-! ### The bytes of a character -/

/-- A byte with the last `k` bits of a number under a mark. -/
theorem toNat_marked (code : UInt32) {mask marker : UInt8} {k d a : Nat} (hk : k ≤ 8)
    (hd : 1 <<< k = d) (hmask : mask.toNat = d - 1) (hmarker : marker.toNat = d * a) :
    (code.toUInt8 &&& mask ||| marker).toNat = d * a + code.toNat % d := by
  subst hd
  rw [Nat.one_shiftLeft] at hmask hmarker ⊢
  have hdvd : 2 ^ k ∣ 256 := Nat.pow_dvd_pow 2 hk
  have hlt : code.toNat % 2 ^ k < 2 ^ k := Nat.mod_lt _ (Nat.two_pow_pos k)
  rw [UInt8.toNat_or, UInt8.toNat_and, hmask, hmarker, Nat.and_two_pow_sub_one_eq_mod,
    UInt32.toNat_toUInt8, Nat.mod_mod_of_dvd _ hdvd, Nat.or_comm, Nat.two_pow_add_eq_or_of_lt hlt]

theorem toNat_continuation (code : UInt32) :
    (code.toUInt8 &&& 63 ||| 128).toNat = 0x80 + code.toNat % 64 :=
  toNat_marked code (k := 6) (a := 2) (by decide) rfl rfl rfl

theorem toNat_shifted (c : Char) {shift : UInt32} {d : Nat} (hshift : shift.toNat < 32)
    (hd : 1 <<< shift.toNat = d) : (c.val >>> shift).toNat = c.toNat / d := by
  rw [UInt32.toNat_shiftRight, Nat.mod_eq_of_lt hshift, Nat.shiftRight_eq_div_pow,
    ← Nat.one_shiftLeft, hd]
  rfl

/-- The bytes of a character are taken for it. -/
theorem exists_utf8Head_utf8EncodeChar (c : Char) (rest : List UInt8) :
    ∃ first others, utf8EncodeChar c = first :: others ∧
      utf8Head first (others ++ rest) = .char c c.utf8Size := by
  have hvalid : c.toNat < 0xD800 ∨ 0xDFFF < c.toNat ∧ c.toNat < 0x110000 := c.valid
  have hself : Char.ofNat c.toNat = c := Char.ofNat_toNat c
  have hlast : (c.val.toUInt8 &&& 63 ||| 128).toNat = 0x80 + c.toNat % 64 :=
    toNat_continuation c.val
  have hmiddle : ((c.val >>> 6).toUInt8 &&& 63 ||| 128).toNat = 0x80 + c.toNat / 64 % 64 := by
    rw [toNat_continuation, toNat_shifted c (d := 64) (by decide) rfl]
  rcases c.utf8Size_eq with hsize | hsize | hsize | hsize
  · have hhigh : c.toNat ≤ 127 := UInt32.le_iff_toNat_le.mp (Char.utf8Size_eq_one_iff.mp hsize)
    have hbyte : c.val.toUInt8.toNat = c.toNat := by
      rw [UInt32.toNat_toUInt8]
      exact Nat.mod_eq_of_lt (show c.toNat < 256 by omega)
    refine ⟨_, _, utf8EncodeChar_eq_singleton hsize, ?_⟩
    rw [utf8Head, hbyte, if_pos (by omega), hself, hsize]
  · obtain ⟨hlow, hhigh⟩ := Char.utf8Size_eq_two_iff.mp hsize
    replace hlow : 127 < c.toNat := UInt32.lt_iff_toNat_lt.mp hlow
    replace hhigh : c.toNat ≤ 2047 := UInt32.le_iff_toNat_le.mp hhigh
    have hfirst : ((c.val >>> 6).toUInt8 &&& 31 ||| 192).toNat = 0xC0 + c.toNat / 64 := by
      rw [toNat_marked _ (k := 5) (d := 32) (a := 6) (by decide) rfl rfl rfl,
        toNat_shifted c (d := 64) (by decide) rfl]
      omega
    refine ⟨_, _, utf8EncodeChar_eq_cons_cons hsize, ?_⟩
    rw [hsize, List.cons_append, utf8Head_two (by omega) (by omega) hfirst hlast, hself]
  · obtain ⟨hlow, hhigh⟩ := Char.utf8Size_eq_three_iff.mp hsize
    replace hlow : 2047 < c.toNat := UInt32.lt_iff_toNat_lt.mp hlow
    replace hhigh : c.toNat ≤ 65535 := UInt32.le_iff_toNat_le.mp hhigh
    have hfirst : ((c.val >>> 12).toUInt8 &&& 15 ||| 224).toNat = 0xE0 + c.toNat / 4096 := by
      rw [toNat_marked _ (k := 4) (d := 16) (a := 14) (by decide) rfl rfl rfl,
        toNat_shifted c (d := 4096) (by decide) rfl]
      omega
    refine ⟨_, _, utf8EncodeChar_eq_cons_cons_cons hsize, ?_⟩
    rw [hsize, List.cons_append, List.cons_append,
      utf8Head_three (by omega) (by omega) (by omega) hfirst hmiddle hlast, hself]
  · have hlow : 65535 < c.toNat := UInt32.lt_iff_toNat_lt.mp (Char.utf8Size_eq_four_iff.mp hsize)
    have hfirst : ((c.val >>> 18).toUInt8 &&& 7 ||| 240).toNat = 0xF0 + c.toNat / 262144 := by
      rw [toNat_marked _ (k := 3) (d := 8) (a := 30) (by decide) rfl rfl rfl,
        toNat_shifted c (d := 262144) (by decide) rfl]
      omega
    have hsecond : ((c.val >>> 12).toUInt8 &&& 63 ||| 128).toNat = 0x80 + c.toNat / 4096 % 64 := by
      rw [toNat_continuation, toNat_shifted c (d := 4096) (by decide) rfl]
    refine ⟨_, _, utf8EncodeChar_eq_cons_cons_cons_cons hsize, ?_⟩
    rw [hsize, List.cons_append, List.cons_append, List.cons_append,
      utf8Head_four (by omega) (by omega) hfirst hsecond hmiddle hlast, hself]

/-! ### Texts -/

/-- A step for each byte is more than enough, since there is one for each character. -/
theorem decodeFrom_flatMap (text : List Char) (done fuel : Nat) (before : List Char)
    (hfuel : text.length ≤ fuel) :
    decodeFrom done before fuel (text.flatMap utf8EncodeChar) = .ok (before.reverse ++ text) := by
  induction text generalizing done fuel before with
  | nil => simp [decodeFrom]
  | cons c text ih =>
      obtain ⟨fuel, rfl⟩ : ∃ other, fuel = other + 1 :=
        Nat.exists_eq_add_one.mpr (Nat.lt_of_lt_of_le (Nat.succ_pos _) hfuel)
      obtain ⟨first, others, hbytes, hhead⟩ :=
        exists_utf8Head_utf8EncodeChar c (text.flatMap utf8EncodeChar)
      have hlength : (first :: others).length = c.utf8Size := by
        rw [← hbytes, length_utf8EncodeChar]
      have hrest : (first :: (others ++ text.flatMap utf8EncodeChar)).drop c.utf8Size
          = text.flatMap utf8EncodeChar := by
        rw [← List.cons_append, ← hlength, List.drop_left]
      rw [List.flatMap_cons, hbytes, List.cons_append, decodeFrom, hhead]
      simp only [hrest]
      rw [ih _ _ _ (Nat.le_of_succ_le_succ hfuel), List.reverse_cons, List.append_assoc,
        List.singleton_append]

theorem encodeUtf8_eq (text : String) : encodeUtf8 text = text.toList.flatMap utf8EncodeChar := by
  have hbytes : text.toUTF8 = (text.toList.flatMap utf8EncodeChar).toByteArray :=
    utf8Encode_toList.symm
  rw [encodeUtf8, hbytes, List.data_toByteArray]

theorem length_le_length_flatMap_utf8EncodeChar (text : List Char) :
    text.length ≤ (text.flatMap utf8EncodeChar).length := by
  induction text with
  | nil => exact Nat.le_refl 0
  | cons c text ih =>
      rw [List.flatMap_cons, List.length_append, length_utf8EncodeChar, List.length_cons]
      have hpos : 0 < c.utf8Size := Char.utf8Size_pos c
      omega

/-- What is written in UTF-8 is read back. -/
theorem decodeUtf8_encodeUtf8 (text : String) : decodeUtf8 (encodeUtf8 text) = .ok text := by
  rw [encodeUtf8_eq, decodeUtf8,
    decodeFrom_flatMap _ _ _ _ (length_le_length_flatMap_utf8EncodeChar text.toList)]
  exact congrArg Except.ok (String.ofList_toList)

end HeaderBindings.Text
