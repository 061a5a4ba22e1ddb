import HeaderBindings.Offsets.Access

/-!
Going through the bytes of a text and through its characters. A mark is an ASCII character, which is
written as one byte that no other character has among its own, so a scan that knows only the bytes of
marks finds every mark and nothing else. The bytes of any other character are passed over one by one,
also when the scan starts within the character.
-/

namespace HeaderBindings.Offsets
open String

/-! ### Characters -/

theorem utf8Size_of_ascii {c : Char} (h : c.toNat < 0x80) : c.utf8Size = 1 := by
  rw [Char.utf8Size_eq_one_iff, UInt32.le_iff_toNat_le]
  exact Nat.le_of_lt_succ h

theorem utf8EncodeChar_of_ascii {c : Char} (h : c.toNat < 0x80) :
    utf8EncodeChar c = [c.toUInt8] := utf8EncodeChar_eq_singleton (utf8Size_of_ascii h)

theorem toNat_toUInt8 {c : Char} (h : c.toNat < 0x80) : c.toUInt8.toNat = c.toNat := by
  have hbyte : c.toUInt8.toNat = c.toNat % 256 := UInt32.toNat_toUInt8 c.val
  rw [hbyte, Nat.mod_eq_of_lt (by omega)]

/-- The bytes of a character that is not written as one byte. -/
theorem high_of_mem_utf8EncodeChar {c : Char} {byte : UInt8} (h : c.utf8Size ≠ 1)
    (hmem : byte ∈ utf8EncodeChar c) : 0x80 ≤ byte.toNat := by
  have hor (a b : UInt8) (hb : 0x80 ≤ b.toNat) : 0x80 ≤ (a ||| b).toNat := by
    rw [UInt8.toNat_or]
    exact Nat.le_trans hb Nat.right_le_or
  rcases c.utf8Size_eq with hsize | hsize | hsize | hsize
  · exact absurd hsize h
  · rw [utf8EncodeChar_eq_cons_cons hsize] at hmem
    simp only [List.mem_cons, List.not_mem_nil, or_false] at hmem
    rcases hmem with rfl | rfl <;> exact hor _ _ (by decide)
  · rw [utf8EncodeChar_eq_cons_cons_cons hsize] at hmem
    simp only [List.mem_cons, List.not_mem_nil, or_false] at hmem
    rcases hmem with rfl | rfl | rfl <;> exact hor _ _ (by decide)
  · rw [utf8EncodeChar_eq_cons_cons_cons_cons hsize] at hmem
    simp only [List.mem_cons, List.not_mem_nil, or_false] at hmem
    rcases hmem with rfl | rfl | rfl | rfl <;> exact hor _ _ (by decide)

/-- A mark is found by its byte. -/
theorem toUInt8_mem_utf8EncodeChar_iff {mark c : Char} (hmark : mark.toNat < 0x80) :
    mark.toUInt8 ∈ utf8EncodeChar c ↔ c = mark := by
  constructor
  · intro hmem
    by_cases hsize : c.utf8Size = 1
    · have hc : c.toNat < 0x80 :=
        Nat.lt_succ_of_le (UInt32.le_iff_toNat_le.mp (Char.utf8Size_eq_one_iff.mp hsize))
      rw [utf8EncodeChar_of_ascii hc, List.mem_singleton] at hmem
      have hcode := congrArg UInt8.toNat hmem
      rw [toNat_toUInt8 hmark, toNat_toUInt8 hc] at hcode
      exact Char.toNat_inj.mp hcode.symm
    · have hhigh := high_of_mem_utf8EncodeChar hsize hmem
      rw [toNat_toUInt8 hmark] at hhigh
      omega
  · rintro rfl
    rw [utf8EncodeChar_of_ascii hmark]
    exact List.mem_singleton_self _

theorem ne_of_mem_utf8EncodeChar {mark c : Char} {byte : UInt8} (hmark : mark.toNat < 0x80)
    (hne : c ≠ mark) (hmem : byte ∈ utf8EncodeChar c) : byte ≠ mark.toUInt8 := by
  rintro rfl
  exact hne ((toUInt8_mem_utf8EncodeChar_iff hmark).mp hmem)

theorem toUInt8_ne_of_ascii {mark c : Char} (hmark : mark.toNat < 0x80) (hc : c.toNat < 0x80)
    (hne : c ≠ mark) : c.toUInt8 ≠ mark.toUInt8 :=
  ne_of_mem_utf8EncodeChar hmark hne ((toUInt8_mem_utf8EncodeChar_iff hc).mpr rfl)

theorem ne_of_high {mark : Char} {byte : UInt8} (hmark : mark.toNat < 0x80)
    (hhigh : 0x80 ≤ byte.toNat) : byte ≠ mark.toUInt8 := by
  rintro rfl
  rw [toNat_toUInt8 hmark] at hhigh
  omega

/-! ### Bytes of a text -/

theorem size_snoc_of_ascii {c : Char} (h : c.toNat < 0x80) (before : List Char) :
    size (before ++ [c]) = size before + 1 := by
  rw [size_append, size_cons, utf8Size_of_ascii h, size_nil]

section
variable {text before rest : List Char} {c : Char}

theorem exists_element (htext : text = before ++ c :: rest) {k : Nat} (hk : k < c.utf8Size) :
    ∃ byte, element (bytesOf text) (size before + k) = .ok byte ∧
      (utf8EncodeChar c)[k]? = some byte := by
  have hbytes : (bytesOf text)[size before + k]? = (utf8EncodeChar c)[k]? := by
    rw [htext, bytesOf_append, bytesOf_cons, ← length_bytesOf,
      List.getElem?_append_right (by omega), Nat.add_sub_cancel_left, List.getElem?_append_left]
    rwa [length_utf8EncodeChar]
  have hlt : k < (utf8EncodeChar c).length := by rwa [length_utf8EncodeChar]
  have hbyte : (utf8EncodeChar c)[k]? = some (utf8EncodeChar c)[k] := List.getElem?_eq_getElem hlt
  refine ⟨_, ?_, hbyte⟩
  rw [element, hbytes, hbyte]

theorem element_of_ascii (h : c.toNat < 0x80) (htext : text = before ++ c :: rest) :
    element (bytesOf text) (size before) = .ok c.toUInt8 := by
  obtain ⟨byte, helement, hbyte⟩ := exists_element htext c.utf8Size_pos
  rw [utf8EncodeChar_of_ascii h] at hbyte
  cases hbyte
  exact helement

end

/-- The byte behind a text is that of a mark when the mark stands there. -/
theorem getElem?_bytesOf_eq_iff {mark : Char} (hmark : mark.toNat < 0x80)
    (before rest : List Char) :
    (bytesOf (before ++ rest))[size before]? = some mark.toUInt8 ↔ rest.head? = some mark := by
  cases rest with
  | nil =>
      have hnone : (bytesOf before)[size before]? = none := List.getElem?_eq_none (Nat.le_refl _)
      rw [List.append_nil, hnone]
      simp
  | cons c rest =>
      obtain ⟨byte, helement, hbyte⟩ := exists_element (rfl : before ++ c :: rest = _) c.utf8Size_pos
      have hmem : byte ∈ utf8EncodeChar c := List.mem_of_getElem? hbyte
      obtain ⟨hlt, hget⟩ := element_eq_ok_iff.mp helement
      have hfirst : (bytesOf (before ++ c :: rest))[size before]? = some byte :=
        List.getElem?_eq_some_iff.mpr ⟨hlt, hget⟩
      rw [hfirst, List.head?_cons, Option.some.injEq, Option.some.injEq]
      constructor
      · rintro rfl
        exact (toUInt8_mem_utf8EncodeChar_iff hmark).mp hmem
      · rintro rfl
        rw [utf8EncodeChar_of_ascii hmark] at hmem
        exact List.mem_singleton.mp hmem

theorem slice_middle (before inner after : List Char) :
    slice (before ++ (inner ++ after)) (size before) (size (before ++ inner)) = .ok inner :=
  slice_eq_ok_iff.mpr ⟨before, after, (List.append_assoc ..).symm, rfl, rfl⟩

theorem slice_end (before inner : List Char) :
    slice (before ++ inner) (size before) (size (before ++ inner)) = .ok inner := by
  have hslice := slice_middle before inner []
  rwa [List.append_nil] at hslice

/-! ### Rounds of a loop -/

section
variable {σ ρ : Type} {turn : Nat → σ → Checked (Turn σ ρ)} {ended : σ → Checked ρ}
  {state next : σ} {text before rest : List Char} {c : Char}

theorem size_snoc_le (htext : text = before ++ c :: rest) : size before + c.utf8Size ≤ size text := by
  rw [htext, size_append, size_cons]
  omega

theorem size_lt (htext : text = before ++ c :: rest) : size before < size text := by
  have hpos := c.utf8Size_pos
  have hle := size_snoc_le htext
  omega

/-- A character is passed over when each of its bytes is. -/
theorem loop_char (htext : text = before ++ c :: rest)
    (hturn : ∀ offset byte, byte ∈ utf8EncodeChar c → element (bytesOf text) offset = .ok byte →
      turn offset state = .ok (.next (offset + 1) state)) :
    loop (size text) turn ended (size before) state
      = loop (size text) turn ended (size (before ++ [c])) state := by
  have hsize : size (before ++ [c]) = size before + c.utf8Size := by
    rw [size_append, size_cons, size_nil, Nat.add_zero]
  rw [hsize]
  refine loop_add _ (size_snoc_le htext) fun k hk => ?_
  obtain ⟨byte, helement, hbyte⟩ := exists_element htext hk
  exact hturn _ byte (List.mem_of_getElem? hbyte) helement

/-- A character that a scan comes upon within is passed over when high bytes are. -/
theorem loop_tail (htext : text = before ++ c :: rest)
    (hturn : ∀ offset byte, 0x80 ≤ byte.toNat → element (bytesOf text) offset = .ok byte →
      turn offset state = .ok (.next (offset + 1) state)) :
    loop (size text) turn ended (size before + 1) state
      = loop (size text) turn ended (size (before ++ [c])) state := by
  have hpos := c.utf8Size_pos
  have hle := size_snoc_le htext
  have hsize : size (before ++ [c]) = size before + 1 + (c.utf8Size - 1) := by
    rw [size_append, size_cons, size_nil]
    omega
  rw [hsize]
  refine loop_add _ (by omega) fun k hk => ?_
  obtain ⟨byte, helement, hbyte⟩ := exists_element htext (show 1 + k < c.utf8Size by omega)
  rw [← Nat.add_assoc] at helement
  have hhigh : 0x80 ≤ byte.toNat :=
    high_of_mem_utf8EncodeChar (by omega) (List.mem_of_getElem? hbyte)
  exact hturn _ byte hhigh helement

/-- A mark takes one round. -/
theorem loop_mark (hmark : c.toNat < 0x80) (htext : text = before ++ c :: rest)
    (hturn : element (bytesOf text) (size before) = .ok c.toUInt8 →
      turn (size before) state = .ok (.next (size before + 1) next)) :
    loop (size text) turn ended (size before) state
      = loop (size text) turn ended (size (before ++ [c])) next := by
  rw [size_snoc_of_ascii hmark]
  exact loop_of_next (size_lt htext) (hturn (element_of_ascii hmark htext)) (Nat.lt_succ_self _)

end

end HeaderBindings.Offsets
