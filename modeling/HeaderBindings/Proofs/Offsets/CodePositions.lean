import HeaderBindings.Proofs.Offsets.Groups
import Mathlib.Algebra.Ring.Parity
import Mathlib.Data.List.DropRight

/-!
Positions of code in any bytes, said without a scan: positions in front of which all literals are
closed, where a literal goes on to the first equal quote with an even number of backslashes in front
of it. The literals in front of a position can be told apart in one way only, so the state of a scan
decides whether a position is one of code. A position is balanced if as many right delimiters as
left ones stand in code up to it.
-/

namespace HeaderBindings.Offsets
open Source

/-! ### Literals -/

/-- The number of backslashes that some bytes end with. -/
def trailingBackslashes (bytes : List UInt8) : Nat :=
  (bytes.rtakeWhile (· == '\\'.toUInt8)).length

theorem trailingBackslashes_concat (front : List UInt8) (byte : UInt8) :
    trailingBackslashes (front ++ [byte])
      = if byte = '\\'.toUInt8 then trailingBackslashes front + 1 else 0 := by
  rw [trailingBackslashes, List.rtakeWhile_concat, trailingBackslashes]
  by_cases hbyte : byte = '\\'.toUInt8 <;> simp [hbyte]

/-- No quote in the content of a literal closes it: each has an odd number of backslashes directly
in front of it. -/
def KeepsOpen (quote : UInt8) (content : List UInt8) : Prop :=
  ∀ front rest, content = front ++ quote :: rest → Odd (trailingBackslashes front)

theorem keepsOpen_nil (quote : UInt8) : KeepsOpen quote [] := by
  intro front rest h
  simp at h

theorem KeepsOpen.of_append {quote : UInt8} {content rest : List UInt8}
    (h : KeepsOpen quote (content ++ rest)) : KeepsOpen quote content := by
  rintro front behind rfl
  exact h front (behind ++ rest) (by simp)

theorem keepsOpen_concat_iff {quote byte : UInt8} {content : List UInt8} :
    KeepsOpen quote (content ++ [byte]) ↔
      KeepsOpen quote content ∧ (byte = quote → Odd (trailingBackslashes content)) := by
  constructor
  · intro h
    refine ⟨h.of_append, ?_⟩
    rintro rfl
    exact h content [] rfl
  · rintro ⟨hcontent, hbyte⟩ front rest hsplit
    rcases List.eq_nil_or_concat rest with rfl | ⟨more, last, rfl⟩
    · obtain ⟨rfl, hlast⟩ := List.append_inj' hsplit rfl
      exact hbyte (List.cons.inj hlast).1
    · rw [List.concat_eq_append, ← List.cons_append, ← List.append_assoc] at hsplit
      obtain ⟨hfront, -⟩ := List.append_inj' hsplit rfl
      exact hcontent front more hfront

/-- Content of a literal behind which an equal quote closes it. -/
structure IsUnescaped (quote : UInt8) (content : List UInt8) : Prop where
  keepsOpen : KeepsOpen quote content
  even : Even (trailingBackslashes content)

theorem isUnescaped_nil (quote : UInt8) : IsUnescaped quote [] := ⟨keepsOpen_nil quote, Even.zero⟩

/-- Bytes behind which no literal is open: bytes that are no quotes, and literals, each from its
quote to the first equal one that has an even number of backslashes in front of it within the
literal. -/
inductive EndsInCode : List UInt8 → Prop where
  | nil : EndsInCode []
  | byte {front : List UInt8} {byte : UInt8} (hfront : EndsInCode front)
      (hbyte : isQuoteByte byte = false) : EndsInCode (front ++ [byte])
  | literal {front content : List UInt8} {quote : UInt8} (hfront : EndsInCode front)
      (hquote : isQuoteByte quote = true) (hcontent : IsUnescaped quote content) :
      EndsInCode (front ++ quote :: (content ++ [quote]))

/-- Bytes behind which the literal with some content is open. -/
structure IsWithin (bytes front : List UInt8) (quote : UInt8) (content : List UInt8) : Prop where
  whole : bytes = front ++ quote :: content
  outside : EndsInCode front
  opens : isQuoteByte quote = true
  keepsOpen : KeepsOpen quote content

theorem endsInCode_or_isWithin (bytes : List UInt8) :
    EndsInCode bytes ∨ ∃ front quote content, IsWithin bytes front quote content := by
  induction bytes using List.reverseRecOn with
  | nil => exact .inl .nil
  | append_singleton bytes byte ih =>
      rcases ih with hcode | ⟨front, quote, content, rfl, houtside, hquote, hcontent⟩
      · cases hbyte : isQuoteByte byte with
        | true => exact .inr ⟨bytes, byte, [], rfl, hcode, hbyte, keepsOpen_nil byte⟩
        | false => exact .inl (.byte hcode hbyte)
      · by_cases hcloses : byte = quote ∧ Even (trailingBackslashes content)
        · obtain ⟨rfl, heven⟩ := hcloses
          rw [List.append_assoc, List.cons_append]
          exact .inl (.literal houtside hquote ⟨hcontent, heven⟩)
        · refine .inr ⟨front, quote, content ++ [byte], by simp, houtside, hquote, ?_⟩
          refine keepsOpen_concat_iff.mpr ⟨hcontent, fun heq => ?_⟩
          exact Nat.not_even_iff_odd.mp fun heven => hcloses ⟨heq, heven⟩

/-! ### The state behind some bytes -/

@[simp] theorem toNat_ofUInt8 (byte : UInt8) : (Char.ofUInt8 byte).toNat = byte.toNat := rfl

theorem ofUInt8_injective : Function.Injective Char.ofUInt8 := by
  intro a b h
  rw [← UInt8.toNat_inj, ← toNat_ofUInt8, ← toNat_ofUInt8, h]

theorem ofUInt8_eq_iff {byte : UInt8} {mark : Char} (hmark : mark.toNat < 0x80) :
    Char.ofUInt8 byte = mark ↔ byte = mark.toUInt8 := by
  rw [← Char.toNat_inj, ← UInt8.toNat_inj, toNat_ofUInt8, toNat_toUInt8 hmark]

theorem isQuote_ofUInt8 (byte : UInt8) : isQuote (Char.ofUInt8 byte) = isQuoteByte byte := by
  rw [isQuote, isQuoteByte, Bool.eq_iff_iff]
  simp only [Bool.or_eq_true, beq_iff_eq, ofUInt8_eq_iff (show '"'.toNat < 0x80 by decide),
    ofUInt8_eq_iff (show '\''.toNat < 0x80 by decide)]

/-- Where a scan that starts in code stands behind some bytes, each taken for the character with its
code. -/
def quotingBehind (bytes : List UInt8) : Quoting := Quoting.code.after (bytes.map Char.ofUInt8)

theorem quotingBehind_append (front rest : List UInt8) :
    quotingBehind (front ++ rest) = (quotingBehind front).after (rest.map Char.ofUInt8) := by
  rw [quotingBehind, List.map_append, Quoting.after_append]
  rfl

/-- Within a literal only the number of backslashes at the end matters. -/
theorem KeepsOpen.after {quote : UInt8} {content : List UInt8} (h : KeepsOpen quote content) :
    (Quoting.inside (Char.ofUInt8 quote)).after (content.map Char.ofUInt8)
      = if Even (trailingBackslashes content) then .inside (Char.ofUInt8 quote)
        else .escaping (Char.ofUInt8 quote) := by
  induction content using List.reverseRecOn with
  | nil => rfl
  | append_singleton content byte ih =>
      obtain ⟨hcontent, hbyte⟩ := keepsOpen_concat_iff.mp h
      have hescape := @ofUInt8_eq_iff byte '\\' (by decide)
      rw [List.map_append, Quoting.after_append, ih hcontent, trailingBackslashes_concat,
        List.map_singleton, Quoting.after_cons, Quoting.after_nil]
      by_cases heven : Even (trailingBackslashes content)
      · have hquote : Char.ofUInt8 byte ≠ Char.ofUInt8 quote := fun heq =>
          Nat.not_even_iff_odd.mpr (hbyte (ofUInt8_injective heq)) heven
        rw [if_pos heven, Quoting.step, if_neg hquote]
        by_cases hbackslash : byte = '\\'.toUInt8
        · rw [if_pos (hescape.mpr hbackslash), if_pos hbackslash, if_neg]
          exact fun hmore => Nat.even_add_one.mp hmore heven
        · rw [if_neg (mt hescape.mp hbackslash), if_neg hbackslash, if_pos Even.zero]
      · rw [if_neg heven, Quoting.step]
        by_cases hbackslash : byte = '\\'.toUInt8
        · rw [if_pos hbackslash, if_pos (Nat.even_add_one.mpr heven)]
        · rw [if_neg hbackslash, if_pos Even.zero]

theorem quotingBehind_quote {front : List UInt8} {quote : UInt8} {content : List UInt8}
    (hfront : quotingBehind front = .code) (hquote : isQuoteByte quote = true)
    (hcontent : KeepsOpen quote content) :
    quotingBehind (front ++ quote :: content)
      = if Even (trailingBackslashes content) then .inside (Char.ofUInt8 quote)
        else .escaping (Char.ofUInt8 quote) := by
  have hopen : Quoting.code.step (Char.ofUInt8 quote) = .inside (Char.ofUInt8 quote) :=
    if_pos ((isQuote_ofUInt8 quote).trans hquote)
  rw [quotingBehind_append, hfront, List.map_cons, Quoting.after_cons, hopen, hcontent.after]

/-- A literal and a byte that is no quote lead from code back to code. -/
theorem EndsInCode.quotingBehind {bytes : List UInt8} (h : EndsInCode bytes) :
    quotingBehind bytes = .code := by
  induction h with
  | nil => rfl
  | @byte front byte _ hbyte ih =>
      rw [quotingBehind_append, ih, List.map_singleton, Quoting.after_cons, Quoting.after_nil,
        Quoting.step, isQuote_ofUInt8, hbyte]
      rfl
  | @literal front content quote _ hquote hcontent ih =>
      have hbackslash : Char.ofUInt8 quote ≠ '\\' := by
        intro heq
        have hquoteChar := (isQuote_ofUInt8 quote).trans hquote
        rw [heq] at hquoteChar
        cases hquoteChar
      rw [← List.cons_append, ← List.append_assoc, quotingBehind_append,
        quotingBehind_quote ih hquote hcontent.keepsOpen, if_pos hcontent.even, List.map_singleton,
        Quoting.after_cons, Quoting.after_nil, Quoting.step, if_neg hbackslash, if_pos rfl]

theorem IsWithin.quotingBehind_ne {bytes front content : List UInt8} {quote : UInt8}
    (h : IsWithin bytes front quote content) : quotingBehind bytes ≠ .code := by
  rw [h.whole, quotingBehind_quote h.outside.quotingBehind h.opens h.keepsOpen]
  split
  · exact fun hcode => by cases hcode
  · exact fun hcode => by cases hcode

/-- The literals before a position can be told apart in one way only. -/
theorem IsWithin.not_endsInCode {bytes front content : List UInt8} {quote : UInt8}
    (h : IsWithin bytes front quote content) : ¬EndsInCode bytes :=
  fun hcode => h.quotingBehind_ne hcode.quotingBehind

theorem endsInCode_iff {bytes : List UInt8} : EndsInCode bytes ↔ quotingBehind bytes = .code := by
  refine ⟨EndsInCode.quotingBehind, fun hcode => (endsInCode_or_isWithin bytes).resolve_right ?_⟩
  rintro ⟨front, quote, content, hwithin⟩
  exact hwithin.quotingBehind_ne hcode

instance : DecidablePred EndsInCode := fun _ => decidable_of_iff _ endsInCode_iff.symm

/-! ### Positions of code -/

/-- Whether a position from `start` on holds a byte of code: no literal is open in front of it, and
none starts with it. -/
def IsCodeAt (bytes : List UInt8) (start position : Nat) : Prop :=
  start ≤ position ∧ EndsInCode ((bytes.take position).drop start) ∧
    ∃ byte ∈ bytes[position]?, isQuoteByte byte = false

instance (bytes : List UInt8) (start position : Nat) : Decidable (IsCodeAt bytes start position) :=
  inferInstanceAs (Decidable (_ ∧ _ ∧ _))

/-- How often a byte stands in code between two positions. -/
def codeCount (bytes : List UInt8) (mark : UInt8) (start stop : Nat) : Nat :=
  (List.range stop).countP fun position =>
    decide (IsCodeAt bytes start position ∧ bytes[position]? = some mark)

/-- A position of code up to which as many right delimiters as left ones stand in code. -/
def IsBalancedAt (bytes : List UInt8) (left right : UInt8) (start position : Nat) : Prop :=
  IsCodeAt bytes start position ∧
    codeCount bytes left start (position + 1) = codeCount bytes right start (position + 1)

instance (bytes : List UInt8) (left right : UInt8) (start position : Nat) :
    Decidable (IsBalancedAt bytes left right start position) :=
  inferInstanceAs (Decidable (_ ∧ _))

/-- The first of these positions. -/
def IsFirstBalancedAt (bytes : List UInt8) (left right : UInt8) (start position : Nat) : Prop :=
  IsBalancedAt bytes left right start position ∧
    ∀ earlier < position, ¬IsBalancedAt bytes left right start earlier

instance (bytes : List UInt8) (left right : UInt8) (start position : Nat) :
    Decidable (IsFirstBalancedAt bytes left right start position) :=
  inferInstanceAs (Decidable (_ ∧ _))

theorem codeCount_succ (bytes : List UInt8) (mark : UInt8) (start position : Nat) :
    codeCount bytes mark start (position + 1)
      = codeCount bytes mark start position
        + if IsCodeAt bytes start position ∧ bytes[position]? = some mark then 1 else 0 := by
  rw [codeCount, List.range_succ, List.countP_append, List.countP_singleton, codeCount]
  simp only [decide_eq_true_eq]

/-- Where nothing is code, nothing is counted. -/
theorem codeCount_add_of_not_isCodeAt {bytes : List UInt8} {start offset count : Nat}
    (h : ∀ position, offset ≤ position → position < offset + count →
      ¬IsCodeAt bytes start position) (mark : UInt8) :
    codeCount bytes mark start (offset + count) = codeCount bytes mark start offset := by
  induction count with
  | zero => rfl
  | succ count ih =>
      have hlast : ¬IsCodeAt bytes start (offset + count) := h _ (by omega) (by omega)
      rw [← Nat.add_assoc, codeCount_succ, if_neg fun hcode => hlast hcode.1, Nat.add_zero, ih]
      exact fun position hle hlt => h position hle (by omega)

theorem codeCount_start (bytes : List UInt8) (mark : UInt8) (start : Nat) :
    codeCount bytes mark start start = 0 := by
  rw [codeCount, List.countP_eq_zero]
  intro position hmem
  have hlt := List.mem_range.mp hmem
  simp only [decide_eq_true_eq]
  exact fun hcode => absurd hcode.1.1 (by omega)

section
variable {bytes before content rest : List UInt8} {byte quote : UInt8} {start : Nat}

theorem isCodeAt_length (hbytes : bytes = before ++ byte :: rest) (hstart : start ≤ before.length)
    (hcode : EndsInCode (before.drop start)) (hbyte : isQuoteByte byte = false) :
    IsCodeAt bytes start before.length := by
  refine ⟨hstart, ?_, byte, ?_, hbyte⟩
  · rwa [hbytes, List.take_left]
  · simp [hbytes]

/-- No position of a literal holds code. -/
theorem not_isCodeAt_of_keepsOpen (hbytes : bytes = before ++ quote :: (content ++ rest))
    (hstart : start ≤ before.length) (hcode : EndsInCode (before.drop start))
    (hquote : isQuoteByte quote = true) (hcontent : KeepsOpen quote content) {position : Nat}
    (hfrom : before.length ≤ position) (hto : position ≤ (before ++ quote :: content).length) :
    ¬IsCodeAt bytes start position := by
  rintro ⟨-, hends, byte, hmem, hbyte⟩
  obtain ⟨count, rfl⟩ := Nat.exists_eq_add_of_le hfrom
  cases count with
  | zero =>
      obtain rfl : quote = byte := by simpa [hbytes] using hmem
      rw [hquote] at hbyte
      cases hbyte
  | succ count =>
      have hcount : count ≤ content.length := by
        rw [List.length_append, List.length_cons] at hto
        omega
      have hfront : bytes.take (before.length + (count + 1))
          = before ++ quote :: content.take count := by
        rw [hbytes, List.take_length_add_append, List.take_succ_cons,
          List.take_append_of_le_length hcount]
      rw [hfront, List.drop_append_of_le_length hstart] at hends
      have hkeeps : KeepsOpen quote (content.take count) := by
        rw [← List.take_append_drop count content] at hcontent
        exact hcontent.of_append
      have hwithin : IsWithin _ (before.drop start) quote (content.take count) :=
        ⟨rfl, hcode, hquote, hkeeps⟩
      exact hwithin.not_endsInCode hends

theorem codeCount_length_succ (hbytes : bytes = before ++ byte :: rest)
    (hcode : IsCodeAt bytes start before.length) (mark : UInt8) :
    codeCount bytes mark start (before.length + 1)
      = codeCount bytes mark start before.length + if byte = mark then 1 else 0 := by
  have hbyte : bytes[before.length]? = some byte := by simp [hbytes]
  rw [codeCount_succ, hbyte]
  simp only [hcode, true_and, Option.some.injEq]

/-- Behind the bytes no position holds code. -/
theorem not_isCodeAt_of_length_le {position : Nat} (h : bytes.length ≤ position) :
    ¬IsCodeAt bytes start position := by
  rintro ⟨-, -, byte, hmem, -⟩
  rw [List.getElem?_eq_none h] at hmem
  cases hmem

end

/-! ### What the positions depend on -/

section
variable {bytes others : List UInt8} {left right : UInt8} {start stop position : Nat}

/-- What is code is told by the bytes up to it. -/
theorem isCodeAt_congr (hsame : bytes.take stop = others.take stop) (hlt : position < stop) :
    IsCodeAt bytes start position ↔ IsCodeAt others start position := by
  have hfront : bytes.take position = others.take position := by
    have htake := congrArg (List.take position) hsame
    rwa [List.take_take, List.take_take, Nat.min_eq_left (Nat.le_of_lt hlt)] at htake
  have hbyte : bytes[position]? = others[position]? := by
    rw [← List.getElem?_take_of_lt hlt, hsame, List.getElem?_take_of_lt hlt]
  rw [IsCodeAt, IsCodeAt, hfront, hbyte]

theorem codeCount_congr (hsame : bytes.take stop = others.take stop) (hle : position ≤ stop)
    (mark : UInt8) : codeCount bytes mark start position = codeCount others mark start position := by
  rw [codeCount, codeCount]
  refine List.countP_congr fun earlier hmem => ?_
  have hlt : earlier < stop := Nat.lt_of_lt_of_le (List.mem_range.mp hmem) hle
  have hbyte : bytes[earlier]? = others[earlier]? := by
    rw [← List.getElem?_take_of_lt hlt, hsame, List.getElem?_take_of_lt hlt]
  rw [decide_eq_true_eq, decide_eq_true_eq, isCodeAt_congr hsame hlt, hbyte]

theorem isBalancedAt_congr (hsame : bytes.take stop = others.take stop) (hlt : position < stop) :
    IsBalancedAt bytes left right start position ↔ IsBalancedAt others left right start position := by
  rw [IsBalancedAt, IsBalancedAt, isCodeAt_congr hsame hlt, codeCount_congr hsame hlt,
    codeCount_congr hsame hlt]

theorem IsFirstBalancedAt.congr (h : IsFirstBalancedAt bytes left right start position)
    (hsame : bytes.take stop = others.take stop) (hlt : position < stop) :
    IsFirstBalancedAt others left right start position :=
  ⟨(isBalancedAt_congr hsame hlt).mp h.1, fun earlier hearlier hbalanced =>
    h.2 earlier hearlier ((isBalancedAt_congr hsame (hearlier.trans hlt)).mpr hbalanced)⟩

theorem IsFirstBalancedAt.eq {other : Nat} (h : IsFirstBalancedAt bytes left right start position)
    (hother : IsFirstBalancedAt bytes left right start other) : position = other := by
  rcases Nat.lt_trichotomy position other with hlt | heq | hgt
  · exact absurd h.1 (hother.2 position hlt)
  · exact heq
  · exact absurd hother.1 (h.2 other hgt)

end

end HeaderBindings.Offsets
