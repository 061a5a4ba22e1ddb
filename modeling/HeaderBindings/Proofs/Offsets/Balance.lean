import HeaderBindings.Proofs.Offsets.CodePositions

/-!
The search for the delimiter that closes a group, over any bytes. The search goes from byte to byte
of code and from the beginning of a literal to its end, and nothing that it has passed over is
balanced. So it ends at the first balanced position, and its result does not depend on what stands
behind that position.
-/

namespace HeaderBindings.Offsets
open Source

/-! ### The end of a literal -/

/-- The content of a literal, in front of the quote that closes it or of the end of all. -/
structure IsContent (quote : UInt8) (content behind : List UInt8) : Prop where
  keepsOpen : KeepsOpen quote content
  ends : behind = [] ∨ IsUnescaped quote content ∧ behind.head? = some quote

/-- The search for the end of a literal from an offset on. -/
def literalEndFrom (bytes : List UInt8) (quote : UInt8) (offset : Nat) : Checked Nat :=
  loop bytes.length (literalTurn bytes quote) (fun _ => .ok bytes.length) offset ()

section
variable {bytes before content rest : List UInt8} {quote byte : UInt8}

theorem IsUnescaped.plain (h : IsUnescaped quote content) (hescape : byte ≠ '\\'.toUInt8)
    (hcloses : byte ≠ quote) : IsUnescaped quote (content ++ [byte]) := by
  refine ⟨keepsOpen_concat_iff.mpr ⟨h.keepsOpen, fun heq => absurd heq hcloses⟩, ?_⟩
  rw [trailingBackslashes_concat, if_neg hescape]
  exact Even.zero

/-- A backslash does not close the literal, and neither does the byte behind it. -/
theorem IsUnescaped.escape (h : IsUnescaped quote content) (hquote : '\\'.toUInt8 ≠ quote) :
    KeepsOpen quote (content ++ ['\\'.toUInt8]) ∧
      ∀ next, IsUnescaped quote (content ++ ['\\'.toUInt8, next]) := by
  have hopen : KeepsOpen quote (content ++ ['\\'.toUInt8]) :=
    keepsOpen_concat_iff.mpr ⟨h.keepsOpen, fun heq => absurd heq hquote⟩
  have hcount : trailingBackslashes (content ++ ['\\'.toUInt8])
      = trailingBackslashes content + 1 := by
    rw [trailingBackslashes_concat, if_pos rfl]
  refine ⟨hopen, fun next => ?_⟩
  rw [List.append_cons]
  refine ⟨keepsOpen_concat_iff.mpr ⟨hopen, fun _ => ?_⟩, ?_⟩
  · rw [hcount]
    exact h.even.add_one
  · rw [trailingBackslashes_concat, hcount]
    split
    · exact h.even.add even_two
    · exact Even.zero

theorem length_lt_of_eq_append (hbytes : bytes = before ++ byte :: rest) :
    before.length < bytes.length := by
  rw [hbytes]
  simp

theorem element_of_eq_append (hbytes : bytes = before ++ byte :: rest) :
    element bytes before.length = .ok byte := by
  rw [hbytes]
  exact element_eq_ok_iff.mpr ⟨by simp, by simp⟩

theorem literalEndFrom_of_length_le {offset : Nat} (h : bytes.length ≤ offset) :
    literalEndFrom bytes quote offset = .ok bytes.length :=
  loop_of_le h

theorem literalEndFrom_quote (hbytes : bytes = before ++ quote :: rest)
    (hescape : quote ≠ '\\'.toUInt8) :
    literalEndFrom bytes quote before.length = .ok before.length := by
  refine loop_of_done (length_lt_of_eq_append hbytes) ?_
  rw [literalTurn, element_of_eq_append hbytes]
  exact (if_neg hescape).trans (if_pos rfl)

theorem literalEndFrom_plain (hbytes : bytes = before ++ byte :: rest)
    (hescape : byte ≠ '\\'.toUInt8) (hcloses : byte ≠ quote) :
    literalEndFrom bytes quote before.length
      = literalEndFrom bytes quote (before ++ [byte]).length := by
  rw [List.length_append, List.length_singleton]
  exact loop_of_next (length_lt_of_eq_append hbytes)
    (literalTurn_of_plain (element_of_eq_append hbytes) hescape hcloses) (Nat.lt_succ_self _)

/-- A backslash takes the byte behind it along, if there is one. -/
theorem literalEndFrom_escape (hbytes : bytes = before ++ '\\'.toUInt8 :: rest) :
    literalEndFrom bytes quote before.length = literalEndFrom bytes quote (before.length + 2) :=
  loop_escape (length_lt_of_eq_append hbytes) (element_of_eq_append hbytes)

/-- What is found behind some content of a literal that has been passed over. -/
theorem exists_content_of_literalEndFrom (hquote : isQuoteByte quote = true)
    (hbytes : bytes = before ++ content ++ rest) (hcontent : IsUnescaped quote content) :
    ∃ whole behind, content ++ rest = whole ++ behind ∧ IsContent quote whole behind ∧
      literalEndFrom bytes quote (before ++ content).length = .ok (before ++ whole).length := by
  have hbackslash : quote ≠ '\\'.toUInt8 := by
    rintro rfl
    cases hquote
  -- A round may pass over two bytes.
  induction hlength : rest.length using Nat.strong_induction_on generalizing content rest with
  | _ length ih =>
    subst hlength
    cases rest with
    | nil =>
        rw [List.append_nil] at hbytes
        refine ⟨content, [], rfl, ⟨hcontent.keepsOpen, .inl rfl⟩, ?_⟩
        rw [← hbytes, literalEndFrom_of_length_le (Nat.le_refl _)]
    | cons byte rest =>
        by_cases hescape : byte = '\\'.toUInt8
        · subst hescape
          obtain ⟨hopen, htwo⟩ := hcontent.escape hbackslash.symm
          rw [literalEndFrom_escape hbytes]
          cases rest with
          | nil =>
              have hend : bytes.length = (before ++ content).length + 1 := by
                rw [hbytes, List.length_append, List.length_singleton]
              refine ⟨content ++ ['\\'.toUInt8], [], by simp, ⟨hopen, .inl rfl⟩, ?_⟩
              rw [literalEndFrom_of_length_le (by omega), hbytes, List.append_assoc]
          | cons next rest =>
              obtain ⟨whole, behind, hwhole, hends, hresult⟩ :=
                @ih rest.length (by simp only [List.length_cons]; omega)
                  (content ++ ['\\'.toUInt8, next]) rest (by simp [hbytes]) (htwo next) rfl
              refine ⟨whole, behind, by simpa using hwhole, hends, ?_⟩
              rw [← hresult, ← List.append_assoc, @List.length_append _ (before ++ content)]
              rfl
        · by_cases hcloses : byte = quote
          · subst hcloses
            refine ⟨content, byte :: rest, rfl, ⟨hcontent.keepsOpen, .inr ⟨hcontent, rfl⟩⟩, ?_⟩
            rw [literalEndFrom_quote hbytes hescape]
          · obtain ⟨whole, behind, hwhole, hends, hresult⟩ :=
              @ih rest.length (by simp) (content ++ [byte]) rest (by simp [hbytes])
                (hcontent.plain hescape hcloses) rfl
            refine ⟨whole, behind, by simpa using hwhole, hends, ?_⟩
            rw [literalEndFrom_plain hbytes hescape hcloses, List.append_assoc, hresult]

/-- A literal ends where its content ends. -/
theorem exists_content_of_literalEnd (hquote : isQuoteByte quote = true)
    (hbytes : bytes = before ++ quote :: rest) :
    ∃ content behind, rest = content ++ behind ∧ IsContent quote content behind ∧
      literalEnd bytes before.length = .ok (before ++ quote :: content).length := by
  obtain ⟨content, behind, hcontent, hends, hresult⟩ :=
    @exists_content_of_literalEndFrom bytes (before ++ [quote]) [] rest quote hquote
      (by simp [hbytes]) (isUnescaped_nil quote)
  refine ⟨content, behind, hcontent, hends, ?_⟩
  have hwhole : before ++ [quote] ++ content = before ++ quote :: content := by simp
  rw [hwhole, List.append_nil, List.length_append, List.length_singleton] at hresult
  rw [literalEnd, element_of_eq_append hbytes]
  exact hresult

/-! ### The search for the end of a group -/

/-- What a search for the end of a group has to find: the offset behind the first of these positions,
if there is one. -/
def IsGroupEnd (bytes : List UInt8) (left right : UInt8) (start : Nat) : Option Nat → Prop
  | some stop => ∃ position, stop = position + 1 ∧ IsFirstBalancedAt bytes left right start position
  | none => ∀ position, ¬IsBalancedAt bytes left right start position

/-- Where a search stands that is about to look at the byte behind some others: in code, with the
left delimiters counted that are not closed, and with nothing found so far. -/
structure IsUnderWay (bytes : List UInt8) (left right : UInt8) (start offset depth : Nat) : Prop where
  started : start ≤ offset
  code : EndsInCode ((bytes.take offset).drop start)
  depth : codeCount bytes left start offset = codeCount bytes right start offset + depth
  nothing : ∀ position < offset, ¬IsBalancedAt bytes left right start position

variable {left right : UInt8} {start offset depth : Nat}

theorem IsUnderWay.code_before (h : IsUnderWay bytes left right start before.length depth)
    (hbytes : bytes = before ++ rest) : EndsInCode (before.drop start) := by
  have hcode := h.code
  rwa [hbytes, List.take_left] at hcode

/-- At the end of the bytes nothing has been found. -/
theorem IsUnderWay.ended (h : IsUnderWay bytes left right start offset depth)
    (hbehind : ∀ position, offset ≤ position → ¬IsCodeAt bytes start position) :
    IsGroupEnd bytes left right start none := by
  intro position hbalanced
  rcases Nat.lt_or_ge position offset with hfront | hposition
  · exact h.nothing position hfront hbalanced
  · exact hbehind position hposition hbalanced.1

/-- A byte of code ends the group, or the search goes on behind it. -/
theorem IsUnderWay.codeByte (h : IsUnderWay bytes left right start before.length depth)
    (hbytes : bytes = before ++ byte :: rest) (hbyte : isQuoteByte byte = false) {next : Nat}
    (hnext : depth + (if byte = left then 1 else 0) = next + if byte = right then 1 else 0) :
    if next = 0 then IsFirstBalancedAt bytes left right start before.length
    else IsUnderWay bytes left right start (before.length + 1) next := by
  have hcode : IsCodeAt bytes start before.length :=
    isCodeAt_length hbytes h.started (h.code_before hbytes) hbyte
  have hcounts : codeCount bytes left start (before.length + 1)
      = codeCount bytes right start (before.length + 1) + next := by
    rw [codeCount_length_succ hbytes hcode, codeCount_length_succ hbytes hcode, h.depth]
    omega
  split
  case isTrue hzero =>
    subst hzero
    exact ⟨⟨hcode, hcounts⟩, h.nothing⟩
  case isFalse hpos =>
    refine ⟨Nat.le_succ_of_le h.started, ?_, hcounts, fun position hlt hbalanced => ?_⟩
    · have hends := (h.code_before hbytes).byte hbyte
      have htake : bytes.take (before.length + 1) = before ++ [byte] := by
        rw [hbytes, List.take_length_add_append]
        rfl
      rwa [htake, List.drop_append_of_le_length h.started]
    · rcases Nat.lt_succ_iff_lt_or_eq.mp hlt with hfront | rfl
      · exact h.nothing position hfront hbalanced
      · have hequal := hbalanced.2
        omega

/-- A literal is passed over. -/
theorem IsUnderWay.literal (h : IsUnderWay bytes left right start before.length depth)
    (hbytes : bytes = before ++ quote :: (content ++ quote :: rest))
    (hquote : isQuoteByte quote = true) (hcontent : IsUnescaped quote content) :
    IsUnderWay bytes left right start (before ++ quote :: (content ++ [quote])).length depth := by
  have hcode := h.code_before hbytes
  have hlength : (before ++ quote :: (content ++ [quote])).length
      = before.length + (content.length + 2) := by simp
  have hskipped (position : Nat) (hle : before.length ≤ position)
      (hlt : position < before.length + (content.length + 2)) : ¬IsCodeAt bytes start position := by
    refine not_isCodeAt_of_keepsOpen hbytes h.started hcode hquote hcontent.keepsOpen hle ?_
    rw [List.length_append, List.length_cons]
    omega
  rw [hlength]
  refine ⟨Nat.le_add_right_of_le h.started, ?_, ?_, fun position hlt hbalanced => ?_⟩
  · have htake : bytes.take (before.length + (content.length + 2))
        = before ++ quote :: (content ++ [quote]) := by
      have hwhole : bytes = (before ++ quote :: (content ++ [quote])) ++ rest := by simp [hbytes]
      rw [← hlength, hwhole, List.take_left]
    rw [htake, List.drop_append_of_le_length h.started]
    exact hcode.literal hquote hcontent
  · rw [codeCount_add_of_not_isCodeAt hskipped, codeCount_add_of_not_isCodeAt hskipped, h.depth]
  · rcases Nat.lt_or_ge position before.length with hfront | hposition
    · exact h.nothing position hfront hbalanced
    · exact hskipped position hposition hlt hbalanced.1

/-- A round on a byte of code, when a left delimiter is open or stands there. -/
theorem IsUnderWay.groupTurn_byte (h : IsUnderWay bytes left right start before.length depth)
    (hbytes : bytes = before ++ byte :: rest) (hbyte : isQuoteByte byte = false)
    (hne : left ≠ right) (hopen : 0 < depth ∨ byte = left) :
    (groupTurn bytes left right before.length depth = .ok (.done (some (before.length + 1))) ∧
      IsFirstBalancedAt bytes left right start before.length) ∨
    ∃ next, 0 < next ∧
      groupTurn bytes left right before.length depth = .ok (.next (before.length + 1) next) ∧
      IsUnderWay bytes left right start (before.length + 1) next := by
  rw [groupTurn_of_code (element_of_eq_append hbytes) hbyte]
  by_cases hbyteLeft : byte = left
  · have hnext : depth + (if byte = left then 1 else 0)
        = depth + 1 + if byte = right then 1 else 0 := by
      simp [hbyteLeft, hne]
    refine .inr ⟨depth + 1, Nat.succ_pos depth, ?_, h.codeByte hbytes hbyte hnext⟩
    rw [if_pos hbyteLeft]
  · have hdepth : 0 < depth := hopen.resolve_right hbyteLeft
    rw [if_neg hbyteLeft]
    by_cases hbyteRight : byte = right
    · have hnext : depth + (if byte = left then 1 else 0)
          = depth - 1 + if byte = right then 1 else 0 := by
        rw [if_neg hbyteLeft, if_pos hbyteRight]
        omega
      have hround := h.codeByte hbytes hbyte hnext
      rw [if_pos hbyteRight]
      by_cases hlast : depth - 1 = 0
      · rw [if_pos hlast] at hround ⊢
        exact .inl ⟨rfl, hround⟩
      · rw [if_neg hlast] at hround ⊢
        exact .inr ⟨depth - 1, Nat.pos_of_ne_zero hlast, rfl, hround⟩
    · have hnext : depth + (if byte = left then 1 else 0)
          = depth + if byte = right then 1 else 0 := by
        rw [if_neg hbyteLeft, if_neg hbyteRight]
      have hround := h.codeByte hbytes hbyte hnext
      rw [if_neg (Nat.ne_of_gt hdepth)] at hround
      rw [if_neg hbyteRight]
      exact .inr ⟨depth, hdepth, rfl, hround⟩

/-- A round on a literal. If the literal is not closed, the search is over. -/
theorem IsUnderWay.groupTurn_quote (h : IsUnderWay bytes left right start before.length depth)
    (hbytes : bytes = before ++ quote :: rest) (hquote : isQuoteByte quote = true) :
    (∃ further, groupTurn bytes left right before.length depth = .ok (.next further depth) ∧
      bytes.length < further ∧ IsGroupEnd bytes left right start none) ∨
    ∃ content behind, rest = content ++ quote :: behind ∧
      groupTurn bytes left right before.length depth
        = .ok (.next (before ++ quote :: (content ++ [quote])).length depth) ∧
      IsUnderWay bytes left right start (before ++ quote :: (content ++ [quote])).length depth := by
  obtain ⟨content, behind, rfl, ⟨hkeeps, hends⟩, hliteral⟩ :=
    exists_content_of_literalEnd hquote hbytes
  rw [groupTurn_of_quote (element_of_eq_append hbytes) hquote hliteral]
  rcases hends with rfl | ⟨hcontent, hhead⟩
  · rw [List.append_nil] at hbytes
    refine .inl ⟨_, rfl, by rw [hbytes]; exact Nat.lt_succ_self _, h.ended fun position hle => ?_⟩
    rcases Nat.lt_or_ge position bytes.length with hlt | hge
    · rw [hbytes] at hlt
      rw [← List.append_nil content] at hbytes
      exact not_isCodeAt_of_keepsOpen hbytes h.started (h.code_before hbytes) hquote hkeeps hle
        (Nat.le_of_lt hlt)
    · exact not_isCodeAt_of_length_le hge
  · obtain ⟨more, rfl⟩ := List.head?_eq_some_iff.mp hhead
    have hbehind : (before ++ quote :: (content ++ [quote])).length
        = (before ++ quote :: content).length + 1 := by simp [Nat.add_assoc]
    exact .inr ⟨content, more, rfl, by rw [hbehind], h.literal hbytes hquote hcontent⟩

/-- The search goes on to the end of the group. -/
theorem exists_found (hne : left ≠ right) (hleft : isQuoteByte left = false)
    (h : IsUnderWay bytes left right start before.length depth) (hbytes : bytes = before ++ rest)
    (hopen : 0 < depth ∨ rest.head? = some left) :
    ∃ found, loop bytes.length (groupTurn bytes left right) (fun _ => .ok none) before.length depth
        = .ok found ∧ IsGroupEnd bytes left right start found := by
  -- A round passes over a byte or a literal.
  induction hlength : rest.length using Nat.strong_induction_on
    generalizing before rest depth with
  | _ length ih =>
    subst hlength
    cases rest with
    | nil =>
        rw [List.append_nil] at hbytes
        refine ⟨none, loop_of_le (by rw [hbytes]), h.ended fun position hle => ?_⟩
        exact not_isCodeAt_of_length_le (by rwa [hbytes])
    | cons byte rest =>
        have hbound := length_lt_of_eq_append hbytes
        have hfirst : 0 < depth ∨ byte = left := hopen.imp_right Option.some.inj
        cases hbyte : isQuoteByte byte with
        | true =>
            have hdepth : 0 < depth := by
              refine hfirst.resolve_right ?_
              rintro rfl
              rw [hleft] at hbyte
              cases hbyte
            rcases h.groupTurn_quote hbytes hbyte with
              ⟨further, hturn, hfurther, hnone⟩ | ⟨content, behind, rfl, hturn, hround⟩
            · rw [loop_of_next hbound hturn (hbound.trans hfurther), loop_of_le (Nat.le_of_lt hfurther)]
              exact ⟨none, rfl, hnone⟩
            · rw [loop_of_next hbound hturn (by simp)]
              refine ih behind.length ?_ hround (by simp [hbytes]) (.inl hdepth) rfl
              simp only [List.length_append, List.length_cons]
              omega
        | false =>
            rcases h.groupTurn_byte hbytes hbyte hne hfirst with
              ⟨hturn, hfirstBalanced⟩ | ⟨next, hpos, hturn, hround⟩
            · exact ⟨_, loop_of_done hbound hturn, before.length, rfl, hfirstBalanced⟩
            · have hbehind : before.length + 1 = (before ++ [byte]).length := by simp
              rw [loop_of_next hbound hturn (Nat.lt_succ_self _), hbehind]
              rw [hbehind] at hround
              exact ih rest.length (Nat.lt_succ_self _) hround (by simp [hbytes]) (.inl hpos) rfl

/-- The end of a group is found at the first balanced position. -/
theorem exists_groupEnd (hopen : bytes[start]? = some left) (hne : left ≠ right)
    (hleft : isQuoteByte left = false) :
    ∃ found, groupEnd? bytes left right start = .ok found ∧
      IsGroupEnd bytes left right start found := by
  obtain ⟨hlt, hget⟩ := List.getElem?_eq_some_iff.mp hopen
  have hbytes : bytes = bytes.take start ++ bytes.drop start := (List.take_append_drop ..).symm
  have hlength : (bytes.take start).length = start := List.length_take_of_le (Nat.le_of_lt hlt)
  have hstarts : IsUnderWay bytes left right start (bytes.take start).length 0 := by
    rw [hlength]
    refine ⟨Nat.le_refl _, ?_, ?_, fun position hfront hbalanced => ?_⟩
    · rw [List.drop_of_length_le (by rw [hlength])]
      exact .nil
    · rw [codeCount_start, codeCount_start]
    · exact absurd hbalanced.1.1 (Nat.not_le.mpr hfront)
  have hfound := exists_found hne hleft hstarts hbytes (.inr (by rw [List.head?_drop, hopen]))
  rwa [hlength] at hfound

end

/-! ### What the result depends on -/

section
variable {bytes others : List UInt8} {left right : UInt8} {start stop : Nat}

theorem IsGroupEnd.eq {found other : Option Nat} (h : IsGroupEnd bytes left right start found)
    (hother : IsGroupEnd bytes left right start other) : found = other := by
  cases found with
  | none =>
      cases other with
      | none => rfl
      | some stop =>
          obtain ⟨position, -, hfirst⟩ := hother
          exact absurd hfirst.1 (h position)
  | some stop =>
      obtain ⟨position, rfl, hfirst⟩ := h
      cases other with
      | none => exact absurd hfirst.1 (hother position)
      | some stop =>
          obtain ⟨second, rfl, hsecond⟩ := hother
          rw [hfirst.eq hsecond]

theorem groupEnd?_eq_ok_iff (hopen : bytes[start]? = some left) (hne : left ≠ right)
    (hleft : isQuoteByte left = false) {found : Option Nat} :
    groupEnd? bytes left right start = .ok found ↔ IsGroupEnd bytes left right start found := by
  obtain ⟨result, hresult, hend⟩ := exists_groupEnd hopen hne hleft
  rw [hresult]
  constructor
  · intro h
    rwa [← Except.ok.inj h]
  · intro h
    rw [hend.eq h]

/-- Only the bytes up to the end of the group count. -/
theorem groupEnd?_congr (hopen : bytes[start]? = some left) (hne : left ≠ right)
    (hleft : isQuoteByte left = false)
    (hfound : groupEnd? bytes left right start = .ok (some stop))
    (hsame : bytes.take stop = others.take stop) :
    groupEnd? others left right start = .ok (some stop) := by
  obtain ⟨position, rfl, hfirst⟩ := (groupEnd?_eq_ok_iff hopen hne hleft).mp hfound
  have hstart : start < position + 1 := Nat.lt_succ_of_le hfirst.1.1.1
  have hopenOther : others[start]? = some left := by
    rw [← hopen, ← List.getElem?_take_of_lt hstart, ← hsame, List.getElem?_take_of_lt hstart]
  exact (groupEnd?_eq_ok_iff hopenOther hne hleft).mpr
    ⟨position, rfl, hfirst.congr hsame (Nat.lt_succ_self position)⟩

end

/-- From a left delimiter on, the search never fails: it finds the offset behind the first position
of code at which as many right delimiters as left ones stand in code, and it finds nothing exactly
if there is no such position. Whatever stands behind the end of a group has no influence on it. -/
theorem groupEnd?_balanced {bytes : List UInt8} {left right : UInt8} {start : Nat}
    (hopen : bytes[start]? = some left) (hne : left ≠ right) (hleft : isQuoteByte left = false) :
    (∀ stop, groupEnd? bytes left right start = .ok (some stop) ↔
      ∃ position, stop = position + 1 ∧ IsFirstBalancedAt bytes left right start position) ∧
    (groupEnd? bytes left right start = .ok none ↔
      ∀ position, ¬IsBalancedAt bytes left right start position) ∧
    ∀ stop more, groupEnd? bytes left right start = .ok (some stop) →
      groupEnd? (bytes.take stop ++ more) left right start = .ok (some stop) := by
  refine ⟨fun stop => ?_, ?_, fun stop more hfound => ?_⟩
  · exact groupEnd?_eq_ok_iff hopen hne hleft
  · exact groupEnd?_eq_ok_iff hopen hne hleft
  · refine groupEnd?_congr hopen hne hleft hfound ?_
    obtain ⟨position, rfl, hfirst⟩ := (groupEnd?_eq_ok_iff hopen hne hleft).mp hfound
    obtain ⟨-, -, byte, hbyte, -⟩ := hfirst.1.1
    obtain ⟨hlt, -⟩ := List.getElem?_eq_some_iff.mp hbyte
    have hlength : (bytes.take (position + 1)).length = position + 1 := List.length_take_of_le hlt
    exact (List.take_left' hlength).symm

/-- The bytes are no text. The quote in front of the group does not count, and neither do the
parentheses in a string with an escaped quote and in a character; the last string ends with an
escaped backslash. -/
theorem groupEnd?_balanced_literals :
    let bytes : List UInt8 := 0xFF :: bytesOf "\"(\"\\\")\" ')' \\(é) \"\\\\\"))".toList
    bytes[2]? = some '('.toUInt8 ∧
      groupEnd? bytes '('.toUInt8 ')'.toUInt8 2 = .ok (some 24) ∧
      groupEnd? (bytes.take 24 ++ ['('.toUInt8]) '('.toUInt8 ')'.toUInt8 2 = .ok (some 24) ∧
      (bytes.take 23)[2]? = some '('.toUInt8 ∧
      groupEnd? (bytes.take 23) '('.toUInt8 ')'.toUInt8 2 = .ok none := by
  intro bytes
  have hopen : bytes[2]? = some '('.toUInt8 := by decide +kernel
  have hcut : (bytes.take 23)[2]? = some '('.toUInt8 := by decide +kernel
  obtain ⟨hfound, -, hbehind⟩ :=
    @groupEnd?_balanced _ _ ')'.toUInt8 _ hopen (by decide) (by decide)
  obtain ⟨-, hnothing, -⟩ :=
    @groupEnd?_balanced _ _ ')'.toUInt8 _ hcut (by decide) (by decide)
  have hstop : groupEnd? bytes '('.toUInt8 ')'.toUInt8 2 = .ok (some 24) :=
    (hfound 24).mpr ⟨23, rfl, by decide +kernel⟩
  refine ⟨hopen, hstop, hbehind 24 _ hstop, hcut, hnothing.mpr fun position hbalanced => ?_⟩
  have hlength : (bytes.take 23).length = 23 := by decide +kernel
  have hunbalanced : ∀ position < 23,
      ¬IsBalancedAt (bytes.take 23) '('.toUInt8 ')'.toUInt8 2 position := by decide +kernel
  rcases Nat.lt_or_ge position 23 with hlt | hle
  · exact hunbalanced position hlt hbalanced
  · exact not_isCodeAt_of_length_le (hlength ▸ hle) hbalanced.1

end HeaderBindings.Offsets
