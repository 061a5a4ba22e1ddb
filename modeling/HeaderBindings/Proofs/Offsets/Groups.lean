import HeaderBindings.Offsets.Scans
import HeaderBindings.Proofs.Literals
import HeaderBindings.Proofs.Offsets.Bytes

/-!
Literals and delimiter groups by offsets. The end of a literal is found where the characters of the
literal end, also when a backslash takes the first byte of a longer character with it; a literal that
is not closed ends a scan, wherever behind its quote the scan goes on. So the end of a group is found
where the group is cut off character by character.
-/

namespace HeaderBindings.Offsets
open Source String

/-! ### Literals -/

/-- Cuts the text behind the quote that opens a literal in front of the one that closes it. -/
def closeLiteral? (quote : Char) : List Char → Option (List Char × List Char)
  | [] => none
  | c :: rest =>
      if c = '\\' then
        match rest with
        | [] => none
        | d :: more =>
            (closeLiteral? quote more).map fun (content, behind) => (c :: d :: content, behind)
      else if c = quote then some ([], rest)
      else (closeLiteral? quote rest).map fun (content, behind) => (c :: content, behind)

section
variable {quote : Char} {text : List Char}

theorem ascii_of_isQuote (h : isQuote quote = true) : quote.toNat < 0x80 ∧ quote ≠ '\\' := by
  rw [isQuote, Bool.or_eq_true, beq_iff_eq, beq_iff_eq] at h
  rcases h with rfl | rfl <;> decide

theorem isQuoteByte_of_isQuote (h : isQuote quote = true) : isQuoteByte quote.toUInt8 = true := by
  rw [isQuote, Bool.or_eq_true, beq_iff_eq, beq_iff_eq] at h
  rcases h with rfl | rfl <;> decide

theorem isQuoteByte_of_mem {c : Char} {byte : UInt8} (h : isQuote c = false)
    (hmem : byte ∈ utf8EncodeChar c) : isQuoteByte byte = false := by
  rw [isQuote, Bool.or_eq_false_iff, beq_eq_false_iff_ne, beq_eq_false_iff_ne] at h
  rw [isQuoteByte, Bool.or_eq_false_iff, beq_eq_false_iff_ne, beq_eq_false_iff_ne]
  exact ⟨ne_of_mem_utf8EncodeChar (by decide) h.1 hmem,
    ne_of_mem_utf8EncodeChar (by decide) h.2 hmem⟩

theorem step_inside {c : Char} (hescape : c ≠ '\\') (hc : c ≠ quote) :
    (Quoting.inside quote).step c = .inside quote := by
  rw [Quoting.step, if_neg hescape, if_neg hc]

theorem covers_of_closeLiteral? (hquote : quote ≠ '\\') {content behind : List Char}
    (h : closeLiteral? quote text = some (content, behind)) :
    text = content ++ quote :: behind ∧
      (Quoting.inside quote).covers (content ++ [quote]) = true ∧
      (Quoting.inside quote).after (content ++ [quote]) = .code := by
  fun_induction closeLiteral? quote text generalizing content with
  | case1 | case2 => cases h
  | case3 d more ih =>
      obtain ⟨⟨inner, after⟩, hcut, heq⟩ := Option.map_eq_some_iff.mp h
      obtain ⟨rfl, rfl⟩ := Prod.mk.inj heq
      obtain ⟨rfl, hcovers, hafter⟩ := ih hcut
      exact ⟨rfl, hcovers, hafter⟩
  | case4 rest =>
      cases h
      refine ⟨rfl, rfl, ?_⟩
      rw [List.nil_append, Quoting.after_cons, Quoting.step, if_neg hquote, if_pos rfl]
      rfl
  | case5 c rest hescape hc ih =>
      obtain ⟨⟨inner, after⟩, hcut, heq⟩ := Option.map_eq_some_iff.mp h
      obtain ⟨rfl, rfl⟩ := Prod.mk.inj heq
      obtain ⟨rfl, hcovers, hafter⟩ := ih hcut
      rw [List.cons_append, List.cons_append, Quoting.covers_cons, Quoting.after_cons,
        step_inside hescape hc]
      exact ⟨rfl, ⟨rfl, hcovers⟩, hafter⟩

theorem covers_of_closeLiteral?_eq_none (h : closeLiteral? quote text = none) :
    (Quoting.inside quote).covers text = true := by
  fun_induction closeLiteral? quote text with
  | case1 | case2 => rfl
  | case3 d more ih => exact ih (Option.map_eq_none_iff.mp h)
  | case4 rest => cases h
  | case5 c rest hescape hc ih =>
      rw [Quoting.covers_cons, step_inside hescape hc]
      exact ⟨rfl, ih (Option.map_eq_none_iff.mp h)⟩

/-! ### Literals by offsets -/

theorem literalTurn_of_plain {bytes : List UInt8} {quote byte : UInt8} {offset : Nat}
    (helement : element bytes offset = .ok byte) (hescape : byte ≠ '\\'.toUInt8)
    (hquote : byte ≠ quote) :
    literalTurn bytes quote offset () = .ok (.next (offset + 1) ()) := by
  rw [literalTurn, helement]
  exact (if_neg hescape).trans (if_neg hquote)

/-- A backslash takes the first byte of the next character with it. -/
theorem loop_escape {bound : Nat} {bytes : List UInt8} {quote : UInt8}
    {ended : Unit → Checked Nat} {offset : Nat} (hbound : offset < bound)
    (helement : element bytes offset = .ok '\\'.toUInt8) :
    loop bound (literalTurn bytes quote) ended offset ()
      = loop bound (literalTurn bytes quote) ended (offset + 2) () := by
  have hturn : literalTurn bytes quote offset () = .ok (.next (offset + 2) ()) := by
    rw [literalTurn, helement]
    rfl
  exact loop_of_next hbound hturn (by omega)

/-- The end of a literal of which the text behind `front` is left. -/
theorem loop_literalTurn (hquote : isQuote quote = true) {front rest : List Char}
    (htext : text = front ++ rest) :
    loop (size text) (literalTurn (bytesOf text) quote.toUInt8) (fun _ => .ok (size text))
        (size front) ()
      = .ok (match closeLiteral? quote rest with
          | some (content, _) => size (front ++ content)
          | none => size text) := by
  obtain ⟨hascii, hne⟩ := ascii_of_isQuote hquote
  have hbackslash : '\\'.toNat < 0x80 := by decide
  have hplain (offset : Nat) (byte : UInt8) (hhigh : 0x80 ≤ byte.toNat)
      (helement : element (bytesOf text) offset = .ok byte) :
      literalTurn (bytesOf text) quote.toUInt8 offset () = .ok (.next (offset + 1) ()) :=
    literalTurn_of_plain helement (ne_of_high hbackslash hhigh) (ne_of_high hascii hhigh)
  fun_induction closeLiteral? quote rest generalizing front with
  | case1 =>
      rw [htext, List.append_nil]
      exact loop_of_le (Nat.le_refl _)
  | case2 =>
      rw [loop_escape (size_lt htext) (element_of_ascii hbackslash htext), loop_of_le]
      rw [htext, size_snoc_of_ascii hbackslash]
      omega
  | case3 d more ih =>
      have hrest : text = (front ++ ['\\']) ++ d :: more := by simp [htext]
      rw [loop_escape (size_lt htext) (element_of_ascii hbackslash htext), ← Nat.add_assoc _ 1 1,
        ← size_snoc_of_ascii hbackslash, loop_tail hrest hplain, ih (by simp [hrest])]
      cases closeLiteral? quote more with
      | none => rfl
      | some cut => simp
  | case4 rest =>
      have hturn : literalTurn (bytesOf text) quote.toUInt8 (size front) ()
          = .ok (.done (size front)) := by
        rw [literalTurn, element_of_ascii hascii htext]
        exact (if_neg (toUInt8_ne_of_ascii hbackslash hascii hne)).trans (if_pos rfl)
      rw [loop_of_done (size_lt htext) hturn]
      simp
  | case5 c rest hescape hc ih =>
      have hpass (offset : Nat) (byte : UInt8) (hmem : byte ∈ utf8EncodeChar c)
          (helement : element (bytesOf text) offset = .ok byte) :
          literalTurn (bytesOf text) quote.toUInt8 offset () = .ok (.next (offset + 1) ()) :=
        literalTurn_of_plain helement (ne_of_mem_utf8EncodeChar hbackslash hescape hmem)
          (ne_of_mem_utf8EncodeChar hascii hc hmem)
      rw [loop_char htext hpass, ih (by simp [htext])]
      cases closeLiteral? quote rest with
      | none => rfl
      | some cut => simp

/-- The end of the literal that starts behind `before`. -/
theorem literalEnd_eq (hquote : isQuote quote = true) {before rest : List Char}
    (htext : text = before ++ quote :: rest) :
    literalEnd (bytesOf text) (size before)
      = .ok (match closeLiteral? quote rest with
          | some (content, _) => size (before ++ quote :: content)
          | none => size text) := by
  obtain ⟨hascii, -⟩ := ascii_of_isQuote hquote
  have hrest : text = (before ++ [quote]) ++ rest := by simp [htext]
  rw [literalEnd, element_of_ascii hascii htext, ← size_snoc_of_ascii hascii]
  simp only [bind, Except.bind, length_bytesOf, loop_literalTurn hquote hrest, List.append_assoc,
    List.singleton_append]

/-- A scan that goes on behind a literal goes on where its characters end, or has ended. -/
theorem loop_literal {σ ρ : Type} (turn : Nat → σ → Checked (Turn σ ρ)) (ended : σ → Checked ρ)
    (state : σ) (hquote : isQuote quote = true) {before rest : List Char}
    (htext : text = before ++ quote :: rest)
    (hturn : ∀ closing, element (bytesOf text) (size before) = .ok quote.toUInt8 →
      literalEnd (bytesOf text) (size before) = .ok closing →
      turn (size before) state = .ok (.next (closing + 1) state)) :
    ∃ literal behind, rest = literal ++ behind ∧
      Quoting.code.covers (quote :: literal) = true ∧
      (Quoting.code.after (quote :: literal) = .code ∨ behind = []) ∧
      loop (size text) turn ended (size before) state
        = loop (size text) turn ended (size (before ++ quote :: literal)) state := by
  obtain ⟨hascii, hne⟩ := ascii_of_isQuote hquote
  have hopen : Quoting.code.step quote = .inside quote := if_pos hquote
  have hcode : Quoting.code.isCode quote = false := by
    rw [Quoting.isCode, hquote]
    rfl
  have hend := literalEnd_eq hquote htext
  cases hcut : closeLiteral? quote rest with
  | none =>
      have hcovers := covers_of_closeLiteral?_eq_none hcut
      rw [hcut] at hend
      refine ⟨rest, [], (List.append_nil rest).symm, ?_, .inr rfl, ?_⟩
      · rw [Quoting.covers_cons, hopen]
        exact ⟨hcode, hcovers⟩
      · rw [loop_of_next (size_lt htext) (hturn _ (element_of_ascii hascii htext) hend)
          (Nat.lt_succ_of_lt (size_lt htext)), ← htext, loop_of_le (Nat.le_succ _),
          loop_of_le (Nat.le_refl _)]
  | some cut =>
      obtain ⟨content, behind⟩ := cut
      obtain ⟨rfl, hcovers, hafter⟩ := covers_of_closeLiteral? hne hcut
      rw [hcut] at hend
      have hsize : size (before ++ quote :: (content ++ [quote]))
          = size (before ++ quote :: content) + 1 := by
        rw [← size_snoc_of_ascii hascii]
        simp
      have hlt : size before < size (before ++ quote :: content) := size_lt rfl
      refine ⟨content ++ [quote], behind, by simp, ?_, .inl ?_, ?_⟩
      · rw [Quoting.covers_cons, hopen]
        exact ⟨hcode, hcovers⟩
      · rw [Quoting.after_cons, hopen, hafter]
      · rw [loop_of_next (size_lt htext) (hturn _ (element_of_ascii hascii htext) hend)
          (Nat.lt_succ_of_lt hlt), hsize]

/-! ### Groups by offsets -/

/-- Behind a literal a scan is in code, or nothing is left. -/
theorem closeFrom_of_code_or_nil {state : Quoting} {behind : List Char}
    (h : state = .code ∨ behind = []) (left right : Char) (depth : Nat) :
    closeFrom left right state depth behind = closeFrom left right .code depth behind := by
  rcases h with rfl | rfl
  · rfl
  · rfl

theorem groupTurn_of_quote {bytes : List UInt8} {left right byte : UInt8}
    {offset depth closing : Nat} (helement : element bytes offset = .ok byte)
    (hquote : isQuoteByte byte = true) (hliteral : literalEnd bytes offset = .ok closing) :
    groupTurn bytes left right offset depth = .ok (.next (closing + 1) depth) := by
  rw [groupTurn, helement]
  simp only [bind, Except.bind, hquote, if_true, hliteral]
  rfl

theorem groupTurn_of_code {bytes : List UInt8} {left right byte : UInt8} {offset depth : Nat}
    (helement : element bytes offset = .ok byte) (hquote : isQuoteByte byte = false) :
    groupTurn bytes left right offset depth
      = .ok (if byte = left then .next (offset + 1) (depth + 1)
        else if byte = right then
          if depth - 1 = 0 then .done (some (offset + 1)) else .next (offset + 1) (depth - 1)
        else .next (offset + 1) depth) := by
  rw [groupTurn, helement]
  simp only [bind, Except.bind, hquote, Bool.false_eq_true, if_false, pure, Except.pure]
  split
  · rfl
  · split
    · split
      · rfl
      · rfl
    · rfl

variable {left right : Char}

theorem map_size_cut (before inner : List Char) (found : Option (List Char × List Char)) :
    (found.map fun cut => (inner ++ cut.1, cut.2)).map (fun cut => size (before ++ cut.1))
      = found.map fun cut => size (before ++ inner ++ cut.1) := by
  rw [Option.map_map]
  simp only [Function.comp_def, List.append_assoc]

/-- What a character of code does to a scan for the end of a group. -/
theorem loop_groupTurn_of_code (hleft : left.toNat < 0x80) (hright : right.toNat < 0x80)
    {before rest : List Char} {c : Char} (hquote : isQuote c = false)
    (htext : text = before ++ c :: rest) (depth : Nat) :
    let further := loop (size text) (groupTurn (bytesOf text) left.toUInt8 right.toUInt8)
      fun _ => .ok none
    further (size before) depth
      = if c = left then further (size (before ++ [c])) (depth + 1)
        else if c = right then
          if depth ≤ 1 then .ok (some (size (before ++ [c])))
          else further (size (before ++ [c])) (depth - 1)
        else further (size (before ++ [c])) depth := by
  intro further
  have hbyte (byte : UInt8) (hmem : byte ∈ utf8EncodeChar c) : isQuoteByte byte = false :=
    isQuoteByte_of_mem hquote hmem
  by_cases hopen : c = left
  · subst hopen
    rw [if_pos rfl]
    refine loop_mark hleft htext fun helement => ?_
    rw [groupTurn_of_code helement (hbyte _ ((toUInt8_mem_utf8EncodeChar_iff hleft).mpr rfl)),
      if_pos rfl]
  · rw [if_neg hopen]
    by_cases hclose : c = right
    · subst hclose
      have hturn : groupTurn (bytesOf text) left.toUInt8 c.toUInt8 (size before) depth
          = .ok (if depth - 1 = 0 then .done (some (size before + 1))
              else .next (size before + 1) (depth - 1)) := by
        rw [groupTurn_of_code (element_of_ascii hright htext)
          (hbyte _ ((toUInt8_mem_utf8EncodeChar_iff hright).mpr rfl)),
          if_neg (toUInt8_ne_of_ascii hleft hright hopen), if_pos rfl]
      rw [if_pos rfl]
      by_cases hdepth : depth ≤ 1
      · rw [if_pos (by omega)] at hturn
        rw [if_pos hdepth, size_snoc_of_ascii hright]
        exact loop_of_done (size_lt htext) hturn
      · rw [if_neg (by omega)] at hturn
        rw [if_neg hdepth]
        exact loop_mark hright htext fun _ => hturn
    · rw [if_neg hclose]
      refine loop_char htext fun offset byte hmem helement => ?_
      rw [groupTurn_of_code helement (hbyte byte hmem),
        if_neg (ne_of_mem_utf8EncodeChar hleft hopen hmem),
        if_neg (ne_of_mem_utf8EncodeChar hright hclose hmem)]

/-- The end of the group with `depth` open delimiters of which the text behind `before` is left. -/
theorem loop_groupTurn (hleft : left.toNat < 0x80) (hright : right.toNat < 0x80)
    {before rest : List Char} (htext : text = before ++ rest) (depth : Nat) :
    loop (size text) (groupTurn (bytesOf text) left.toUInt8 right.toUInt8) (fun _ => .ok none)
        (size before) depth
      = .ok ((closeFrom left right .code depth rest).map fun cut => size (before ++ cut.1)) := by
  -- Each round takes at least one character of the rest with it.
  induction hlength : rest.length using Nat.strong_induction_on generalizing before rest depth with
  | _ length ih =>
    cases rest with
    | nil =>
        rw [htext, List.append_nil]
        exact loop_of_le (Nat.le_refl _)
    | cons c rest =>
        subst hlength
        cases hquote : isQuote c with
        | true =>
            obtain ⟨literal, behind, rfl, hcovers, hbehind, hloop⟩ :=
              loop_literal (groupTurn (bytesOf text) left.toUInt8 right.toUInt8)
                (fun _ => .ok none) depth hquote htext fun closing helement hliteral =>
                  groupTurn_of_quote helement (isQuoteByte_of_isQuote hquote) hliteral
            have hshort : behind.length < (c :: (literal ++ behind)).length := by
              rw [List.length_cons, List.length_append]
              omega
            have hnext := @ih _ hshort (before ++ c :: literal) behind (by simp [htext]) depth rfl
            rw [hloop, hnext, ← List.cons_append, closeFrom_of_covers hcovers,
              closeFrom_of_code_or_nil hbehind, map_size_cut]
        | false =>
            have hcode := Quoting.isCode_code hquote
            have hnext (depth : Nat) :=
              @ih _ (Nat.lt_succ_self rest.length) (before ++ [c]) rest (by simp [htext]) depth rfl
            have hcut (depth : Nat) := map_size_cut before [c] (closeFrom left right .code depth rest)
            rw [loop_groupTurn_of_code hleft hright hquote htext, closeFrom, if_pos hcode,
              Quoting.step_of_isCode hcode]
            split
            · rw [hnext, ← hcut]
              rfl
            · split
              · split
                · rfl
                · rw [hnext, ← hcut]
                  rfl
              · rw [hnext, ← hcut]
                rfl

theorem groupEnd?_eq (hleft : left.toNat < 0x80) (hright : right.toNat < 0x80)
    {before rest : List Char} (htext : text = before ++ rest) :
    groupEnd? (bytesOf text) left.toUInt8 right.toUInt8 (size before)
      = .ok ((closingGroup? left right rest).map fun cut => size (before ++ cut.1)) :=
  loop_groupTurn hleft hright htext 0

end

end HeaderBindings.Offsets
