import HeaderBindings.Proofs.Comments
import HeaderBindings.Proofs.Offsets.Groups
import Mathlib.Data.List.Infix

/-!
Taking out comments by offsets. Between two comments nothing is copied, so what is copied in front of
a comment is all that has been passed over since the last one.
-/

namespace HeaderBindings.Offsets
open Source String

/-! ### Finding the end of a comment -/

theorem exists_of_offsetOf? {pattern text : List Char} {found : Nat}
    (h : offsetOf? pattern text = some found) (hpattern : pattern ≠ []) :
    ∃ front behind, text = front ++ (pattern ++ behind) ∧ size front = found ∧
      ¬ pattern <:+: front := by
  have hnil : ¬ pattern <:+: [] := fun hinfix => hpattern (List.infix_nil.mp hinfix)
  fun_induction offsetOf? pattern text generalizing found with
  | case1 hempty => exact absurd (List.isEmpty_iff.mp hempty) hpattern
  | case2 hempty => cases h
  | case3 c rest hstarts =>
      obtain rfl := Option.some.inj h
      obtain ⟨behind, hbehind⟩ := List.isPrefixOf_iff_prefix.mp hstarts
      exact ⟨[], behind, hbehind.symm, rfl, hnil⟩
  | case4 c rest hstarts ih =>
      obtain ⟨later, hlater, rfl⟩ := Option.map_eq_some_iff.mp h
      obtain ⟨front, behind, rfl, rfl, hinfix⟩ := ih hlater
      refine ⟨c :: front, behind, rfl, size_cons c front, fun hcons => ?_⟩
      rcases List.infix_cons_iff.mp hcons with hstart | hrest
      · refine hstarts (List.isPrefixOf_iff_prefix.mpr (hstart.trans ?_))
        exact List.prefix_append (c :: front) (pattern ++ behind)
      · exact hinfix hrest

theorem not_infix_of_offsetOf? {pattern text : List Char} (h : offsetOf? pattern text = none) :
    ¬ pattern <:+: text := by
  fun_induction offsetOf? pattern text with
  | case1 hempty => cases h
  | case2 hempty =>
      intro hinfix
      exact hempty (List.isEmpty_iff.mpr (List.infix_nil.mp hinfix))
  | case3 c rest hstarts => cases h
  | case4 c rest hstarts ih =>
      intro hinfix
      rcases List.infix_cons_iff.mp hinfix with hstart | hrest
      · exact hstarts (List.isPrefixOf_iff_prefix.mpr hstart)
      · exact ih (Option.map_eq_none_iff.mp h) hrest

/-- A line comment on the last line takes all the rest. -/
theorem dropCommentsFrom_lineComment_open {body : List Char} (hbody : '\n' ∉ body) :
    dropCommentsFrom .lineComment body = [] := by
  induction body with
  | nil => rfl
  | cons c body ih =>
      obtain ⟨hc, hrest⟩ := not_or.mp (mt List.mem_cons.mpr hbody)
      rw [dropCommentsFrom_lineComment_cons (Ne.symm hc), ih hrest]

section
variable {text before rest : List Char}

theorem getElem?_behind_slash {mark : Char} (hmark : mark.toNat < 0x80)
    (htext : text = before ++ '/' :: rest) :
    (bytesOf text)[size before + 1]? = some mark.toUInt8 ↔ rest.head? = some mark := by
  have hsplit : text = (before ++ ['/']) ++ rest := by simp [htext]
  have hsize : size (before ++ ['/']) = size before + 1 := size_snoc_of_ascii (by decide) before
  rw [hsplit, ← hsize, getElem?_bytesOf_eq_iff hmark]

theorem commentEnd?_block (htext : text = before ++ '/' :: '*' :: rest) :
    ∃ comment behind, rest = comment ++ behind ∧
      commentEnd? text '/'.toUInt8 (size before)
        = .ok (some (size (before ++ '/' :: '*' :: comment))) ∧
      dropCommentsFrom .blockComment rest = dropCommentsFrom (.text .code) behind := by
  have hsize (comment : List Char) :
      size (before ++ '/' :: '*' :: comment) = size before + 2 + size comment := by
    have hmarks : '/'.utf8Size = 1 ∧ '*'.utf8Size = 1 := by decide
    rw [size_append, size_cons, size_cons, hmarks.1, hmarks.2]
    omega
  have hslice : slice text (size before + 2) (size text) = .ok rest := by
    have hsplit : text = (before ++ ['/', '*']) ++ rest := by simp [htext]
    have hstart : size (before ++ ['/', '*']) = size before + 2 := hsize []
    rw [hsplit, ← hstart, slice_end]
  rw [commentEnd?, if_pos ⟨rfl, (getElem?_behind_slash (by decide) htext).mpr rfl⟩, hslice]
  cases hfound : offsetOf? ['*', '/'] rest with
  | none =>
      refine ⟨rest, [], (List.append_nil rest).symm, ?_, ?_⟩
      · rw [← htext]
        simp only [bind, Except.bind, hfound]
        rfl
      · exact dropCommentsFrom_blockComment_open (not_infix_of_offsetOf? hfound)
  | some found =>
      obtain ⟨front, behind, rfl, rfl, hbody⟩ := exists_of_offsetOf? hfound (by simp)
      refine ⟨front ++ ['*', '/'], behind, by simp, ?_, dropCommentsFrom_blockComment hbody behind⟩
      rw [hsize, size_append, ← Nat.add_assoc]
      simp only [bind, Except.bind, hfound]
      rfl

theorem commentEnd?_line (htext : text = before ++ '/' :: '/' :: rest) :
    ∃ comment behind, rest = comment ++ behind ∧
      commentEnd? text '/'.toUInt8 (size before)
        = .ok (some (size (before ++ '/' :: '/' :: comment))) ∧
      dropCommentsFrom .lineComment rest = dropCommentsFrom (.text .code) behind := by
  have hblock : ¬('/'.toUInt8 = '/'.toUInt8 ∧ (bytesOf text)[size before + 1]? = some '*'.toUInt8) := by
    rw [getElem?_behind_slash (by decide) htext]
    simp
  have hslice : slice text (size before) (size text) = .ok ('/' :: '/' :: rest) := by
    rw [htext, slice_end]
  rw [commentEnd?, if_neg hblock, if_pos ⟨rfl, (getElem?_behind_slash (by decide) htext).mpr rfl⟩,
    hslice]
  cases hfound : offsetOf? ['\n'] ('/' :: '/' :: rest) with
  | none =>
      have hbody : '\n' ∉ rest := by
        have hinfix := not_infix_of_offsetOf? hfound
        rw [List.singleton_infix_iff] at hinfix
        exact fun hmem => hinfix (List.mem_cons_of_mem _ (List.mem_cons_of_mem _ hmem))
      refine ⟨rest, [], (List.append_nil rest).symm, ?_, dropCommentsFrom_lineComment_open hbody⟩
      rw [← htext]
      simp only [bind, Except.bind, hfound]
      rfl
  | some found =>
      obtain ⟨front, behind, hsplit, rfl, hbody⟩ := exists_of_offsetOf? hfound (by simp)
      rw [List.singleton_infix_iff] at hbody
      -- The line feed is not found in the two slashes.
      cases front with
      | nil => cases hsplit
      | cons first front =>
          cases front with
          | nil => cases hsplit
          | cons second comment =>
              simp only [List.cons_append, List.cons.injEq] at hsplit
              obtain ⟨rfl, rfl, rfl⟩ := hsplit
              have hcomment : '\n' ∉ comment := fun hmem =>
                hbody (List.mem_cons_of_mem _ (List.mem_cons_of_mem _ hmem))
              refine ⟨comment, '\n' :: behind, rfl, ?_, dropCommentsFrom_lineComment hcomment behind⟩
              rw [size_append]
              simp only [bind, Except.bind, hfound]
              rfl

theorem commentEnd?_of_ne {byte : UInt8} (h : byte ≠ '/'.toUInt8) (offset : Nat) :
    commentEnd? text byte offset = .ok none := by
  rw [commentEnd?, if_neg fun hboth => h hboth.1, if_neg fun hboth => h hboth.1]
  rfl

theorem commentEnd?_of_head (htext : text = before ++ '/' :: rest)
    (hblock : rest.head? ≠ some '*') (hline : rest.head? ≠ some '/') :
    commentEnd? text '/'.toUInt8 (size before) = .ok none := by
  rw [commentEnd?, if_neg, if_neg]
  · rfl
  · rintro ⟨-, hnext⟩
    exact hline ((getElem?_behind_slash (by decide) htext).mp hnext)
  · rintro ⟨-, hnext⟩
    exact hblock ((getElem?_behind_slash (by decide) htext).mp hnext)

/-! ### Rounds -/

theorem commentTurn_of_quote {byte : UInt8} {offset closing : Nat} (copy : Copy)
    (helement : element (bytesOf text) offset = .ok byte) (hquote : isQuoteByte byte = true)
    (hliteral : literalEnd (bytesOf text) offset = .ok closing) :
    commentTurn text offset copy = .ok (.next (closing + 1) copy) := by
  rw [commentTurn, helement]
  simp only [bind, Except.bind, hquote, if_true, hliteral]
  rfl

theorem commentTurn_of_plain {byte : UInt8} {offset : Nat} (copy : Copy)
    (helement : element (bytesOf text) offset = .ok byte) (hquote : isQuoteByte byte = false)
    (hcomment : commentEnd? text byte offset = .ok none) :
    commentTurn text offset copy = .ok (.next (offset + 1) copy) := by
  rw [commentTurn, helement]
  simp only [bind, Except.bind, hquote, Bool.false_eq_true, if_false, hcomment]
  rfl

theorem dropCommentsFrom_of_code_or_nil {state : Quoting} {behind : List Char}
    (h : state = .code ∨ behind = []) :
    dropCommentsFrom (.text state) behind = dropCommentsFrom (.text .code) behind := by
  rcases h with rfl | rfl
  · rfl
  · simp [dropCommentsFrom]

end

/-- Of a text, what stands behind `done` and `pending` is copied without its comments, when `done` has
been copied or dropped and `pending` passed over. -/
def Copies (text done pending out rest : List Char) : Prop :=
  loop (size text) (commentTurn text) (copyRest text) (size (done ++ pending)) ⟨size done, out⟩
    = .ok (out ++ pending ++ dropCommentsFrom (.text .code) rest)

namespace Copies
variable {text done pending rest : List Char} {c : Char} (out : List Char)

theorem nil (htext : text = done ++ pending) : Copies text done pending out [] := by
  have hslice : slice text (size done) (size text) = .ok pending := by
    rw [htext, slice_end]
  have hmin : min (size done) (size text) = size done := by
    rw [htext, size_append]
    omega
  rw [Copies, ← htext, loop_of_le (Nat.le_refl _), copyRest]
  simp only [hmin, hslice, bind, Except.bind, dropCommentsFrom, List.append_nil]
  rfl

theorem literal (hquote : isQuote c = true) (htext : text = done ++ (pending ++ c :: rest)) :
    ∃ literal behind, rest = literal ++ behind ∧
      (Copies text done (pending ++ c :: literal) out behind →
        Copies text done pending out (c :: rest)) := by
  have hbefore : text = (done ++ pending) ++ c :: rest := by simp [htext]
  obtain ⟨literal, behind, rfl, hcovers, hbehind, hloop⟩ :=
    loop_literal (commentTurn text) (copyRest text) ⟨size done, out⟩ hquote hbefore
      fun closing helement hliteral =>
        commentTurn_of_quote _ helement (isQuoteByte_of_isQuote hquote) hliteral
  refine ⟨literal, behind, rfl, fun hnext => ?_⟩
  rw [List.append_assoc] at hloop
  rw [Copies, hloop, hnext, ← List.cons_append, dropCommentsFrom_of_covers hcovers,
    dropCommentsFrom_of_code_or_nil hbehind]
  simp only [List.append_assoc]

theorem plain (hquote : isQuote c = false) (htext : text = done ++ (pending ++ c :: rest))
    (hkept : c = '/' → rest.head? ≠ some '*' ∧ rest.head? ≠ some '/')
    (hnext : Copies text done (pending ++ [c]) out rest) :
    Copies text done pending out (c :: rest) := by
  have hbefore : text = (done ++ pending) ++ c :: rest := by simp [htext]
  have hloop : loop (size text) (commentTurn text) (copyRest text) (size (done ++ pending))
        ⟨size done, out⟩
      = loop (size text) (commentTurn text) (copyRest text) (size (done ++ pending ++ [c]))
        ⟨size done, out⟩ := by
    by_cases hc : c = '/'
    · subst hc
      obtain ⟨hblock, hline⟩ := hkept rfl
      exact loop_mark (by decide) hbefore fun helement => commentTurn_of_plain _ helement
        (by decide) (commentEnd?_of_head hbefore hblock hline)
    · exact loop_char hbefore fun offset byte hmem helement => commentTurn_of_plain _ helement
        (isQuoteByte_of_mem hquote hmem)
        (commentEnd?_of_ne (ne_of_mem_utf8EncodeChar (by decide) hc hmem) offset)
  rw [List.append_assoc] at hloop
  rw [Copies, hloop, hnext, dropCommentsFrom_text_cons fun _ => hkept,
    Quoting.step_of_isCode (Quoting.isCode_code hquote)]
  simp only [List.append_assoc, List.singleton_append]

theorem comment {comment behind : List Char}
    (htext : text = done ++ (pending ++ '/' :: (comment ++ behind)))
    (hend : commentEnd? text '/'.toUInt8 (size (done ++ pending))
      = .ok (some (size (done ++ pending ++ '/' :: comment))))
    (hdrop : dropCommentsFrom (.text .code) ('/' :: (comment ++ behind))
      = ' ' :: dropCommentsFrom (.text .code) behind)
    (hnext : Copies text (done ++ pending ++ '/' :: comment) [] (out ++ pending ++ [' ']) behind) :
    Copies text done pending out ('/' :: (comment ++ behind)) := by
  have hbefore : text = (done ++ pending) ++ '/' :: (comment ++ behind) := by simp [htext]
  have hslice : slice text (size done) (size (done ++ pending)) = .ok pending := by
    rw [htext, slice_middle]
  have hquote : isQuoteByte '/'.toUInt8 = false := by decide
  have hturn : commentTurn text (size (done ++ pending)) ⟨size done, out⟩
      = .ok (.next (size (done ++ pending ++ '/' :: comment))
          ⟨size (done ++ pending ++ '/' :: comment), out ++ pending ++ [' ']⟩) := by
    rw [commentTurn, element_of_ascii (by decide) hbefore]
    simp only [bind, Except.bind, hquote, Bool.false_eq_true, if_false, hend, hslice]
    rfl
  rw [Copies, List.append_nil, List.append_nil] at hnext
  rw [Copies, loop_of_next (size_lt hbefore) hturn (size_lt rfl), hnext, hdrop]
  simp only [List.append_assoc, List.singleton_append]

/-- Each round goes on behind a literal, a comment or a single character. -/
theorem step (htext : text = done ++ (pending ++ c :: rest)) :
    ∃ done' pending' out' rest', text = done' ++ (pending' ++ rest') ∧
      rest'.length ≤ rest.length ∧
      (Copies text done' pending' out' rest' → Copies text done pending out (c :: rest)) := by
  have hbefore : text = (done ++ pending) ++ c :: rest := by simp [htext]
  cases hquote : isQuote c with
  | true =>
      obtain ⟨literal, behind, rfl, hnext⟩ := literal out hquote htext
      exact ⟨done, _, out, behind, by simp [htext], by simp, hnext⟩
  | false =>
      by_cases hblock : c = '/' ∧ rest.head? = some '*'
      · obtain ⟨rfl, hhead⟩ := hblock
        obtain ⟨rest, rfl⟩ := List.head?_eq_some_iff.mp hhead
        obtain ⟨inner, behind, rfl, hend, hdrop⟩ := commentEnd?_block hbefore
        refine ⟨done ++ pending ++ '/' :: '*' :: inner, [], _, behind, by simp [htext], ?_,
          comment out htext hend ?_⟩
        · simp
          omega
        · rw [List.cons_append, dropCommentsFrom, hdrop]
      · by_cases hline : c = '/' ∧ rest.head? = some '/'
        · obtain ⟨rfl, hhead⟩ := hline
          obtain ⟨rest, rfl⟩ := List.head?_eq_some_iff.mp hhead
          obtain ⟨inner, behind, rfl, hend, hdrop⟩ := commentEnd?_line hbefore
          refine ⟨done ++ pending ++ '/' :: '/' :: inner, [], _, behind, by simp [htext], ?_,
            comment out htext hend ?_⟩
          · simp
            omega
          · rw [List.cons_append, dropCommentsFrom, hdrop]
        · exact ⟨done, _, out, rest, by simp [htext], Nat.le_refl _, plain out hquote htext
            fun hc => ⟨fun hhead => hblock ⟨hc, hhead⟩, fun hhead => hline ⟨hc, hhead⟩⟩⟩

end Copies

theorem copies {text done pending rest : List Char} (htext : text = done ++ (pending ++ rest))
    (out : List Char) : Copies text done pending out rest := by
  -- On the length of the rest: a literal and a comment are passed over as a whole.
  induction hlength : rest.length using Nat.strong_induction_on
    generalizing done pending rest out with
  | _ length ih =>
    cases rest with
    | nil => exact Copies.nil out (by simpa using htext)
    | cons c rest =>
        obtain ⟨done', pending', out', rest', htext', hshort, hnext⟩ := Copies.step out htext
        refine hnext (ih rest'.length ?_ htext' out' rfl)
        rw [← hlength, List.length_cons]
        omega

/-- The text without comments. -/
theorem dropComments_eq (text : List Char) :
    dropComments text = .ok (Source.dropComments text) :=
  @copies text [] [] text rfl []

end HeaderBindings.Offsets
