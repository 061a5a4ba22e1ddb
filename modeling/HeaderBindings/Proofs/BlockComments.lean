import HeaderBindings.Proofs.LineMarkers
import HeaderBindings.Source.Reading

/-!
When a block comment may stand in place of a space. Line markers are taken out before comments, and
a marker line is looked for inside comments too. So a comment is read as a space exactly when the
line on which it ends does not start, within the comment, like a marker; and the space must not make
a marker of the line on which the comment begins.
-/

namespace HeaderBindings.Source
open Text

/-- The text ends outside line markers and, once these are taken out, outside literals and
comments. -/
structure EndsInCode (text : List Char) : Prop where
  line : isMarkerLine (lastLine text) = false
  region : (Region.text .code).after (blankMarkers text) = .text .code

/-- A block comment. -/
def blockComment (body : List Char) : List Char := '/' :: '*' :: body ++ ['*', '/']

theorem blockComment_append (body rest : List Char) :
    blockComment body ++ rest = '/' :: '*' :: (body ++ '*' :: '/' :: rest) := by
  simp [blockComment]

/-- The last line of a comment is no marker, so that its end is not taken out with one. -/
def KeepsEnd (body : List Char) : Prop := '\n' ∈ body → isMarkerLine (lastLine body) = false

/-! ### Line markers around a comment -/

/-- Taking line markers out leaves no slash at the end that was not there. -/
theorem suffix_slash_of_blankMarkersFrom {position : LinePosition} {text : List Char}
    (h : ['/'] <:+ blankMarkersFrom position text) : ['/'] <:+ text := by
  induction text generalizing position with
  | nil => simp at h
  | cons c rest ih =>
      have hskip {position : LinePosition} (h : ['/'] <:+ blankMarkersFrom position rest) :
          ['/'] <:+ c :: rest := (ih h).trans (List.suffix_cons c rest)
      have hother {position : LinePosition} {d : Char} (hd : d ≠ '/')
          (h : ['/'] <:+ d :: blankMarkersFrom position rest) : ['/'] <:+ c :: rest := by
        rcases List.suffix_cons_iff.mp h with heq | hsuffix
        · exact absurd (List.cons.inj heq).1.symm hd
        · exact hskip hsuffix
      have hkeep (h : ['/'] <:+ c :: blankMarkersFrom (.behind c) rest) : ['/'] <:+ c :: rest := by
        by_cases hc : c = '/'
        · subst hc
          cases rest with
          | nil => exact List.suffix_refl _
          | cons d more =>
              rcases List.suffix_cons_iff.mp h with heq | hsuffix
              · simp [LinePosition.behind, blankMarkersFrom] at heq
              · exact hskip hsuffix
        · exact hother hc h
      cases position with
      | start =>
          rw [blankMarkersFrom] at h
          split at h
          · exact hother (by decide) h
          · exact hkeep h
      | inside => exact hkeep h
      | dropped =>
          rw [blankMarkersFrom] at h
          split at h
          · exact hother (by decide) h
          · exact hskip h

/-- Text behind the end of a line that stays is scanned from inside that line. -/
theorem blankMarkers_append_cons {before : List Char} {c : Char} {rest : List Char}
    (hc : c ≠ '\n') (h : isMarkerLine (lastLine before ++ c :: rest) = false) :
    blankMarkers (before ++ c :: rest)
      = blankMarkers before ++ c :: blankMarkersFrom .inside rest := by
  have hbefore : isMarkerLine (lastLine before) = false := by
    rw [Bool.eq_false_iff]
    intro hmarker
    rw [isMarkerLine_append_of_isMarkerLine hmarker] at h
    cases h
  rw [blankMarkers_eq, blankMarkers_eq, blankMarkersFrom_append fun _ => h.trans hbefore.symm,
    blankMarkersFrom_cons]
  · rw [LinePosition.behind, if_neg hc]
  · intro hdropped
    rcases (LinePosition.after_eq_dropped_iff before).mp hdropped with ⟨-, hmarker⟩ | ⟨hstart, -⟩
    · rw [hmarker] at hbefore
      cases hbefore
    · cases hstart
  · intro hstart
    rwa [lastLine_eq_nil_of_after_eq_start hstart] at h

/-- The position behind the body of a comment. -/
theorem after_body {body : List Char} :
    (LinePosition.inside.after body = .dropped) ↔ ¬KeepsEnd body := by
  rw [LinePosition.after_eq_dropped_iff, KeepsEnd]
  simp [LinePosition.SeesLast]

/-- The body of a comment and the text behind it are scanned one after the other. -/
theorem blankMarkersFrom_body_append (body rest : List Char) :
    blankMarkersFrom .inside (body ++ '*' :: '/' :: rest)
      = blankMarkersFrom .inside body
        ++ blankMarkersFrom (LinePosition.inside.after body) ('*' :: '/' :: rest) := by
  refine blankMarkersFrom_append fun _ => isMarkerLine_append ?_ _
  exact isMarkerLine_cons_other (by decide) _

/-- A comment that keeps its end leaves the line behind it as it is. -/
theorem blankMarkersFrom_body {body : List Char} (hends : KeepsEnd body) (rest : List Char) :
    blankMarkersFrom .inside (body ++ '*' :: '/' :: rest)
      = blankMarkersFrom .inside body ++ '*' :: '/' :: blankMarkersFrom .inside rest := by
  have hkept : LinePosition.inside.after body ≠ .dropped := fun h => after_body.mp h hends
  rw [blankMarkersFrom_body_append,
    blankMarkersFrom_cons hkept fun _ => isMarkerLine_cons_other (by decide) _]
  rfl

theorem blankMarkers_blockComment {before body : List Char} (after : List Char)
    (hbefore : isMarkerLine (lastLine before) = false) :
    blankMarkers (before ++ blockComment body ++ after)
      = blankMarkers before
        ++ '/' :: '*' :: blankMarkersFrom .inside (body ++ '*' :: '/' :: after) := by
  have hslash : isMarkerLine ('/' :: '*' :: (body ++ '*' :: '/' :: after)) = false :=
    isMarkerLine_cons_other (by decide) _
  have htext : before ++ blockComment body ++ after
      = before ++ '/' :: ('*' :: (body ++ '*' :: '/' :: after)) := by
    simp [blockComment]
  rw [htext, blankMarkers_append_cons (by decide) ((isMarkerLine_append hslash _).trans hbefore),
    blankMarkersFrom, LinePosition.behind, if_neg (by decide)]

/-! ### The comment itself -/

/-- A comment that keeps its end is read as a space. -/
theorem dropComments_blockComment {before body : List Char} (after : List Char)
    (hbefore : EndsInCode before) (hslash : ¬ ['/'] <:+ before) (hbody : IsCommentBody body)
    (hends : KeepsEnd body) :
    dropComments (blankMarkers (before ++ blockComment body ++ after))
      = dropComments (blankMarkers before)
        ++ ' ' :: dropComments (blankMarkersFrom .inside after) := by
  have hslash' : ¬ ['/'] <:+ blankMarkers before := by
    rw [blankMarkers_eq]
    exact fun h => hslash (suffix_slash_of_blankMarkersFrom h)
  rw [blankMarkers_blockComment after hbefore.line, blankMarkersFrom_body hends, dropComments,
    dropCommentsFrom_append hbefore.region fun h => absurd h hslash', dropCommentsFrom,
    dropCommentsFrom_blockComment (hbody.blankMarkersFrom .inside)]
  rfl

/-- A space in the same place. -/
theorem dropComments_space {before : List Char} {after : List Char}
    (hbefore : EndsInCode before) (hslash : ¬ ['/'] <:+ before)
    (hline : isMarkerLine (lastLine before ++ ' ' :: after) = false) :
    dropComments (blankMarkers (before ++ ' ' :: after))
      = dropComments (blankMarkers before)
        ++ ' ' :: dropComments (blankMarkersFrom .inside after) := by
  have hslash' : ¬ ['/'] <:+ blankMarkers before := by
    rw [blankMarkers_eq]
    exact fun h => hslash (suffix_slash_of_blankMarkersFrom h)
  rw [blankMarkers_append_cons (by decide) hline, dropComments,
    dropCommentsFrom_append hbefore.region fun h => absurd h hslash',
    dropCommentsFrom_text_cons (by simp)]
  rfl

/-! ### The whole reading -/

/-- What is read depends on the text without line markers and comments only. -/
theorem readHeader_congr {first second : String}
    (h : dropComments (blankMarkers first.toList) = dropComments (blankMarkers second.toList))
    (filter : NameFilter) : readHeader filter first = readHeader filter second := by
  rw [readHeader, readHeader, clean, clean, h]

theorem toList_blockComment (before body after : String) :
    (before ++ "/*" ++ body ++ "*/" ++ after).toList
      = before.toList ++ blockComment body.toList ++ after.toList := by
  simp [blockComment]

/-- Two comments that keep their ends are read alike. -/
theorem readHeader_blockComment_congr {before body other after : String}
    (hbefore : EndsInCode before.toList) (hslash : ¬ ['/'] <:+ before.toList)
    (hbody : IsCommentBody body.toList) (hends : KeepsEnd body.toList)
    (hother : IsCommentBody other.toList) (hends' : KeepsEnd other.toList) (filter : NameFilter) :
    readHeader filter (before ++ "/*" ++ body ++ "*/" ++ after)
      = readHeader filter (before ++ "/*" ++ other ++ "*/" ++ after) := by
  refine readHeader_congr ?_ filter
  rw [toList_blockComment, toList_blockComment,
    dropComments_blockComment _ hbefore hslash hbody hends,
    dropComments_blockComment _ hbefore hslash hother hends']

/-- A comment that keeps its end is read like a space that makes no marker of its line. -/
theorem readHeader_blockComment {before body after : String} (hbefore : EndsInCode before.toList)
    (hslash : before.toList.getLast? ≠ some '/') (hbody : IsCommentBody body.toList)
    (hends : KeepsEnd body.toList)
    (hline : isMarkerLine (lastLine before.toList ++ ' ' :: after.toList) = false)
    (filter : NameFilter) :
    readHeader filter (before ++ "/*" ++ body ++ "*/" ++ after)
      = readHeader filter (before ++ " " ++ after) := by
  have hslash' : ¬ ['/'] <:+ before.toList := by
    rintro ⟨init, hinit⟩
    exact hslash (by rw [← hinit, List.getLast?_concat])
  refine readHeader_congr ?_ filter
  have hspace : (before ++ " " ++ after).toList = before.toList ++ ' ' :: after.toList := by
    simp
  rw [toList_blockComment, hspace, dropComments_blockComment _ hbefore hslash' hbody hends,
    dropComments_space hbefore hslash' hline]

/-! ### A comment that loses its end -/

theorem isCommentBody_append_newline {first second : List Char} (hfirst : IsCommentBody first)
    (hsecond : IsCommentBody second) : IsCommentBody (first ++ '\n' :: second) := by
  induction first with
  | nil => exact isCommentBody_cons.mpr ⟨by simp, hsecond⟩
  | cons c rest ih =>
      obtain ⟨hc, hrest⟩ := isCommentBody_cons.mp hfirst
      refine isCommentBody_cons.mpr ⟨?_, ih hrest⟩
      rintro ⟨rfl, hhead⟩
      cases rest with
      | nil => simp at hhead
      | cons d more => exact hc ⟨rfl, by simpa using hhead⟩

/-- A comment whose last line is a marker loses its end with the rest of that line, and goes on to
the next end there is. -/
theorem dropComments_of_lost_end {body line after : List Char} (hbody : IsCommentBody body)
    (hends : ¬KeepsEnd body) (hline : '\n' ∉ line) (hafter : IsCommentBody after) :
    dropComments (blankMarkers (blockComment body ++ (line ++ '\n' :: after))) = [' '] := by
  have hlost : blankMarkersFrom (LinePosition.inside.after body)
      ('*' :: '/' :: (line ++ '\n' :: after)) = '\n' :: blankMarkersFrom .start after := by
    have hends' : '\n' ∉ '*' :: '/' :: line := by simpa using hline
    rw [after_body.mpr hends]
    exact blankMarkersFrom_dropped_append hends' ('\n' :: after)
  have htext : blankMarkers ([] ++ blockComment body ++ (line ++ '\n' :: after)) = _ :=
    blankMarkers_blockComment _ rfl
  rw [blankMarkersFrom_body_append, hlost, List.nil_append] at htext
  have hopen : IsCommentBody
      (blankMarkersFrom .inside body ++ '\n' :: blankMarkersFrom .start after) :=
    isCommentBody_append_newline (hbody.blankMarkersFrom .inside) (hafter.blankMarkersFrom .start)
  rw [htext]
  show ' ' :: dropCommentsFrom .blockComment _ = [' ']
  rw [dropCommentsFrom_blockComment_open hopen]

/-- Nothing is read of a text that starts with such a comment and has no other. -/
theorem readHeader_of_lost_end {body line after : String} (hbody : IsCommentBody body.toList)
    (hends : ¬KeepsEnd body.toList) (hline : '\n' ∉ line.toList)
    (hafter : IsCommentBody after.toList) (filter : NameFilter) :
    (readHeader filter ("/*" ++ body ++ "*/" ++ (line ++ "\n" ++ after))).value = {} := by
  have htext : dropComments (blankMarkers ("/*" ++ body ++ "*/" ++ (line ++ "\n" ++ after)).toList)
      = dropComments (blankMarkers " ".toList) := by
    have hlist : ("/*" ++ body ++ "*/" ++ (line ++ "\n" ++ after)).toList
        = blockComment body.toList ++ (line.toList ++ '\n' :: after.toList) := by
      simp [blockComment]
    rw [hlist, dropComments_of_lost_end hbody hends hline hafter]
    rfl
  rw [readHeader_congr htext filter]
  have hclean : (clean " ".toList).value = [] := by decide +kernel
  rw [readHeader, Logged.value_bind, hclean]
  rfl

/-! ### When a comment is transparent -/

theorem endsInCode_empty : EndsInCode "".toList :=
  ⟨by simp [lastLine], by simp [blankMarkers_eq, Region.after]⟩

/-- A block comment with a given body is read as a space, wherever it stands in code and the space
makes no marker of its line, exactly when the last line of the body is no marker. And there is
always a place where the space does make a marker of the line, and the two are read differently. -/
theorem blockComment_transparent_iff {body : String} (hbody : IsCommentBody body.toList) :
    ((∀ (filter : NameFilter) (before after : String), EndsInCode before.toList →
        before.toList.getLast? ≠ some '/' →
        isMarkerLine (lastLine before.toList ++ ' ' :: after.toList) = false →
        (readHeader filter (before ++ "/*" ++ body ++ "*/" ++ after)).value
          = (readHeader filter (before ++ " " ++ after)).value)
      ↔ KeepsEnd body.toList) ∧
    ∃ before after : String, EndsInCode before.toList ∧ before.toList.getLast? ≠ some '/' ∧
      isMarkerLine (lastLine before.toList ++ ' ' :: after.toList) = true ∧
      (readHeader {} (before ++ "/*" ++ body ++ "*/" ++ after)).value
        ≠ (readHeader {} (before ++ " " ++ after)).value := by
  -- A comment that loses its end swallows this declaration, whatever the line before it holds.
  have hlost (hends : ¬KeepsEnd body.toList) (line : String) (hline : '\n' ∉ line.toList) :
      (readHeader {} ("" ++ "/*" ++ body ++ "*/" ++ (line ++ "\n" ++ "int f(int a);"))).value
        = {} := by
    have hafter : IsCommentBody "int f(int a);".toList := by decide +kernel
    rw [String.empty_append]
    exact readHeader_of_lost_end hbody hends hline hafter {}
  refine ⟨⟨fun htransparent => ?_, fun hends filter before after hbefore hslash hline => ?_⟩, ?_⟩
  · by_cases hends : KeepsEnd body.toList
    · exact hends
    · have hsame := htransparent {} "" ("" ++ "\n" ++ "int f(int a);") endsInCode_empty (by simp)
        (by decide +kernel)
      rw [hlost hends "" (by simp)] at hsame
      exact absurd hsame (by decide +kernel)
  · rw [readHeader_blockComment hbefore hslash hbody hends hline filter]
  · refine ⟨"", "#" ++ "\n" ++ "int f(int a);", endsInCode_empty, by simp, by decide +kernel, ?_⟩
    by_cases hends : KeepsEnd body.toList
    · have hempty : KeepsEnd "".toList := by simp [KeepsEnd]
      have hsame : readHeader {} ("" ++ "/*" ++ body ++ "*/" ++ ("#" ++ "\n" ++ "int f(int a);"))
          = readHeader {} ("" ++ "/*" ++ "" ++ "*/" ++ ("#" ++ "\n" ++ "int f(int a);")) :=
        readHeader_blockComment_congr endsInCode_empty (by simp) hbody hends (by decide +kernel)
          hempty {}
      rw [hsame]
      decide +kernel
    · rw [hlost hends "#" (by decide +kernel)]
      decide +kernel

/-- A comment with quotes, a brace and a marker line of its own in front of its last line. -/
theorem blockComment_transparent_apostrophe :
    IsCommentBody " don't \x7b\n# 1 \"x.h\"\n".toList ∧
    KeepsEnd " don't \x7b\n# 1 \"x.h\"\n".toList ∧
    EndsInCode "int f(int a);".toList ∧
    (readHeader {} ("int f(int a);" ++ "/*" ++ " don't \x7b\n# 1 \"x.h\"\n" ++ "*/"
        ++ "int g(int b);")).value
      = (readHeader {} ("int f(int a);" ++ " " ++ "int g(int b);")).value := by
  have hbody : IsCommentBody " don't \x7b\n# 1 \"x.h\"\n".toList := by decide +kernel
  have hends : KeepsEnd " don't \x7b\n# 1 \"x.h\"\n".toList := fun _ => by decide +kernel
  have hbefore : EndsInCode "int f(int a);".toList := ⟨by decide +kernel, by decide +kernel⟩
  exact ⟨hbody, hends, hbefore, (blockComment_transparent_iff hbody).1.mpr hends {} "int f(int a);"
    "int g(int b);" hbefore (by decide +kernel) (by decide +kernel)⟩

/-- A comment whose last line starts like a marker takes the declaration behind it along. -/
theorem blockComment_with_marker_line_loses_declaration :
    EndsInCode "int f(int a);\n".toList ∧ "int f(int a);\n".toList.getLast? ≠ some '/' ∧
    IsCommentBody " one\n# two ".toList ∧
    (readHeader {} ("int f(int a);\n" ++ "/*" ++ " one\n# two " ++ "*/"
        ++ "\nint g(int b);")).value.functions.map (·.name) = ["f"] ∧
    (readHeader {} ("int f(int a);\n" ++ " " ++ "\nint g(int b);")).value.functions.map (·.name)
      = ["f", "g"] :=
  ⟨⟨by decide +kernel, by decide +kernel⟩, by decide +kernel, by decide +kernel,
    by decide +kernel, by decide +kernel⟩

end HeaderBindings.Source
