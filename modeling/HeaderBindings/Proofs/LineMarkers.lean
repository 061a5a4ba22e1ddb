import HeaderBindings.Proofs.Comments
import HeaderBindings.Source.LineMarkers

/-!
Line markers taken out in one pass. `blankMarkersFrom` reads the text from a position in a line, so
that the text behind any character can be described on its own; on a whole text it is
`blankMarkers`. Two texts put together are scanned one after the other, unless the second makes a
marker of the line on which the first ends. Taking markers out never closes a block comment.
-/

namespace HeaderBindings.Source
open Text

/-! ### The line that decides -/

/-- The text behind the last line feed. -/
def lastLine : List Char → List Char
  | [] => []
  | c :: rest => if '\n' ∈ c :: rest then lastLine rest else c :: rest

theorem lastLine_eq_self {text : List Char} (h : '\n' ∉ text) : lastLine text = text := by
  cases text with
  | nil => rfl
  | cons c rest => rw [lastLine, if_neg h]

theorem lastLine_cons_of_mem {c : Char} {rest : List Char} (h : '\n' ∈ rest) :
    lastLine (c :: rest) = lastLine rest := by
  rw [lastLine, if_pos (List.mem_cons_of_mem c h)]

theorem lastLine_newline_cons (rest : List Char) : lastLine ('\n' :: rest) = lastLine rest := by
  rw [lastLine, if_pos List.mem_cons_self]

@[simp] theorem isMarkerLine_nil : isMarkerLine [] = false := rfl

/-- A blank in front does not change whether a line is a marker. -/
theorem isMarkerLine_cons_blank {c : Char} (h : c = ' ' ∨ c = '\t') (rest : List Char) :
    isMarkerLine (c :: rest) = isMarkerLine rest := by
  rcases h with rfl | rfl <;> simp [isMarkerLine]

/-- Any other first character decides. -/
theorem isMarkerLine_cons_other {c : Char} (h : ¬(c = ' ' ∨ c = '\t')) (rest : List Char) :
    isMarkerLine (c :: rest) = (c == '#') := by
  obtain ⟨hspace, htab⟩ := not_or.mp h
  simp [isMarkerLine, hspace, htab]

/-- A line feed ends the line, whatever comes behind it. -/
theorem isMarkerLine_append_of_newline_mem {line : List Char} (h : '\n' ∈ line) (more : List Char) :
    isMarkerLine (line ++ more) = isMarkerLine line := by
  induction line with
  | nil => simp at h
  | cons c rest ih =>
      rw [List.cons_append]
      by_cases hblank : c = ' ' ∨ c = '\t'
      · have hne : '\n' ≠ c := by rcases hblank with rfl | rfl <;> decide
        have hrest : '\n' ∈ rest := (List.mem_cons.mp h).resolve_left hne
        rw [isMarkerLine_cons_blank hblank, isMarkerLine_cons_blank hblank, ih hrest]
      · rw [isMarkerLine_cons_other hblank, isMarkerLine_cons_other hblank]

/-- A text that does not start with a marker makes no marker of the line in front of it. -/
theorem isMarkerLine_append {more : List Char} (hmore : isMarkerLine more = false)
    (line : List Char) : isMarkerLine (line ++ more) = isMarkerLine line := by
  induction line with
  | nil => simpa using hmore
  | cons c rest ih =>
      rw [List.cons_append]
      by_cases hblank : c = ' ' ∨ c = '\t'
      · rw [isMarkerLine_cons_blank hblank, isMarkerLine_cons_blank hblank, ih]
      · rw [isMarkerLine_cons_other hblank, isMarkerLine_cons_other hblank]

/-- What follows a marker belongs to it. -/
theorem isMarkerLine_append_of_isMarkerLine {line : List Char} (h : isMarkerLine line = true)
    (more : List Char) : isMarkerLine (line ++ more) = true := by
  induction line with
  | nil => simp at h
  | cons c rest ih =>
      rw [List.cons_append]
      by_cases hblank : c = ' ' ∨ c = '\t'
      · rw [isMarkerLine_cons_blank hblank] at h ⊢
        exact ih h
      · rwa [isMarkerLine_cons_other hblank] at h ⊢

/-! ### The scan -/

/-- Where a position stands in its line. -/
inductive LinePosition where
  /-- In front of the first character. -/
  | start
  /-- In a line that stays. -/
  | inside
  /-- In a line marker, of which nothing more is kept. -/
  | dropped
  deriving DecidableEq

/-- The position behind a character of a line that stays. -/
def LinePosition.behind (c : Char) : LinePosition := if c = '\n' then .start else .inside

/-- The text without line markers from a position on. -/
def blankMarkersFrom : LinePosition → List Char → List Char
  | _, [] => []
  | .start, c :: rest =>
      if isMarkerLine (c :: rest) then ' ' :: blankMarkersFrom .dropped rest
      else c :: blankMarkersFrom (.behind c) rest
  | .inside, c :: rest => c :: blankMarkersFrom (.behind c) rest
  | .dropped, c :: rest =>
      if c = '\n' then '\n' :: blankMarkersFrom .start rest else blankMarkersFrom .dropped rest

/-- The position behind a text. -/
def LinePosition.after : LinePosition → List Char → LinePosition
  | position, [] => position
  | .start, c :: rest =>
      if isMarkerLine (c :: rest) then dropped.after rest else (behind c).after rest
  | .inside, c :: rest => (behind c).after rest
  | .dropped, c :: rest => if c = '\n' then start.after rest else dropped.after rest

@[simp] theorem blankMarkersFrom_nil (position : LinePosition) :
    blankMarkersFrom position [] = [] := by
  cases position <;> rfl

@[simp] theorem LinePosition.after_nil (position : LinePosition) :
    position.after [] = position := by
  cases position <;> rfl

/-- A line as it is kept. -/
def blankLine (line : List Char) : List Char := if isMarkerLine line then [' '] else line

theorem isMarkerLine_of_cutAt {text first : List Char} {others : List (List Char)}
    (hcut : cutAt '\n' text = first :: others) : isMarkerLine first = isMarkerLine text := by
  induction text generalizing first others with
  | nil =>
      obtain ⟨rfl, rfl⟩ := List.cons.inj hcut
      rfl
  | cons c rest ih =>
      rw [cutAt] at hcut
      split at hcut
      case isTrue hnewline =>
        obtain ⟨rfl, rfl⟩ := List.cons.inj hcut
        rw [hnewline, isMarkerLine_cons_other (by decide), isMarkerLine_nil]
        rfl
      case isFalse hnewline =>
        obtain ⟨piece, pieces, hrest⟩ := List.exists_cons_of_ne_nil (cutAt_ne_nil '\n' rest)
        rw [hrest, consFirst] at hcut
        obtain ⟨rfl, rfl⟩ := List.cons.inj hcut
        by_cases hblank : c = ' ' ∨ c = '\t'
        · rw [isMarkerLine_cons_blank hblank, isMarkerLine_cons_blank hblank, ih hrest]
        · rw [isMarkerLine_cons_other hblank, isMarkerLine_cons_other hblank]

/-- What each position makes of a text, in terms of its lines: behind the first of them all are read
from their start. -/
theorem blankMarkersFrom_eq_intercalate {text first : List Char} {others : List (List Char)}
    (hcut : cutAt '\n' text = first :: others) :
    blankMarkersFrom .start text = ['\n'].intercalate (blankLine first :: others.map blankLine) ∧
    blankMarkersFrom .inside text = ['\n'].intercalate (first :: others.map blankLine) ∧
    blankMarkersFrom .dropped text = ['\n'].intercalate ([] :: others.map blankLine) := by
  induction text generalizing first others with
  | nil =>
      obtain ⟨rfl, rfl⟩ := List.cons.inj hcut
      exact ⟨rfl, rfl, rfl⟩
  | cons c rest ih =>
      have hmarker := isMarkerLine_of_cutAt hcut
      obtain ⟨piece, pieces, hrest⟩ := List.exists_cons_of_ne_nil (cutAt_ne_nil '\n' rest)
      obtain ⟨hstart, hinside, hdropped⟩ := ih hrest
      rw [cutAt, hrest] at hcut
      split at hcut
      case isTrue hnewline =>
        subst hnewline
        obtain ⟨rfl, rfl⟩ := List.cons.inj hcut
        have hline : blankLine [] = [] := rfl
        simp only [blankMarkersFrom, ← hmarker, LinePosition.behind, if_true, hstart, hline]
        simp [List.intercalate]
      case isFalse hnewline =>
        obtain ⟨rfl, rfl⟩ := List.cons.inj hcut
        refine ⟨?_, ?_, ?_⟩
        · rw [blankMarkersFrom, ← hmarker, LinePosition.behind, if_neg hnewline, hinside, hdropped,
            blankLine]
          split <;> cases pieces <;> simp [List.intercalate]
        · rw [blankMarkersFrom, LinePosition.behind, if_neg hnewline, hinside]
          cases pieces <;> simp [List.intercalate]
        · rw [blankMarkersFrom, if_neg hnewline, hdropped]

/-- Scanning from the start of the text takes the line markers out. -/
theorem blankMarkers_eq (text : List Char) : blankMarkers text = blankMarkersFrom .start text := by
  obtain ⟨first, others, hcut⟩ := List.exists_cons_of_ne_nil (cutAt_ne_nil '\n' text)
  rw [(blankMarkersFrom_eq_intercalate hcut).1, blankMarkers, hcut]
  rfl

/-! ### Two texts one after the other -/

theorem LinePosition.behind_eq_start_iff {c : Char} :
    LinePosition.behind c = .start ↔ c = '\n' := by
  rw [LinePosition.behind]
  split <;> simp [*]

/-- The line in which a text ends is read from its start, unless the text was entered inside it. -/
def LinePosition.SeesLast (position : LinePosition) (text : List Char) : Prop :=
  position = .start ∨ '\n' ∈ text

/-- Unless the second text makes a marker of the line in which the first ends, the two are scanned
one after the other. -/
theorem blankMarkersFrom_append {position : LinePosition} {first second : List Char}
    (h : position.SeesLast first →
      isMarkerLine (lastLine first ++ second) = isMarkerLine (lastLine first)) :
    blankMarkersFrom position (first ++ second)
      = blankMarkersFrom position first ++ blankMarkersFrom (position.after first) second := by
  induction first generalizing position with
  | nil => simp
  | cons c rest ih =>
      have hrest : '\n' ∈ c :: rest →
          isMarkerLine (lastLine rest ++ second) = isMarkerLine (lastLine rest) := by
        intro hmem
        have hlast := h (Or.inr hmem)
        rwa [lastLine, if_pos hmem] at hlast
      have hbehind : (LinePosition.behind c).SeesLast rest →
          isMarkerLine (lastLine rest ++ second) = isMarkerLine (lastLine rest) := by
        rintro (hstart | hmem)
        · have hnewline := LinePosition.behind_eq_start_iff.mp hstart
          exact hrest (List.mem_cons.mpr (Or.inl hnewline.symm))
        · exact hrest (List.mem_cons_of_mem c hmem)
      have hdropped : LinePosition.dropped.SeesLast rest →
          isMarkerLine (lastLine rest ++ second) = isMarkerLine (lastLine rest) := by
        rintro (hstart | hmem)
        · cases hstart
        · exact hrest (List.mem_cons_of_mem c hmem)
      cases position with
      | start =>
          have hline : isMarkerLine (c :: (rest ++ second)) = isMarkerLine (c :: rest) := by
            by_cases hmem : '\n' ∈ c :: rest
            · exact isMarkerLine_append_of_newline_mem hmem second
            · have hlast := h (Or.inl rfl)
              rwa [lastLine_eq_self hmem] at hlast
          rw [List.cons_append, blankMarkersFrom, blankMarkersFrom, LinePosition.after, hline]
          split
          · rw [ih hdropped, List.cons_append]
          · rw [ih hbehind, List.cons_append]
      | inside =>
          rw [List.cons_append, blankMarkersFrom, blankMarkersFrom, LinePosition.after, ih hbehind,
            List.cons_append]
      | dropped =>
          rw [List.cons_append, blankMarkersFrom, blankMarkersFrom, LinePosition.after]
          split
          case isTrue hnewline =>
            have hstart : LinePosition.start.SeesLast rest →
                isMarkerLine (lastLine rest ++ second) = isMarkerLine (lastLine rest) :=
              fun _ => hrest (List.mem_cons.mpr (Or.inl hnewline.symm))
            rw [ih hstart, List.cons_append]
          case isFalse => exact ih hdropped

theorem LinePosition.inside_after {text : List Char} (h : '\n' ∉ text) :
    inside.after text = inside := by
  induction text with
  | nil => rfl
  | cons c rest ih =>
      obtain ⟨hc, hrest⟩ := not_or.mp (mt List.mem_cons.mpr h)
      rw [after, behind, if_neg (Ne.symm hc), ih hrest]

theorem LinePosition.dropped_after {text : List Char} (h : '\n' ∉ text) :
    dropped.after text = dropped := by
  induction text with
  | nil => rfl
  | cons c rest ih =>
      obtain ⟨hc, hrest⟩ := not_or.mp (mt List.mem_cons.mpr h)
      rw [after, if_neg (Ne.symm hc), ih hrest]

/-- Where a marker has been read whose line goes on: in the line in which the text ends, if that is
seen from its start. -/
theorem LinePosition.after_eq_dropped_iff {position : LinePosition} (text : List Char) :
    position.after text = .dropped ↔
      (position.SeesLast text ∧ isMarkerLine (lastLine text) = true) ∨
        (position = .dropped ∧ '\n' ∉ text) := by
  induction text generalizing position with
  | nil => simp [SeesLast, lastLine]
  | cons c rest ih =>
      by_cases hnewline : c = '\n'
      · subst hnewline
        have hlast := lastLine_newline_cons rest
        have hplain : isMarkerLine ('\n' :: rest) = false :=
          isMarkerLine_cons_other (by decide) rest
        have hafter : position.after ('\n' :: rest) = start.after rest := by
          cases position <;> simp [after, behind, hplain]
        rw [hafter, ih, hlast]
        simp [SeesLast]
      · have hmem : '\n' ∈ c :: rest ↔ '\n' ∈ rest := by simp [Ne.symm hnewline]
        by_cases hrest : '\n' ∈ rest
        · have hlast := lastLine_cons_of_mem (c := c) hrest
          cases position with
          | start =>
              rw [after]
              split <;> simp [ih, hlast, SeesLast, hrest]
          | inside => simp [after, ih, hlast, SeesLast, hrest]
          | dropped => simp [after, hnewline, ih, hlast, SeesLast, hrest]
        · have hself := lastLine_eq_self (fun hin => hrest (hmem.mp hin))
          cases position with
          | start =>
              rw [after, hself]
              split
              case isTrue hmarker => simp [dropped_after hrest, SeesLast, hmarker]
              case isFalse hmarker =>
                rw [behind, if_neg hnewline, inside_after hrest]
                simp [hmarker]
          | inside =>
              rw [after, behind, if_neg hnewline, inside_after hrest]
              simp [SeesLast, hmem, hrest]
          | dropped =>
              rw [after, if_neg hnewline, dropped_after hrest]
              simp [hmem, hrest]

/-- Behind a line feed, or in front of the text, no line has begun. -/
theorem lastLine_eq_nil_of_after_eq_start {position : LinePosition} {text : List Char}
    (h : position.after text = .start) : lastLine text = [] := by
  induction text generalizing position with
  | nil => rfl
  | cons c rest ih =>
      have hbehind : ∃ next : LinePosition,
          next.after rest = .start ∧ (next = .start → c = '\n') := by
        cases position with
        | start =>
            rw [LinePosition.after] at h
            split at h
            · exact ⟨_, h, by simp⟩
            · exact ⟨_, h, LinePosition.behind_eq_start_iff.mp⟩
        | inside => exact ⟨_, h, LinePosition.behind_eq_start_iff.mp⟩
        | dropped =>
            rw [LinePosition.after] at h
            split at h
            case isTrue hnewline => exact ⟨_, h, fun _ => hnewline⟩
            case isFalse => exact ⟨_, h, by simp⟩
      obtain ⟨next, hnext, hstart⟩ := hbehind
      have hmem : '\n' ∈ c :: rest := by
        by_cases hrest : '\n' ∈ rest
        · exact List.mem_cons_of_mem c hrest
        · cases next with
          | start => simp [hstart rfl]
          | inside => simp [LinePosition.inside_after hrest] at hnext
          | dropped => simp [LinePosition.dropped_after hrest] at hnext
      rw [lastLine, if_pos hmem, ih hnext]

/-- A character stays unless it starts a marker. -/
theorem blankMarkersFrom_cons {position : LinePosition} (hpos : position ≠ .dropped) {c : Char}
    {rest : List Char} (h : position = .start → isMarkerLine (c :: rest) = false) :
    blankMarkersFrom position (c :: rest) = c :: blankMarkersFrom (.behind c) rest := by
  cases position with
  | start => rw [blankMarkersFrom, h rfl, if_neg (by simp)]
  | inside => rfl
  | dropped => exact absurd rfl hpos

/-- A marker goes on to the end of its line. -/
theorem blankMarkersFrom_dropped_append {line : List Char} (h : '\n' ∉ line) (rest : List Char) :
    blankMarkersFrom .dropped (line ++ rest) = blankMarkersFrom .dropped rest := by
  induction line with
  | nil => rfl
  | cons c line ih =>
      obtain ⟨hc, hline⟩ := not_or.mp (mt List.mem_cons.mpr h)
      rw [List.cons_append, blankMarkersFrom, if_neg (Ne.symm hc), ih hline]

/-- A line marker becomes a space. -/
theorem blankMarkersFrom_marker {line : List Char} (hmarker : isMarkerLine line = true)
    (h : '\n' ∉ line) (rest : List Char) :
    blankMarkersFrom .start (line ++ rest) = ' ' :: blankMarkersFrom .dropped rest := by
  cases line with
  | nil => cases hmarker
  | cons c line =>
      rw [List.cons_append, blankMarkersFrom, ← List.cons_append,
        if_pos (isMarkerLine_append_of_isMarkerLine hmarker rest),
        blankMarkersFrom_dropped_append fun hmem => h (List.mem_cons_of_mem c hmem)]

/-- The rest of a line that stays is kept. -/
theorem blankMarkersFrom_inside_append {line : List Char} (h : '\n' ∉ line) (rest : List Char) :
    blankMarkersFrom .inside (line ++ rest) = line ++ blankMarkersFrom .inside rest := by
  induction line with
  | nil => rfl
  | cons c line ih =>
      obtain ⟨hc, hline⟩ := not_or.mp (mt List.mem_cons.mpr h)
      rw [List.cons_append, blankMarkersFrom, LinePosition.behind, if_neg (Ne.symm hc), ih hline,
        List.cons_append]

/-! ### What stays of a block comment -/

/-- Taking line markers out does not end a block comment. -/
theorem IsCommentBody.blankMarkersFrom {text : List Char} (h : IsCommentBody text)
    (position : LinePosition) : IsCommentBody (blankMarkersFrom position text) := by
  induction text generalizing position with
  | nil => simpa using h
  | cons c rest ih =>
      have hrest := ih (isCommentBody_cons.mp h).2
      have hkeep : IsCommentBody (c :: Source.blankMarkersFrom (.behind c) rest) := by
        refine isCommentBody_cons.mpr ⟨?_, hrest _⟩
        rintro ⟨rfl, hhead⟩
        cases rest with
        | nil => simp at hhead
        | cons d more =>
            have hd : d = '/' := by simpa [LinePosition.behind, Source.blankMarkersFrom] using hhead
            exact (isCommentBody_cons.mp h).1 ⟨rfl, by simp [hd]⟩
      cases position with
      | start =>
          rw [Source.blankMarkersFrom]
          split
          · exact isCommentBody_cons.mpr ⟨by simp, hrest _⟩
          · exact hkeep
      | inside => exact hkeep
      | dropped =>
          rw [Source.blankMarkersFrom]
          split
          · exact isCommentBody_cons.mpr ⟨by simp, hrest _⟩
          · exact hrest _

end HeaderBindings.Source
