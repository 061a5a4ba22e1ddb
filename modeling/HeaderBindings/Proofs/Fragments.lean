import HeaderBindings.Proofs.BlockComments

/-!
Texts made of characters, line markers and comments, and what is left of them when the markers and
then the comments are taken out. Each part is read on its own as long as it stands where it is what
it is written as: a marker on a line of its own, a comment in code, and a number sign or a slash
where it starts neither.
-/

namespace HeaderBindings.Source
open Text

/-- A character, or a part of the text that is read as blanks. -/
inductive Fragment where
  | char (c : Char)
  /-- A line marker without its line feed, from the start of its line. -/
  | lineMarker (indent text : List Char)
  /-- A line comment with its line feed. -/
  | lineComment (text : List Char)
  | blockComment (body : List Char)
  deriving DecidableEq

namespace Fragment

/-- The fragment as it is written. -/
def text : Fragment → List Char
  | char c => [c]
  | lineMarker indent text => indent ++ '#' :: text
  | lineComment text => '/' :: '/' :: (text ++ ['\n'])
  | blockComment body => Source.blockComment body

/-- What is left of the fragment when line markers are taken out. -/
def unmarked : Fragment → List Char
  | char c => [c]
  | lineMarker _ _ => [' ']
  | lineComment text => '/' :: '/' :: (text ++ ['\n'])
  | blockComment body => Source.blockComment (blankMarkersFrom .inside body)

/-- What is left of the fragment when comments are taken out too. -/
def read : Fragment → List Char
  | char c => [c]
  | lineMarker _ _ => [' ']
  | lineComment _ => [' ', '\n']
  | blockComment _ => [' ']

/-- Characters are kept by whatever keeps single ones. -/
theorem flatMap_char {f : Fragment → List Char} (hf : ∀ c, f (char c) = [c]) (chars : List Char) :
    (chars.map char).flatMap f = chars := by
  induction chars with
  | nil => rfl
  | cons c chars ih => rw [List.map_cons, List.flatMap_cons, hf, ih, List.singleton_append]

@[simp] theorem flatMap_text_char (chars : List Char) : (chars.map char).flatMap text = chars :=
  flatMap_char (fun _ => rfl) chars

@[simp] theorem flatMap_read_char (chars : List Char) : (chars.map char).flatMap read = chars :=
  flatMap_char (fun _ => rfl) chars

end Fragment

/-! ### Places for fragments -/

/-- What a position in a line can take. -/
inductive LineState where
  /-- In front of the first character. -/
  | start
  /-- Behind spaces and tabs, where a number sign would make a marker of the line. -/
  | indented
  /-- Behind any other character of the line. -/
  | settled
  /-- Behind a line marker, which takes nothing more but the end of the line. -/
  | marked
  deriving DecidableEq

namespace LineState

/-- The position in the scan for line markers. -/
def position : LineState → LinePosition
  | start => .start
  | indented | settled => .inside
  | marked => .dropped

/-- The state behind a character. -/
def step (line : LineState) (c : Char) : LineState :=
  if c = '\n' then start
  else if (c = ' ' ∨ c = '\t') ∧ line ≠ settled then indented
  else settled

theorem position_step (line : LineState) (c : Char) : (line.step c).position = .behind c := by
  rw [step, LinePosition.behind]
  split
  · rfl
  · split <;> rfl

end LineState

namespace Fragment

/-- The state of the line behind a fragment. -/
def lineAfter (line : LineState) : Fragment → LineState
  | char c => line.step c
  | lineMarker _ _ => .marked
  | lineComment _ => .start
  | blockComment _ => .settled

/-- The state with respect to literals behind a fragment. -/
def quotingAfter (quoting : Quoting) : Fragment → Quoting
  | char c => quoting.step c
  | _ => quoting

/-- Whether a slash in front of the fragment would start a comment. -/
def touchesSlash : Fragment → Bool
  | char c => c == '/' || c == '*'
  | lineMarker _ _ => false
  | lineComment _ | blockComment _ => true

/-- Whether a fragment is what it is written as, in front of the next one. -/
def Fits (line : LineState) (quoting : Quoting) (next : Option Fragment) : Fragment → Prop
  | char c =>
      (line = .marked → c = '\n') ∧ (c = '#' → line = .settled) ∧
        (quoting = .code → c = '/' → ∀ fragment ∈ next, fragment.touchesSlash = false)
  | lineMarker indent text =>
      line = .start ∧ quoting = .code ∧ indent.all (fun c => c = ' ' ∨ c = '\t') = true ∧
        '\n' ∉ text
  | lineComment text => line ≠ .marked ∧ quoting = .code ∧ '\n' ∉ text
  | blockComment body => line ≠ .marked ∧ quoting = .code ∧ IsCommentBody body ∧ KeepsEnd body

instance (body : List Char) : Decidable (KeepsEnd body) :=
  inferInstanceAs (Decidable ('\n' ∈ body → isMarkerLine (lastLine body) = false))

instance (line : LineState) (quoting : Quoting) (next : Option Fragment) :
    ∀ fragment : Fragment, Decidable (fragment.Fits line quoting next)
  | char _ => inferInstanceAs (Decidable (_ ∧ _ ∧ _))
  | lineMarker _ _ => inferInstanceAs (Decidable (_ ∧ _ ∧ _ ∧ _))
  | lineComment _ => inferInstanceAs (Decidable (_ ∧ _ ∧ _))
  | blockComment _ => inferInstanceAs (Decidable (_ ∧ _ ∧ _ ∧ _))

end Fragment

/-- Whether each fragment fits in its place. -/
def WellPlaced (line : LineState) (quoting : Quoting) : List Fragment → Prop
  | [] => True
  | fragment :: rest =>
      fragment.Fits line quoting rest.head? ∧
        WellPlaced (fragment.lineAfter line) (fragment.quotingAfter quoting) rest

instance decidableWellPlaced : ∀ (line : LineState) (quoting : Quoting) (fragments : List Fragment),
    Decidable (WellPlaced line quoting fragments)
  | _, _, [] => isTrue trivial
  | line, quoting, fragment :: rest =>
      have := decidableWellPlaced (fragment.lineAfter line) (fragment.quotingAfter quoting) rest
      inferInstanceAs (Decidable (_ ∧ _))

/-! ### Line markers -/

/-- Behind the blanks at the start of a line no marker begins. -/
theorem isMarkerLine_of_indented {quoting : Quoting} {fragments : List Fragment}
    (h : WellPlaced .indented quoting fragments) :
    isMarkerLine (fragments.flatMap Fragment.text) = false := by
  induction fragments generalizing quoting with
  | nil => rfl
  | cons fragment rest ih =>
      obtain ⟨hfits, hrest⟩ := h
      rw [List.flatMap_cons]
      cases fragment with
      | char c =>
          have hsign : c ≠ '#' := fun hc => absurd (hfits.2.1 hc) (by simp)
          rw [Fragment.text, List.singleton_append]
          by_cases hblank : c = ' ' ∨ c = '\t'
          · have hindented : (Fragment.char c).lineAfter .indented = .indented := by
              rcases hblank with rfl | rfl <;> rfl
            rw [hindented] at hrest
            rw [isMarkerLine_cons_blank hblank, ih hrest]
          · rw [isMarkerLine_cons_other hblank]
            simpa using hsign
      | lineMarker indent text => exact absurd hfits.1 (by simp)
      | lineComment text => exact isMarkerLine_cons_other (by decide) _
      | blockComment body => exact isMarkerLine_cons_other (by decide) _

/-- Blanks and a number sign begin a marker. -/
theorem isMarkerLine_indent {indent : List Char} (h : ∀ c ∈ indent, c = ' ' ∨ c = '\t')
    (rest : List Char) : isMarkerLine (indent ++ '#' :: rest) = true := by
  induction indent with
  | nil => exact isMarkerLine_cons_other (by decide) rest
  | cons c indent ih =>
      rw [List.cons_append, isMarkerLine_cons_blank (h c List.mem_cons_self),
        ih fun d hd => h d (List.mem_cons_of_mem c hd)]

theorem LineState.position_ne_dropped {line : LineState} (h : line ≠ .marked) :
    line.position ≠ .dropped := by
  cases line <;> simp_all [position]

theorem LineState.eq_start_of_position {line : LineState} (h : line.position = .start) :
    line = .start := by
  cases line <;> simp_all [position]

/-- A comment is no marker, wherever in a line it begins. -/
theorem blankMarkersFrom_slash {line : LineState} (h : line ≠ .marked) (rest : List Char) :
    blankMarkersFrom line.position ('/' :: rest) = '/' :: blankMarkersFrom .inside rest :=
  blankMarkersFrom_cons (LineState.position_ne_dropped h) fun _ =>
    isMarkerLine_cons_other (by decide) _

/-- Taking line markers out changes each fragment on its own. -/
theorem blankMarkersFrom_fragments {line : LineState} {quoting : Quoting}
    {fragments : List Fragment} (h : WellPlaced line quoting fragments) :
    blankMarkersFrom line.position (fragments.flatMap Fragment.text)
      = fragments.flatMap Fragment.unmarked := by
  induction fragments generalizing line quoting with
  | nil => exact blankMarkersFrom_nil _
  | cons fragment rest ih =>
      obtain ⟨hfits, hrest⟩ := h
      have hih := ih hrest
      rw [List.flatMap_cons, List.flatMap_cons]
      cases fragment with
      | char c =>
          rw [Fragment.lineAfter, LineState.position_step] at hih
          rw [Fragment.text, Fragment.unmarked, List.singleton_append, List.singleton_append]
          by_cases hmarked : line = .marked
          · subst hmarked
            obtain rfl := hfits.1 rfl
            rw [LineState.position, blankMarkersFrom, if_pos rfl, ← hih]
            rfl
          · rw [blankMarkersFrom_cons (LineState.position_ne_dropped hmarked), hih]
            intro hposition
            obtain rfl := LineState.eq_start_of_position hposition
            have hsign : c ≠ '#' := fun hc => absurd (hfits.2.1 hc) (by simp)
            by_cases hblank : c = ' ' ∨ c = '\t'
            · have hindented : (Fragment.char c).lineAfter .start = .indented := by
                rcases hblank with rfl | rfl <;> rfl
              rw [hindented] at hrest
              rw [isMarkerLine_cons_blank hblank, isMarkerLine_of_indented hrest]
            · rw [isMarkerLine_cons_other hblank]
              simpa using hsign
      | lineMarker indent text =>
          obtain ⟨rfl, -, hindent, htext⟩ := hfits
          have hindent : ∀ c ∈ indent, c = ' ' ∨ c = '\t' := by simpa using hindent
          have hnewline : '\n' ∉ indent ++ '#' :: text := by
            intro hmem
            rcases List.mem_append.mp hmem with hmem | hmem
            · rcases hindent _ hmem with hc | hc <;> cases hc
            · exact htext ((List.mem_cons.mp hmem).resolve_left (by decide))
          rw [Fragment.text, Fragment.unmarked, LineState.position,
            blankMarkersFrom_marker (isMarkerLine_indent hindent text) hnewline, ← hih]
          rfl
      | lineComment text =>
          obtain ⟨hline, -, htext⟩ := hfits
          have hbody : '\n' ∉ '/' :: text := by simpa using htext
          have hkept : blankMarkersFrom .inside ('/' :: text ++ '\n' :: rest.flatMap Fragment.text)
              = '/' :: text ++ '\n' :: rest.flatMap Fragment.unmarked := by
            rw [blankMarkersFrom_inside_append hbody, ← hih]
            rfl
          have hwhole (more : List Char) : '/' :: '/' :: (text ++ ['\n']) ++ more
              = '/' :: ('/' :: text ++ '\n' :: more) := by simp
          rw [Fragment.text, Fragment.unmarked, hwhole, hwhole, blankMarkersFrom_slash hline, hkept]
      | blockComment body =>
          obtain ⟨hline, -, -, hends⟩ := hfits
          have hkept : blankMarkersFrom .inside
                ('*' :: (body ++ '*' :: '/' :: rest.flatMap Fragment.text))
              = '*' :: (blankMarkersFrom .inside body
                ++ '*' :: '/' :: rest.flatMap Fragment.unmarked) := by
            rw [blankMarkersFrom_cons (by simp) (by simp), LinePosition.behind, if_neg (by decide),
              blankMarkersFrom_body hends, ← hih]
            rfl
          rw [Fragment.text, Fragment.unmarked, blockComment_append, blockComment_append,
            blankMarkersFrom_slash hline, hkept]

/-! ### Comments -/

/-- A slash stays in front of a fragment that it does not touch. -/
theorem head?_unmarked {fragments : List Fragment}
    (h : ∀ fragment ∈ fragments.head?, fragment.touchesSlash = false) :
    (fragments.flatMap Fragment.unmarked).head? ≠ some '*' ∧
      (fragments.flatMap Fragment.unmarked).head? ≠ some '/' := by
  cases fragments with
  | nil => simp
  | cons fragment rest =>
      have htouches := h fragment rfl
      cases fragment with
      | char c =>
          simp only [Fragment.touchesSlash, Bool.or_eq_false_iff, beq_eq_false_iff_ne] at htouches
          simp [Fragment.unmarked, htouches.1, htouches.2]
      | lineMarker indent text => simp [Fragment.unmarked]
      | lineComment text => cases htouches
      | blockComment body => cases htouches

/-- Taking comments out then changes each fragment on its own. -/
theorem dropCommentsFrom_fragments {line : LineState} {quoting : Quoting}
    {fragments : List Fragment} (h : WellPlaced line quoting fragments) :
    dropCommentsFrom (.text quoting) (fragments.flatMap Fragment.unmarked)
      = fragments.flatMap Fragment.read := by
  induction fragments generalizing line quoting with
  | nil => cases quoting <;> rfl
  | cons fragment rest ih =>
      obtain ⟨hfits, hrest⟩ := h
      have hih := ih hrest
      rw [List.flatMap_cons, List.flatMap_cons]
      cases fragment with
      | char c =>
          have hslash (hcode : quoting = .code) (hc : c = '/') :=
            head?_unmarked (hfits.2.2 hcode hc)
          rw [Fragment.unmarked, Fragment.read, List.singleton_append, List.singleton_append,
            dropCommentsFrom_text_cons hslash, ← hih]
          rfl
      | lineMarker indent text =>
          obtain ⟨-, rfl, -, -⟩ := hfits
          rw [Fragment.unmarked, Fragment.read, List.singleton_append, List.singleton_append,
            dropCommentsFrom_text_cons (by simp), ← hih]
          rfl
      | lineComment text =>
          obtain ⟨-, rfl, htext⟩ := hfits
          rw [Fragment.unmarked, Fragment.read, List.cons_append, List.cons_append,
            dropCommentsFrom, List.append_assoc, List.singleton_append,
            dropCommentsFrom_lineComment htext, ← hih]
          rfl
      | blockComment body =>
          obtain ⟨-, rfl, hbody, -⟩ := hfits
          rw [Fragment.unmarked, Fragment.read, blockComment_append, dropCommentsFrom,
            dropCommentsFrom_blockComment (hbody.blankMarkersFrom .inside), ← hih]
          rfl

/-- What is left of fragments without line markers and comments. -/
theorem dropComments_fragments {fragments : List Fragment}
    (h : WellPlaced .start .code fragments) :
    dropComments (blankMarkers (fragments.flatMap Fragment.text))
      = fragments.flatMap Fragment.read := by
  have hunmarked : blankMarkers (fragments.flatMap Fragment.text)
      = fragments.flatMap Fragment.unmarked := by
    rw [blankMarkers_eq]
    exact blankMarkersFrom_fragments h
  calc
    dropComments (blankMarkers (fragments.flatMap Fragment.text))
        = dropCommentsFrom (.text .code) (fragments.flatMap Fragment.unmarked) := by
      rw [hunmarked, dropComments]
    _ = fragments.flatMap Fragment.read := dropCommentsFrom_fragments h

end HeaderBindings.Source
