import HeaderBindings.Diagnostic
import HeaderBindings.Proofs.Lines
import HeaderBindings.Proofs.Words
import Mathlib.Data.List.Basic

/-!
The text of a diagnostic. Its parts stand on lines of their own, the context in front of an empty
line and the suggestions behind it, each behind a mark whose length is known. So they are read back
from the text, also when one of them looks like a mark. Colours only put escape sequences around the
two headings, and taking out all such sequences gives the text without colours.
-/

namespace HeaderBindings
open Text

namespace Diagnostic

/-! ### Lines -/

/-- Every text that the diagnostic is made of. -/
def texts (diagnostic : Diagnostic) : List String :=
  diagnostic.message :: (diagnostic.context ++ diagnostic.suggestions)

/-- A character stands nowhere in a diagnostic. -/
def Lacks (c : Char) (diagnostic : Diagnostic) : Prop := ∀ text ∈ diagnostic.texts, c ∉ text.toList

instance (c : Char) (diagnostic : Diagnostic) : Decidable (diagnostic.Lacks c) :=
  decidable_of_iff (diagnostic.texts.all (!·.toList.contains c) = true) (by simp [Lacks])

def messageMark : String := "error: "

def contextMark : String := "  = "

def suggestionMark (number : Nat) : String := "  " ++ toString number ++ ". "

/-- The characters that the lines of diagnostics have besides those of their texts and numbers. -/
def markChars : List Char := "error: help: consider:  = . ".toList

/-- The lines of suggestions numbered from `number` on. -/
def numberedLines (number : Nat) : List String → List (List Char)
  | [] => []
  | suggestion :: rest =>
      ((suggestionMark number).toList ++ suggestion.toList) :: numberedLines (number + 1) rest

/-- The lines of the help section, of which the first is empty. -/
def helpLines : List String → List (List Char)
  | [] => []
  | suggestions => [] :: "help: consider:".toList :: numberedLines 1 suggestions

def contextLines (context : List String) : List (List Char) :=
  context.map (contextMark.toList ++ ·.toList)

/-- The lines of the diagnostic without colours. -/
def shownLines (diagnostic : Diagnostic) : List (List Char) :=
  (messageMark.toList ++ diagnostic.message.toList)
    :: (contextLines diagnostic.context ++ helpLines diagnostic.suggestions)

variable {diagnostic : Diagnostic} {c : Char}

theorem Lacks.message (h : diagnostic.Lacks c) : c ∉ diagnostic.message.toList :=
  h _ List.mem_cons_self

theorem Lacks.context (h : diagnostic.Lacks c) : ∀ text ∈ diagnostic.context, c ∉ text.toList :=
  fun _ hmem => h _ (List.mem_cons_of_mem _ (List.mem_append_left _ hmem))

theorem Lacks.suggestions (h : diagnostic.Lacks c) :
    ∀ text ∈ diagnostic.suggestions, c ∉ text.toList :=
  fun _ hmem => h _ (List.mem_cons_of_mem _ (List.mem_append_right _ hmem))

theorem toList_suggestionLines (number : Nat) (suggestions : List String) :
    (String.join (suggestionLines number suggestions)).toList
      = (numberedLines number suggestions).flatMap (· ++ ['\n']) := by
  induction suggestions generalizing number with
  | nil => rfl
  | cons suggestion rest ih =>
      rw [suggestionLines, String.join_cons, String.toList_append, ih, numberedLines,
        List.flatMap_cons, suggestionLine, suggestionMark]
      simp

theorem toList_helpSection (suggestions : List String) :
    (String.join (helpSection false suggestions)).toList
      = (helpLines suggestions).flatMap (· ++ ['\n']) := by
  cases suggestions with
  | nil => rfl
  | cons suggestion rest =>
      have hsection : helpSection false (suggestion :: rest)
          = "\nhelp: consider:\n" :: suggestionLines 1 (suggestion :: rest) := rfl
      rw [hsection, String.join_cons, String.toList_append, toList_suggestionLines]
      rfl

/-- The text is its lines, each one ended. -/
theorem toList_format (diagnostic : Diagnostic) :
    (format false diagnostic).toList = diagnostic.shownLines.flatMap (· ++ ['\n']) := by
  have hcontext : (String.join (diagnostic.context.map contextLine)).toList
      = (contextLines diagnostic.context).flatMap (· ++ ['\n']) := by
    simp [String.toList_join, List.flatMap_map, contextLines, contextLine, contextMark]
  rw [format, String.toList_append, String.toList_append, toList_helpSection, hcontext, shownLines,
    List.flatMap_cons, List.flatMap_append]
  simp [heading, messageMark]

/-- A character that stands in no mark and in no suggestion stands in no line of suggestions. -/
theorem not_mem_numberedLines (hdigit : c.isDigit = false) (hmarks : c ∉ markChars)
    {suggestions : List String} (h : ∀ text ∈ suggestions, c ∉ text.toList) (number : Nat) :
    ∀ line ∈ numberedLines number suggestions, c ∉ line := by
  induction suggestions generalizing number with
  | nil => simp [numberedLines]
  | cons suggestion rest ih =>
      obtain ⟨hsuggestion, hrest⟩ := List.forall_mem_cons.mp h
      refine List.forall_mem_cons.mpr ⟨?_, ih hrest (number + 1)⟩
      simp only [suggestionMark, String.toList_append, List.mem_append, not_or]
      have hindent : "  ".toList ⊆ markChars := by decide
      have hdot : ". ".toList ⊆ markChars := by decide
      have hnumber : c ∉ (toString number).toList := fun hmem =>
        Bool.eq_false_iff.mp hdigit (isDigit_of_mem_toString hmem)
      exact ⟨⟨⟨fun hmem => hmarks (hindent hmem), hnumber⟩, fun hmem => hmarks (hdot hmem)⟩,
        hsuggestion⟩

theorem not_mem_helpLines (hdigit : c.isDigit = false) (hmarks : c ∉ markChars)
    {suggestions : List String} (h : ∀ text ∈ suggestions, c ∉ text.toList) :
    ∀ line ∈ helpLines suggestions, c ∉ line := by
  cases suggestions with
  | nil => simp [helpLines]
  | cons suggestion rest =>
      have hheading : "help: consider:".toList ⊆ markChars := by decide
      have hlines := not_mem_numberedLines hdigit hmarks h 1
      exact List.forall_mem_cons.mpr ⟨List.not_mem_nil,
        List.forall_mem_cons.mpr ⟨fun hmem => hmarks (hheading hmem), hlines⟩⟩

theorem not_mem_shownLines (hdigit : c.isDigit = false) (hmarks : c ∉ markChars)
    (h : diagnostic.Lacks c) : ∀ line ∈ diagnostic.shownLines, c ∉ line := by
  have hmessage : messageMark.toList ⊆ markChars := by decide
  have hcontext : contextMark.toList ⊆ markChars := by decide
  refine List.forall_mem_cons.mpr ⟨?_, fun line hmem => ?_⟩
  · rw [List.mem_append, not_or]
    exact ⟨fun hmem => hmarks (hmessage hmem), h.message⟩
  · rcases List.mem_append.mp hmem with hmem | hmem
    · obtain ⟨text, htext, rfl⟩ := List.mem_map.mp hmem
      rw [List.mem_append, not_or]
      exact ⟨fun hmem => hmarks (hcontext hmem), h.context text htext⟩
    · exact not_mem_helpLines hdigit hmarks h.suggestions line hmem

theorem newline_not_mem_shownLines (h : diagnostic.Lacks '\n') :
    ∀ line ∈ diagnostic.shownLines, '\n' ∉ line :=
  not_mem_shownLines (by decide) (by decide) h

/-! ### Reading back -/

/-- The suggestions of lines numbered from `number` on. -/
def suggestionsOf (number : Nat) : List (List Char) → List String
  | [] => []
  | line :: rest =>
      String.ofList (line.drop (suggestionMark number).toList.length) :: suggestionsOf (number + 1) rest

/-- The diagnostic that a text without colours shows. The context ends at the first empty line. -/
def readBack (text : List Char) : Diagnostic :=
  match (cutAt '\n' text).dropLast with
  | [] => { message := "" }
  | first :: shown =>
      { message := String.ofList (first.drop messageMark.toList.length)
        context := (shown.takeWhile (!·.isEmpty)).map fun line =>
          String.ofList (line.drop contextMark.toList.length)
        suggestions := suggestionsOf 1 ((shown.dropWhile (!·.isEmpty)).drop 2) }

theorem suggestionsOf_numberedLines (number : Nat) (suggestions : List String) :
    suggestionsOf number (numberedLines number suggestions) = suggestions := by
  induction suggestions generalizing number with
  | nil => rfl
  | cons suggestion rest ih =>
      rw [numberedLines, suggestionsOf, List.drop_left, String.ofList_toList, ih]

theorem suggestionsOf_helpLines (suggestions : List String) :
    suggestionsOf 1 ((helpLines suggestions).drop 2) = suggestions := by
  cases suggestions with
  | nil => rfl
  | cons suggestion rest => exact suggestionsOf_numberedLines 1 (suggestion :: rest)

/-- No context line is empty, and the help section begins with an empty line. -/
theorem span_shown (context suggestions : List String) :
    (contextLines context ++ helpLines suggestions).takeWhile (!·.isEmpty) = contextLines context ∧
      (contextLines context ++ helpLines suggestions).dropWhile (!·.isEmpty)
        = helpLines suggestions := by
  have hcontext : ∀ line ∈ contextLines context, (!line.isEmpty) = true := by
    rw [contextLines, List.forall_mem_map]
    exact fun _ _ => rfl
  rw [List.takeWhile_append_of_pos hcontext, List.dropWhile_append_of_pos hcontext]
  cases suggestions with
  | nil => exact ⟨List.append_nil _, rfl⟩
  | cons suggestion rest => exact ⟨List.append_nil _, rfl⟩

theorem readBack_format (h : diagnostic.Lacks '\n') :
    readBack (format false diagnostic).toList = diagnostic := by
  obtain ⟨htake, hdrop⟩ := span_shown diagnostic.context diagnostic.suggestions
  rw [readBack, toList_format, cutAt_lines (newline_not_mem_shownLines h), List.dropLast_concat,
    shownLines]
  simp only [htake, hdrop, suggestionsOf_helpLines, List.drop_left, String.ofList_toList]
  simp [contextLines, Function.comp_def]

/-! ### Colours -/

/-- The character that begins an escape sequence. -/
def escapeChar : Char := '\x1b'

/-- What stands behind the rest of a sequence that selects how characters are shown: a bracket,
numbers with semicolons or colons between them, and the letter `m`. -/
def behindRendition? : List Char → Option (List Char)
  | '[' :: rest =>
      match rest.dropWhile fun c => c.isDigit || c == ';' || c == ':' with
      | 'm' :: behind => some behind
      | _ => none
  | _ => none

theorem length_lt_of_behindRendition? {text behind : List Char}
    (h : behindRendition? text = some behind) : behind.length < text.length := by
  rw [behindRendition?.eq_def] at h
  split at h
  case h_2 => cases h
  case h_1 rest =>
    split at h
    case h_2 => cases h
    case h_1 numbers hrest =>
      obtain rfl := Option.some.inj h
      have hshort := (List.dropWhile_sublist (l := rest)
        fun c => c.isDigit || c == ';' || c == ':').length_le
      rw [hrest, List.length_cons] at hshort
      rw [List.length_cons]
      omega

/-- The text without the escape sequences that select how characters are shown. -/
def withoutRenditions : List Char → List Char
  | [] => []
  | c :: rest =>
      if c = escapeChar then
        match _h : behindRendition? rest with
        | some behind => withoutRenditions behind
        | none => c :: withoutRenditions rest
      else c :: withoutRenditions rest
termination_by text => text.length
decreasing_by
  · have := length_lt_of_behindRendition? _h
    rw [List.length_cons]
    omega
  · exact Nat.lt_succ_self _
  · exact Nat.lt_succ_self _

theorem withoutRenditions_append {text : List Char} (h : escapeChar ∉ text) (rest : List Char) :
    withoutRenditions (text ++ rest) = text ++ withoutRenditions rest := by
  induction text with
  | nil => rfl
  | cons c text ih =>
      obtain ⟨hc, htext⟩ := not_or.mp (mt List.mem_cons.mpr h)
      rw [List.cons_append, withoutRenditions, if_neg (Ne.symm hc), ih htext, List.cons_append]

theorem withoutRenditions_of_not_mem {text : List Char} (h : escapeChar ∉ text) :
    withoutRenditions text = text := by
  have happend := withoutRenditions_append h []
  rwa [List.append_nil, withoutRenditions, List.append_nil] at happend

theorem withoutRenditions_sequence {numbers : List Char}
    (h : ∀ c ∈ numbers, (c.isDigit || c == ';' || c == ':') = true) (rest : List Char) :
    withoutRenditions (escapeChar :: '[' :: (numbers ++ 'm' :: rest)) = withoutRenditions rest := by
  have hbehind : behindRendition? ('[' :: (numbers ++ 'm' :: rest)) = some rest := by
    rw [behindRendition?, List.dropWhile_append_of_pos h]
    rfl
  rw [withoutRenditions, if_pos rfl]
  split
  case h_1 behind hsome =>
    obtain rfl := Option.some.inj (hsome.symm.trans hbehind)
    rfl
  case h_2 hnone => cases hnone.symm.trans hbehind

/-- The escape sequences around a heading are taken out. -/
theorem withoutRenditions_heading {colour title : String} (hcolour : colour ∈ ["31", "32"])
    (htitle : escapeChar ∉ title.toList) (rest : List Char) :
    withoutRenditions ((heading true colour title).toList ++ rest)
      = title.toList ++ withoutRenditions rest := by
  have hbold : ∀ c ∈ "1;".toList ++ colour.toList, (c.isDigit || c == ';' || c == ':') = true := by
    rcases List.mem_pair.mp hcolour with rfl | rfl <;> exact List.all_eq_true.mp rfl
  have htext : (heading true colour title).toList ++ rest
      = escapeChar :: '[' :: (("1;".toList ++ colour.toList) ++ 'm' :: (title.toList
        ++ escapeChar :: '[' :: (['0'] ++ 'm' :: rest))) := by
    rw [heading, if_pos rfl]
    simp only [String.toList_append, List.append_assoc]
    rfl
  rw [htext, withoutRenditions_sequence hbold, withoutRenditions_append htitle,
    withoutRenditions_sequence (by simp)]

/-- Colours make a difference to the headings only, of which the second one is there if something is
suggested. -/
theorem format_cases (diagnostic : Diagnostic) :
    (∃ middle, ∀ colored, (format colored diagnostic).toList
      = (heading colored "31" "error").toList ++ middle) ∨
    ∃ middle tail, ∀ colored, (format colored diagnostic).toList
      = (heading colored "31" "error").toList
        ++ (middle ++ ((heading colored "32" "help").toList ++ tail)) := by
  cases hsuggestions : diagnostic.suggestions with
  | nil =>
      refine .inl ⟨(": " ++ diagnostic.message ++ "\n"
          ++ String.join (diagnostic.context.map contextLine)).toList, fun colored => ?_⟩
      have hsection : String.join (helpSection colored []) = "" := rfl
      rw [format, hsuggestions, hsection, String.append_empty]
      simp only [String.toList_append, List.append_assoc]
  | cons suggestion rest =>
      refine .inr ⟨(": " ++ diagnostic.message ++ "\n"
          ++ String.join (diagnostic.context.map contextLine) ++ "\n").toList,
        (": consider:\n" ++ String.join (suggestionLines 1 (suggestion :: rest))).toList,
        fun colored => ?_⟩
      have hsection : helpSection colored (suggestion :: rest)
          = ("\n" ++ heading colored "32" "help" ++ ": consider:\n")
            :: suggestionLines 1 (suggestion :: rest) := rfl
      rw [format, hsuggestions, hsection, String.join_cons]
      simp only [String.toList_append, List.append_assoc]

theorem withoutRenditions_format (h : diagnostic.Lacks escapeChar) :
    withoutRenditions (format true diagnostic).toList = (format false diagnostic).toList := by
  have hplain : escapeChar ∉ (format false diagnostic).toList := by
    rw [toList_format]
    intro hmem
    obtain ⟨line, hline, hescape⟩ := List.mem_flatMap.mp hmem
    rcases List.mem_append.mp hescape with hescape | hescape
    · exact not_mem_shownLines (by decide) (by decide) h line hline hescape
    · exact absurd hescape (by decide)
  rcases format_cases diagnostic with ⟨middle, hformat⟩ | ⟨middle, tail, hformat⟩
  · rw [hformat] at hplain
    have hmiddle : escapeChar ∉ middle := fun hmem => hplain (List.mem_append_right _ hmem)
    rw [hformat, hformat, withoutRenditions_heading (by decide) (by decide),
      withoutRenditions_of_not_mem hmiddle]
    rfl
  · rw [hformat] at hplain
    simp only [List.mem_append, not_or] at hplain
    obtain ⟨-, hmiddle, -, htail⟩ := hplain
    rw [hformat, hformat, withoutRenditions_heading (by decide) (by decide),
      withoutRenditions_append hmiddle, withoutRenditions_heading (by decide) (by decide),
      withoutRenditions_of_not_mem htail]
    rfl

/-! ### The text of a diagnostic -/

/-- A diagnostic without line feeds is read back from its text without colours, so two of them with
one text are the same. And with all sequences for colours taken out, the text with colours is the
text without, if the diagnostic has no escape character of its own. -/
theorem format_faithful :
    (∀ diagnostic : Diagnostic, diagnostic.Lacks '\n' →
      readBack (format false diagnostic).toList = diagnostic) ∧
    (∀ first second : Diagnostic, first.Lacks '\n' → second.Lacks '\n' →
      format false first = format false second →
        first.message = second.message ∧ first.context = second.context ∧
          first.suggestions = second.suggestions) ∧
    ∀ diagnostic : Diagnostic, diagnostic.Lacks escapeChar →
      withoutRenditions (format true diagnostic).toList = (format false diagnostic).toList := by
  refine ⟨fun _ => readBack_format, fun first second hfirst hsecond hformat => ?_,
    fun _ => withoutRenditions_format⟩
  have hsame : first = second := calc
    first = readBack (format false first).toList := (readBack_format hfirst).symm
    _ = readBack (format false second).toList := by rw [hformat]
    _ = second := readBack_format hsecond
  rw [hsame]
  exact ⟨rfl, rfl, rfl⟩

/-- A context that looks like suggestions is told from suggestions, and a message that looks like
the end of a sequence for colours is kept. -/
theorem format_faithful_imitated_marks :
    let imitating : Diagnostic :=
      { message := "a: [31m", context := ["  = b", "help: consider:", "  1. c"] }
    let suggesting : Diagnostic :=
      { message := "a: [31m", context := ["  = b"], suggestions := ["c"] }
    imitating.Lacks '\n' ∧ suggesting.Lacks '\n' ∧
      readBack (format false imitating).toList = imitating ∧
      format false imitating ≠ format false suggesting ∧
      suggesting.Lacks escapeChar ∧
      withoutRenditions (format true suggesting).toList = (format false suggesting).toList := by
  intro imitating suggesting
  have himitating : imitating.Lacks '\n' := by decide +kernel
  have hsuggesting : suggesting.Lacks '\n' := by decide +kernel
  have hescape : suggesting.Lacks escapeChar := by decide +kernel
  obtain ⟨hread, hinjective, hcolours⟩ := format_faithful
  refine ⟨himitating, hsuggesting, hread _ himitating, fun hsame => ?_, hescape,
    hcolours _ hescape⟩
  have hcontext := (hinjective _ _ himitating hsuggesting hsame).2.1
  exact absurd hcontext (by decide)

end Diagnostic

end HeaderBindings
