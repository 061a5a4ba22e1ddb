import HeaderBindings.Enumeration.Request
import HeaderBindings.Proofs.Lines
import HeaderBindings.Proofs.Words
import Mathlib.Data.List.Basic

/-!
Lists of constants as text. However a list is laid out, with any blanks around its constants, blank
lines between them and line feeds with or without a carriage return, the text gives the list back,
and every text is a layout of the list that it gives. So what is rendered from a text is what is
rendered from the list.
-/

namespace HeaderBindings
open Text

namespace Enumeration

/-! ### Layouts -/

/-- A constant as a line can hold it: not empty, without a line feed and without blanks around
it. -/
structure IsListable (constant : String) : Prop where
  nonempty : constant.toList ≠ []
  oneLine : '\n' ∉ constant.toList
  trimmed : trim constant.toList = constant.toList

/-- Blanks that do not end a line. -/
def IsGap (blanks : List Char) : Prop := ∀ c ∈ blanks, isBlank c = true ∧ c ≠ '\n'

/-- The two ends of a line. -/
def lineEnds : List (List Char) := [['\n'], ['\r', '\n']]

/-- A line without its end that holds at most one constant. -/
inductive IsListedLine : List String → List Char → Prop where
  | blank {blanks : List Char} : IsGap blanks → IsListedLine [] blanks
  | constant {constant : String} {lead trail : List Char} :
      IsListable constant → IsGap lead → IsGap trail →
        IsListedLine [constant] (lead ++ constant.toList ++ trail)

/-- A text that lists constants in order, one on a line. The last line need not be ended. -/
inductive IsListing : List String → List Char → Prop where
  | last {constants : List String} {line : List Char} :
      IsListedLine constants line → IsListing constants line
  | line {constants others : List String} {line ending rest : List Char} :
      IsListedLine constants line → ending ∈ lineEnds → IsListing others rest →
        IsListing (constants ++ others) (line ++ ending ++ rest)

variable {constants : List String} {line text : List Char}

theorem IsGap.newline_not_mem {blanks : List Char} (h : IsGap blanks) : '\n' ∉ blanks :=
  fun hmem => (h '\n' hmem).2 rfl

theorem IsGap.isBlank {blanks : List Char} (h : IsGap blanks) :
    ∀ c ∈ blanks, Text.isBlank c = true := fun c hc => (h c hc).1

theorem IsGap.append {first second : List Char} (hfirst : IsGap first) (hsecond : IsGap second) :
    IsGap (first ++ second) := by
  intro c hc
  rcases List.mem_append.mp hc with hc | hc
  · exact hfirst c hc
  · exact hsecond c hc

theorem isGap_return : IsGap ['\r'] := by
  intro c hc
  obtain rfl := List.mem_singleton.mp hc
  decide

theorem IsListedLine.newline_not_mem (h : IsListedLine constants line) : '\n' ∉ line := by
  cases h with
  | blank hblanks => exact hblanks.newline_not_mem
  | constant hlistable hlead htrail =>
      simp only [List.mem_append, not_or]
      exact ⟨⟨hlead.newline_not_mem, hlistable.oneLine⟩, htrail.newline_not_mem⟩

/-- Further blanks change nothing about a line. -/
theorem IsListedLine.append_gap (h : IsListedLine constants line) {blanks : List Char}
    (hblanks : IsGap blanks) : IsListedLine constants (line ++ blanks) := by
  cases h with
  | blank hline => exact .blank (hline.append hblanks)
  | constant hlistable hlead htrail =>
      rw [List.append_assoc]
      exact .constant hlistable hlead (htrail.append hblanks)

/-! ### Lines and pieces -/

/-- What pieces of a text hold besides the blanks around it; a blank piece holds nothing. -/
def entries (pieces : List (List Char)) : List (List Char) :=
  (pieces.map trim).filter (!·.isEmpty)

theorem entries_append (first second : List (List Char)) :
    entries (first ++ second) = entries first ++ entries second := by
  rw [entries, List.map_append, List.filter_append, entries, entries]

theorem entries_cons (piece : List Char) (pieces : List (List Char)) :
    entries (piece :: pieces) = entries [piece] ++ entries pieces :=
  entries_append [piece] pieces

theorem entries_singleton (piece : List Char) :
    entries [piece] = if trim piece = [] then [] else [trim piece] := by
  rw [entries, List.map_singleton]
  by_cases h : trim piece = [] <;> simp [h]

theorem entries_append_blanks (piece : List Char) {blanks : List Char}
    (h : ∀ c ∈ blanks, isBlank c = true) : entries [piece ++ blanks] = entries [piece] := by
  rw [entries_singleton, entries_singleton, trim_append_blanks piece h]

/-- The carriage return at the end of a line is a blank like others, and an empty last piece holds
nothing. -/
theorem entries_lines (text : List Char) : entries (lines text) = entries (cutAt '\n' text) := by
  induction text using cutAt_induction with
  | last piece hpiece =>
      rw [cutAt_of_not_mem hpiece]
      by_cases hempty : piece = []
      · subst hempty
        rfl
      · rw [lines_of_not_mem hpiece hempty]
  | next piece rest hpiece ih =>
      obtain ⟨line, hends, hlines⟩ := exists_lines_append_cons hpiece rest
      have hline : entries [line] = entries [piece] := by
        rcases hends with rfl | rfl
        · rfl
        · exact (entries_append_blanks line isGap_return.isBlank).symm
      rw [hlines, cutAt_append_cons, cutAt_of_not_mem hpiece, entries_cons, hline, ih,
        ← entries_append]

theorem constantsOfText_eq (text : String) :
    constantsOfText text = (entries (cutAt '\n' text.toList)).map String.ofList := by
  rw [← entries_lines]
  rfl

/-! ### Reading layouts -/

theorem IsListedLine.entries_eq (h : IsListedLine constants line) :
    (entries [line]).map String.ofList = constants := by
  cases h with
  | blank hblanks =>
      have hnone : entries [line] = [] := by
        rw [← List.nil_append line, entries_append_blanks [] hblanks.isBlank]
        rfl
      rw [hnone, List.map_nil]
  | @constant constant lead trail hlistable hlead htrail =>
      have htrim : trim (lead ++ constant.toList ++ trail) = constant.toList := by
        rw [trim_append_blanks _ htrail.isBlank, trim_blanks_append hlead.isBlank,
          hlistable.trimmed]
      rw [entries_singleton, htrim, if_neg hlistable.nonempty, List.map_singleton,
        String.ofList_toList]

/-- A text that lists constants gives them back. -/
theorem IsListing.entries_eq (h : IsListing constants text) :
    (entries (cutAt '\n' text)).map String.ofList = constants := by
  induction h with
  | last hline =>
      rw [cutAt_of_not_mem hline.newline_not_mem]
      exact hline.entries_eq
  | @line constants others line ending rest hline hending _ ih =>
      -- The carriage return of an end is taken for a blank of the line.
      obtain ⟨blanks, hblanks, rfl⟩ : ∃ blanks, IsGap blanks ∧ ending = blanks ++ ['\n'] := by
        rcases List.mem_pair.mp hending with rfl | rfl
        · exact ⟨[], by simp [IsGap], rfl⟩
        · exact ⟨['\r'], isGap_return, rfl⟩
      have hwhole := hline.append_gap hblanks
      have htext : line ++ (blanks ++ ['\n']) ++ rest = (line ++ blanks) ++ '\n' :: rest := by simp
      rw [htext, cutAt_append_cons, entries_append, List.map_append, ih,
        cutAt_of_not_mem hwhole.newline_not_mem, hwhole.entries_eq]

theorem isListable_of_mem_entries {pieces : List (List Char)} (h : ∀ piece ∈ pieces, '\n' ∉ piece)
    {entry : List Char} (hentry : entry ∈ entries pieces) : IsListable (String.ofList entry) := by
  obtain ⟨hmem, hne⟩ := List.mem_filter.mp hentry
  obtain ⟨piece, hpiece, rfl⟩ := List.mem_map.mp hmem
  obtain ⟨lead, trail, hsplit, -, -⟩ := exists_blanks_trim piece
  refine ⟨?_, ?_, ?_⟩
  · rw [String.toList_ofList]
    simpa using hne
  · rw [String.toList_ofList]
    intro hnewline
    apply h piece hpiece
    rw [hsplit]
    exact List.mem_append_right lead (List.mem_append_left trail hnewline)
  · rw [String.toList_ofList, trim_trim]

/-- A piece without a line feed is a line with what it holds. -/
theorem isListedLine_entries (h : '\n' ∉ line) :
    IsListedLine ((entries [line]).map String.ofList) line := by
  obtain ⟨lead, trail, hsplit, hlead, htrail⟩ := exists_blanks_trim line
  have hgap {blanks : List Char} (hblank : ∀ c ∈ blanks, isBlank c = true)
      (hmem : ∀ c ∈ blanks, c ∈ line) : IsGap blanks := by
    intro c hc
    refine ⟨hblank c hc, ?_⟩
    rintro rfl
    exact h (hmem _ hc)
  have hleadGap : IsGap lead := hgap hlead fun c hc => by
    rw [hsplit]
    exact List.mem_append_left _ hc
  have htrailGap : IsGap trail := hgap htrail fun c hc => by
    rw [hsplit]
    exact List.mem_append_right _ (List.mem_append_right _ hc)
  rw [entries_singleton]
  split
  case isTrue hnone =>
    rw [hsplit, hnone, List.nil_append]
    exact .blank (hleadGap.append htrailGap)
  case isFalse hsome =>
    have hlistable : IsListable (String.ofList (trim line)) := by
      apply @isListable_of_mem_entries [line] (List.forall_mem_singleton.mpr h)
      rw [entries_singleton, if_neg hsome]
      exact List.mem_singleton.mpr rfl
    have hline := IsListedLine.constant hlistable hleadGap htrailGap
    rwa [String.toList_ofList, List.append_assoc, ← hsplit] at hline

/-- Every text lists what it is read as. -/
theorem isListing_entries (text : List Char) :
    IsListing ((entries (cutAt '\n' text)).map String.ofList) text := by
  induction text using cutAt_induction with
  | last piece hpiece =>
      rw [cutAt_of_not_mem hpiece]
      exact .last (isListedLine_entries hpiece)
  | next piece rest hpiece ih =>
      have hending : ['\n'] ∈ lineEnds := List.mem_cons_self
      have hlisting := IsListing.line (isListedLine_entries hpiece) hending ih
      rwa [List.append_assoc, List.singleton_append, ← List.map_append, ← entries_append,
        ← cutAt_of_not_mem hpiece, ← cutAt_append_cons] at hlisting

/-- The constants of two texts on lines of their own are those of the one and then those of the
other. Whatever the text, its constants are not empty, on one line and without blanks around them,
and they are a given list exactly if the text lays out that list. Then rendering an enumeration from
the text gives what rendering the list gives, text or error. -/
theorem constantsOfText_eq_iff_isListing :
    (∀ first second : String,
      constantsOfText (first ++ "\n" ++ second) = constantsOfText first ++ constantsOfText second) ∧
    (∀ text constant, constant ∈ constantsOfText text → IsListable constant) ∧
    (∀ text constants, constantsOfText text = constants ↔ IsListing constants text.toList) ∧
    ∀ text constants, IsListing constants text.toList → ∀ style enumeration sharedPrefix,
      (EnumRequest.generate
          { enumeration := some enumeration, sharedPrefix := some sharedPrefix,
            source := .text text, style }).outcome.value
        = (render style enumeration sharedPrefix constants).mapError .rendering := by
  have hiff (text : String) (constants : List String) :
      constantsOfText text = constants ↔ IsListing constants text.toList := by
    rw [constantsOfText_eq]
    constructor
    · rintro rfl
      exact isListing_entries text.toList
    · exact IsListing.entries_eq
  refine ⟨fun first second => ?_, fun text constant hmem => ?_, hiff,
    fun text constants hlisting style enumeration sharedPrefix => ?_⟩
  · have htext : (first ++ "\n" ++ second).toList = first.toList ++ '\n' :: second.toList := by simp
    rw [constantsOfText_eq, constantsOfText_eq, constantsOfText_eq, htext, cutAt_append_cons,
      entries_append, List.map_append]
  · rw [constantsOfText_eq] at hmem
    obtain ⟨entry, hentry, rfl⟩ := List.mem_map.mp hmem
    exact isListable_of_mem_entries (fun _ => separator_not_mem_cutAt) hentry
  · have hconstants := (hiff text constants).mpr hlisting
    rw [@EnumRequest.value_generate _ enumeration sharedPrefix rfl rfl, ConstantSource.constants,
      hconstants]

/-- Blank lines, both line ends, blanks of several kinds, no end of the last line, and a last
constant without the prefix. -/
theorem constantsOfText_eq_iff_isListing_mixed :
    let text := "\r\n\tP_A \r\r\n\n  P_B\n\u3000Q_C\t"
    constantsOfText text = ["P_A", "P_B", "Q_C"] ∧
      IsListing ["P_A", "P_B", "Q_C"] text.toList ∧
      (EnumRequest.generate
          { enumeration := some "E", sharedPrefix := some "P_",
            source := .text text }).outcome.value
        = .error (.rendering (.prefixMismatch "Q_C" "E" "P_")) := by
  intro text
  obtain ⟨-, -, hiff, hgenerate⟩ := constantsOfText_eq_iff_isListing
  have hconstants : constantsOfText text = ["P_A", "P_B", "Q_C"] := by decide +kernel
  have hlisting : IsListing ["P_A", "P_B", "Q_C"] text.toList := (hiff _ _).mp hconstants
  have hrender : render {} "E" "P_" ["P_A", "P_B", "Q_C"]
      = .error (.prefixMismatch "Q_C" "E" "P_") := by decide +kernel
  refine ⟨hconstants, hlisting, ?_⟩
  rw [hgenerate text _ hlisting {} "E" "P_", hrender]
  rfl

end Enumeration

end HeaderBindings
