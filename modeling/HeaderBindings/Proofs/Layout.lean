import HeaderBindings.Proofs.Extensions
import HeaderBindings.Proofs.Fragments
import HeaderBindings.Proofs.WellFormed
import Mathlib.Data.List.Chain

/-!
Declarations written with noise between their tokens: blanks, line markers, comments, dropped
keywords and calls of compiler extensions, in any order, as long as no two words touch. Each pass of
cleaning takes one kind of noise out of the whole text and leaves the rest as it is, so that the
cleaned text spells the tokens and nothing else.
-/

namespace HeaderBindings.Source
open Text

/-! ### Pieces -/

/-- Whether a fragment is read as blanks only. -/
def Fragment.isBlank (fragment : Fragment) : Bool := fragment.read.all Text.isBlank

/-- A token, or noise. -/
inductive Piece where
  | token (content : Token)
  /-- A blank, a line marker or a comment. -/
  | filler (fragment : Fragment)
  | keyword (word : String)
  /-- A call of a compiler extension: its name, what stands in front of its list, and what stands in
  its list. -/
  | call (name : String) (gap list : List Fragment)

namespace Piece

/-- The piece as it is written. -/
def fragments : Piece → List Fragment
  | token content => content.text.toList.map .char
  | filler fragment => [fragment]
  | keyword word => word.toList.map .char
  | call name gap list => name.toList.map .char ++ (gap ++ .char '(' :: (list ++ [.char ')']))

/-- The token, if it is no noise. -/
def token? : Piece → Option Token
  | token content => some content
  | _ => none

/-- Whether noise is what it is written as: fillers are blank, keywords are dropped, and the list of
a call is balanced outside literals. -/
def WellFormed : Piece → Prop
  | token _ => True
  | filler fragment => fragment.isBlank = true
  | keyword word => word ∈ droppedKeywords
  | call name gap list =>
      name ∈ extensionNames ∧ gap.all Fragment.isBlank = true ∧
        IsPaired '(' ')' (list.flatMap Fragment.read)

instance : DecidablePred WellFormed
  | token _ => isTrue trivial
  | filler fragment => inferInstanceAs (Decidable (fragment.isBlank = true))
  | keyword word => inferInstanceAs (Decidable (word ∈ droppedKeywords))
  | call _ _ _ => inferInstanceAs (Decidable (_ ∧ _ ∧ _))

/-- Whether the piece starts with a word. -/
def startsWord : Piece → Bool
  | token (.word _) | keyword _ | call _ _ _ => true
  | _ => false

/-- Whether the piece ends with a word. -/
def endsWord : Piece → Bool
  | token (.word _) | keyword _ => true
  | _ => false

/-- Whether a piece may follow another one without a word of one touching a word of the other. -/
def Apart (first second : Piece) : Prop := ¬(first.endsWord = true ∧ second.startsWord = true)

instance : DecidableRel Apart := fun _ _ => inferInstanceAs (Decidable (¬_))

/-- What is left of a piece without line markers and comments. -/
def uncommented (piece : Piece) : List Char := piece.fragments.flatMap Fragment.read

/-- What is left of a piece without calls too. -/
def withoutCalls : Piece → List Char
  | token content => content.text.toList
  | filler fragment => fragment.read
  | keyword word => word.toList
  | call _ _ _ => [' ']

/-- What is left of a piece without keywords too. -/
def spelled : Piece → List Char
  | token content => content.text.toList
  | filler fragment => fragment.read
  | keyword _ | call _ _ _ => [' ']

end Piece

/-- Pieces that can be written one after the other. -/
structure IsLayout (pieces : List Piece) : Prop where
  wellFormed : ∀ piece ∈ pieces, piece.WellFormed
  /-- No word touches the next one. -/
  apart : pieces.IsChain Piece.Apart
  /-- Line markers stand on lines of their own, and comments in code. -/
  placed : WellPlaced .start .code (pieces.flatMap Piece.fragments)

/-- The text of pieces. -/
def layoutText (pieces : List Piece) : List Char :=
  (pieces.flatMap Piece.fragments).flatMap Fragment.text

/-! ### Words and noise -/

/-- Pieces whose tokens can be spelled and whose noise is what it is written as. -/
def Piece.IsSound (piece : Piece) : Prop :=
  piece.WellFormed ∧ ∀ token ∈ piece.token?, token.IsSpellable

/-- Unless it is a call, a piece without line markers and comments is without calls. -/
theorem uncommented_eq_withoutCalls {piece : Piece}
    (h : ∀ name gap list, piece ≠ .call name gap list) :
    piece.uncommented = piece.withoutCalls := by
  cases piece with
  | token | keyword => exact Fragment.flatMap_read_char _
  | filler => exact List.append_nil _
  | call name gap list => exact absurd rfl (h name gap list)

theorem uncommented_call (name : String) (gap list : List Fragment) (rest : List Char) :
    (Piece.call name gap list).uncommented ++ rest
      = name.toList ++ (gap.flatMap Fragment.read
        ++ '(' :: (list.flatMap Fragment.read ++ ')' :: rest)) := by
  simp [Piece.uncommented, Piece.fragments, Fragment.read]

theorem Fragment.isBlank_of_mem (fragment : Fragment) (h : fragment.isBlank = true) :
    ∀ c ∈ fragment.read, Text.isBlank c = true := List.all_eq_true.mp h

theorem Fragment.read_ne_nil (fragment : Fragment) : fragment.read ≠ [] := by
  cases fragment <;> simp [Fragment.read]

/-- A word ends in front of a piece that starts with none. -/
theorem wordEnds_spelled {piece : Piece} (hsound : piece.IsSound)
    (hstarts : piece.startsWord = false) (rest : List Char) :
    WordEnds (piece.spelled ++ rest) := by
  cases piece with
  | token content =>
      rcases hsound.2 content rfl with ⟨name, -, rfl⟩ | ⟨c, hc, rfl⟩
      · cases hstarts
      · rw [Piece.spelled, toList_text_ofMark c]
        exact wordEnds_mark hc rest
  | filler fragment =>
      obtain ⟨c, more, hread⟩ := List.exists_cons_of_ne_nil fragment.read_ne_nil
      have hblank : isBlank c = true :=
        fragment.isBlank_of_mem hsound.1 c (by rw [hread]; exact List.mem_cons_self)
      rw [Piece.spelled, hread, List.cons_append]
      exact wordEnds_of_isBlank hblank _
  | keyword | call => cases hstarts

/-- A word ends in front of what may follow it, whatever kinds of noise are left there. -/
theorem wordEnds_flatMap {f : Piece → List Char}
    (hf : ∀ piece, piece.startsWord = false → f piece = piece.spelled) {first : Piece}
    {rest : List Piece} (hsound : ∀ piece ∈ rest, piece.IsSound)
    (hapart : (first :: rest).IsChain Piece.Apart) (hends : first.endsWord = true) :
    WordEnds (rest.flatMap f) := by
  cases rest with
  | nil => exact wordEnds_nil
  | cons next others =>
      have hstarts : next.startsWord = false := by
        rw [Bool.eq_false_iff]
        exact fun hstarts => (List.isChain_cons_cons.mp hapart).1 ⟨hends, hstarts⟩
      rw [List.flatMap_cons, hf next hstarts]
      exact wordEnds_spelled (hsound next List.mem_cons_self) hstarts _

theorem withoutCalls_eq_spelled (piece : Piece) (h : piece.startsWord = false) :
    piece.withoutCalls = piece.spelled := by
  cases piece with
  | token | filler => rfl
  | keyword | call => cases h

theorem uncommented_eq_spelled (piece : Piece) (h : piece.startsWord = false) :
    piece.uncommented = piece.spelled := by
  rw [uncommented_eq_withoutCalls, withoutCalls_eq_spelled piece h]
  rintro name gap list rfl
  cases h

/-! ### Taking the noise out -/

/-- A dropped keyword is a word, is no name of an extension, and becomes a space. -/
theorem of_mem_droppedKeywords {word : String} (h : word ∈ droppedKeywords) :
    word.toList ≠ [] ∧ word.toList.all isWordChar = true ∧ isExtensionName word.toList = false ∧
      plainWord word.toList = [' '] := by
  have hkeywords : ∀ word ∈ droppedKeywords, word.toList ≠ [] ∧
      word.toList.all isWordChar = true ∧ isExtensionName word.toList = false ∧
      plainWord word.toList = [' '] := by decide +kernel
  exact hkeywords word h

/-- Taking calls out turns each call into a space. -/
theorem value_dropExtensions_pieces {pieces : List Piece} (hsound : ∀ piece ∈ pieces, piece.IsSound)
    (hapart : pieces.IsChain Piece.Apart) :
    (dropExtensions (pieces.flatMap Piece.uncommented)).value
      = pieces.flatMap Piece.withoutCalls := by
  induction pieces with
  | nil =>
      rw [List.flatMap_nil, value_dropExtensions]
      rfl
  | cons piece rest ih =>
      have hpiece := hsound piece List.mem_cons_self
      have hrest := fun other hmem => hsound other (List.mem_cons_of_mem piece hmem)
      have hih := ih hrest hapart.of_cons
      have hends := wordEnds_flatMap uncommented_eq_spelled hrest hapart
      rw [List.flatMap_cons, List.flatMap_cons]
      cases piece with
      | token content =>
          rw [uncommented_eq_withoutCalls (by simp), Piece.withoutCalls]
          rcases hpiece.2 content rfl with ⟨name, hname, rfl⟩ | ⟨c, hc, rfl⟩
          · rw [Token.text,
              value_dropExtensions_word hname.isWordChar (hends rfl) hname.isExtensionName_eq, hih]
          · rw [toList_text_ofMark c, List.singleton_append,
              value_dropExtensions_cons (isWordChar_of_mem_marks c hc), hih]
            rfl
      | filler fragment =>
          rw [uncommented_eq_withoutCalls (by simp), Piece.withoutCalls,
            value_dropExtensions_blanks (fragment.isBlank_of_mem hpiece.1), hih]
      | keyword word =>
          obtain ⟨-, hword, hname, -⟩ := of_mem_droppedKeywords hpiece.1
          rw [uncommented_eq_withoutCalls (by simp), Piece.withoutCalls,
            value_dropExtensions_word (List.all_eq_true.mp hword) (hends rfl) hname, hih]
      | call name gap list =>
          obtain ⟨hmem, hgap, hlist⟩ := hpiece.1
          obtain ⟨hword, hname⟩ := of_mem_extensionNames hmem
          have hblank : ∀ c ∈ gap.flatMap Fragment.read, isBlank c = true := by
            intro c hc
            obtain ⟨fragment, hfragment, hc⟩ := List.mem_flatMap.mp hc
            exact fragment.isBlank_of_mem (List.all_eq_true.mp hgap fragment hfragment) c hc
          rw [uncommented_call, value_dropExtensions_call (List.all_eq_true.mp hword) hname hblank
            hlist, hih]
          rfl

/-- Replacing words turns each keyword into a space. -/
theorem mapWords_pieces {pieces : List Piece} (hsound : ∀ piece ∈ pieces, piece.IsSound)
    (hapart : pieces.IsChain Piece.Apart) :
    mapWords plainWord (pieces.flatMap Piece.withoutCalls) = pieces.flatMap Piece.spelled := by
  induction pieces with
  | nil => rfl
  | cons piece rest ih =>
      have hpiece := hsound piece List.mem_cons_self
      have hrest := fun other hmem => hsound other (List.mem_cons_of_mem piece hmem)
      have hih := ih hrest hapart.of_cons
      have hends := wordEnds_flatMap withoutCalls_eq_spelled hrest hapart
      rw [List.flatMap_cons, List.flatMap_cons]
      cases piece with
      | token content =>
          rw [Piece.withoutCalls, Piece.spelled]
          rcases hpiece.2 content rfl with ⟨name, hname, rfl⟩ | ⟨c, hc, rfl⟩
          · rw [Token.text, mapWords_append _ hname.toList_ne_nil hname.isWordChar (hends rfl),
              hname.plainWord_eq, hih]
          · rw [toList_text_ofMark c, List.singleton_append,
              mapWords_cons _ (isWordChar_of_mem_marks c hc), hih]
            rfl
      | filler fragment =>
          rw [Piece.withoutCalls, Piece.spelled,
            mapWords_blanks _ (fragment.isBlank_of_mem hpiece.1), hih]
      | keyword word =>
          obtain ⟨hne, hword, -, hspace⟩ := of_mem_droppedKeywords hpiece.1
          rw [Piece.withoutCalls, Piece.spelled,
            mapWords_append _ hne (List.all_eq_true.mp hword) (hends rfl), hspace, hih]
      | call name gap list =>
          rw [Piece.withoutCalls, Piece.spelled, List.singleton_append, mapWords_cons _ (by decide),
            hih]
          rfl

/-- What is left spells the tokens. -/
theorem spells_pieces {pieces : List Piece} (hsound : ∀ piece ∈ pieces, piece.IsSound)
    (hapart : pieces.IsChain Piece.Apart) :
    Spells (pieces.filterMap Piece.token?) (pieces.flatMap Piece.spelled) := by
  have hblanks {tokens : List Token} {text blanks : List Char} (h : Spells tokens text)
      (hblank : ∀ c ∈ blanks, isBlank c = true) : Spells tokens (blanks ++ text) := by
    induction blanks with
    | nil => exact h
    | cons c blanks ih =>
        have hrest := ih fun d hd => hblank d (List.mem_cons_of_mem c hd)
        exact .blank (hblank c List.mem_cons_self) hrest
  induction pieces with
  | nil => exact .nil
  | cons piece rest ih =>
      have hpiece := hsound piece List.mem_cons_self
      have hrest := fun other hmem => hsound other (List.mem_cons_of_mem piece hmem)
      have hih := ih hrest hapart.of_cons
      have hends := wordEnds_flatMap (fun _ _ => rfl) hrest hapart
      rw [List.flatMap_cons]
      cases piece with
      | token content =>
          have hfirst : (Piece.token content :: rest).filterMap Piece.token?
              = content :: rest.filterMap Piece.token? := rfl
          rw [hfirst, Piece.spelled]
          rcases hpiece.2 content rfl with ⟨name, hname, rfl⟩ | ⟨c, hc, rfl⟩
          · exact .word hname (hends rfl) hih
          · rw [toList_text_ofMark c]
            exact .mark hc hih
      | filler fragment => exact hblanks hih (fragment.isBlank_of_mem hpiece.1)
      | keyword | call => exact .blank (by decide) hih

/-- The cleaned text of a layout spells the tokens in it. -/
theorem spells_clean_layoutText {pieces : List Piece} (h : IsLayout pieces)
    (htokens : ∀ token ∈ pieces.filterMap Piece.token?, token.IsSpellable) :
    Spells (pieces.filterMap Piece.token?) (clean (layoutText pieces)).value := by
  have hsound : ∀ piece ∈ pieces, piece.IsSound := fun piece hmem =>
    ⟨h.wellFormed piece hmem, fun token htoken =>
      htokens token (List.mem_filterMap.mpr ⟨piece, hmem, htoken⟩)⟩
  have huncommented : dropComments (blankMarkers (layoutText pieces))
      = pieces.flatMap Piece.uncommented := by
    rw [layoutText, dropComments_fragments h.placed, List.flatMap_assoc]
    rfl
  have hspelled : mapWords plainWord
      (dropExtensions (dropComments (blankMarkers (layoutText pieces)))).value
        = pieces.flatMap Piece.spelled := calc
    _ = mapWords plainWord (dropExtensions (pieces.flatMap Piece.uncommented)).value := by
      rw [huncommented]
    _ = mapWords plainWord (pieces.flatMap Piece.withoutCalls) := by
      rw [value_dropExtensions_pieces hsound h.apart]
    _ = pieces.flatMap Piece.spelled := mapWords_pieces hsound h.apart
  rw [clean, Logged.value_bind, Logged.value_pure, hspelled]
  exact ((spells_pieces hsound h.apart).collapseFrom false).trim

/-! ### Declarations with noise -/

/-- Noise changes nothing: well-formed declarations are read from every layout of the tokens of
their statements, in order and without anything skipped. -/
theorem readHeader_layout {signatures : List Signature}
    (hwf : ∀ signature ∈ signatures, signature.WellFormed) {pieces : List Piece}
    (hlayout : IsLayout pieces)
    (htokens : pieces.filterMap Piece.token?
      = signatures.flatMap fun signature => Token.read signature.statement.toList) :
    (readHeader {} (String.ofList (layoutText pieces))).value = ⟨signatures, []⟩ := by
  have hspellable : ∀ token ∈ pieces.filterMap Piece.token?, token.IsSpellable := by
    rw [htokens]
    intro token hmem
    obtain ⟨signature, hsignature, hmem⟩ := List.mem_flatMap.mp hmem
    rw [(hwf signature hsignature).read_statement] at hmem
    exact (hwf signature hsignature).spells_statement.isSpellable token hmem
  refine value_readHeader_of_spells hwf ?_
  rw [← htokens, String.toList_ofList]
  exact spells_clean_layoutText hlayout hspellable

/-- A declaration with every kind of noise, some of it inside a call and some with a parenthesis or
a quote that stands for nothing. -/
theorem readHeader_layout_all_noise :
    let signatures : List Signature :=
      [⟨"g_name", .pointer (.named ["const"] "char"),
        [⟨"self", .pointer (.named [] "GObject")⟩, ⟨"", .named [] "int"⟩]⟩]
    let pieces : List Piece :=
      [.filler (.lineMarker [' '] " 1 \"x.h\"".toList), .filler (.char '\n'), .keyword "extern",
        .filler (.char ' '),
        .call "__attribute__" [] ("(visibility(\"(\"))".toList.map .char), .token (.word "const"),
        .filler (.blockComment " don't\n".toList), .token (.word "char"), .token .star,
        .token (.word "g_name"), .filler (.lineComment " one (".toList), .token .openParen,
        .token (.word "GObject"), .token .star, .token (.word "self"), .token .comma,
        .filler (.char '\t'), .keyword "__restrict", .filler (.char '\n'), .token (.word "int"),
        .token .closeParen,
        .call "__asm__" [.blockComment " ) ".toList] ("\"g)name\"".toList.map .char),
        .token (.other ';')]
    let text := " # 1 \"x.h\"\nextern __attribute__((visibility(\"(\")))const/* don't\n*/char"
      ++ "*g_name// one (\n(GObject*self,\t__restrict\nint)__asm__/* ) */(\"g)name\");"
    (∀ signature ∈ signatures, signature.WellFormed) ∧ IsLayout pieces ∧
      pieces.filterMap Piece.token?
        = (signatures.flatMap fun signature => Token.read signature.statement.toList) ∧
      String.ofList (layoutText pieces) = text ∧ (readHeader {} text).value = ⟨signatures, []⟩ := by
  intro signatures pieces text
  have hself : Parameter.WellFormed ⟨"self", .pointer (.named [] "GObject")⟩ :=
    ⟨⟨[], ["GObject"], 1⟩, by decide +kernel, by decide +kernel, Or.inl (by decide +kernel)⟩
  have hunnamed : Parameter.WellFormed ⟨"", .named [] "int"⟩ :=
    ⟨⟨[], ["int"], 0⟩, by decide +kernel, by decide +kernel, Or.inr ⟨rfl, fun _ => Or.inl rfl⟩⟩
  have hwf : ∀ signature ∈ signatures, signature.WellFormed := by
    refine List.forall_mem_singleton.mpr ⟨by decide +kernel, ?_, ?_, by decide +kernel⟩
    · exact ⟨⟨["const"], ["char"], 1⟩, by decide +kernel, by decide +kernel⟩
    · simp [hself, hunnamed]
  have hlayout : IsLayout pieces := ⟨by decide +kernel, by decide +kernel, by decide +kernel⟩
  have htokens : pieces.filterMap Piece.token?
      = signatures.flatMap fun signature => Token.read signature.statement.toList := by
    decide +kernel
  have htext : String.ofList (layoutText pieces) = text := by decide +kernel
  have hread := readHeader_layout hwf hlayout htokens
  rw [htext] at hread
  exact ⟨hwf, hlayout, htokens, htext, hread⟩

end HeaderBindings.Source
