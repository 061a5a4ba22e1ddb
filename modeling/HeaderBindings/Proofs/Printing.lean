import HeaderBindings.Proofs.Cleaning
import HeaderBindings.Proofs.WellFormed

/-!
Reading printed declarations. The text of well-formed declarations holds nothing that cleaning takes
out: no number sign and no slash, no literal, and no word that is dropped or replaced. So cleaning
changes its blanks only, and the declarations are read back in order.
-/

namespace HeaderBindings.Source
open Text

/-! ### Cleaning a spelled text -/

namespace Spells
variable {tokens : List Token} {text : List Char}

theorem isBare (h : Spells tokens text) : IsBare text := by
  have hmarks : ['#', '/', '"', '\''].all
      (fun c => !isBlank c && !isPlainChar c && !marks.contains c) = true := by decide +kernel
  have hnot : ∀ c ∈ ['#', '/', '"', '\''], c ∉ text := by
    intro c hmem
    have hc := List.all_eq_true.mp hmarks c hmem
    simp only [Bool.and_eq_true, Bool.not_eq_true', List.contains_eq_mem,
      decide_eq_false_iff_not] at hc
    exact h.not_mem_text hc.1.1 hc.1.2 fun hin => absurd hin hc.2
  have hcomment : text.IsChain fun c d => c = '/' → d ≠ '/' ∧ d ≠ '*' := by
    refine List.isChain_iff_getElem.mpr fun i hi hslash => ?_
    exact absurd (hslash ▸ List.getElem_mem _) (hnot '/' (by simp))
  refine ⟨hnot _ (by simp), hnot _ (by simp), hnot _ (by simp), hcomment, ?_⟩
  clear hnot hcomment
  induction h with
  | nil => rfl
  | blank hc _ ih => rw [firstCall?, firstCallFrom_cons (isWordChar_of_isBlank hc), ih]; rfl
  | word hname hends _ ih =>
      rw [firstCall?_word hname.isWordChar hends.isWordChar hname.isExtensionName_eq, ih]
      rfl
  | mark hc _ ih => rw [firstCall?, firstCallFrom_cons (isWordChar_of_mem_marks _ hc), ih]; rfl

theorem mapWords (h : Spells tokens text) : mapWords plainWord text = text := by
  induction h with
  | nil => rfl
  | blank hc _ ih => rw [mapWords_cons _ (isWordChar_of_isBlank hc), ih]
  | word hname hends _ ih =>
      rw [mapWords_append _ hname.toList_ne_nil hname.isWordChar hends,
        hname.plainWord_eq, ih]
  | mark hc _ ih => rw [mapWords_cons _ (isWordChar_of_mem_marks _ hc), ih]

/-- Cleaning keeps the tokens. -/
theorem clean (h : Spells tokens text) : Spells tokens (clean text).value := by
  rw [Source.clean, Logged.value_bind, Logged.value_pure, 
    h.isBare.dropComments_blankMarkers, h.isBare.value_dropExtensions, h.mapWords]
  exact (h.collapseFrom false).trim

end Spells

/-! ### Printed declarations -/

theorem spells_statements {signatures : List Signature}
    (h : ∀ signature ∈ signatures, signature.WellFormed) :
    Spells (signatures.flatMap fun signature => Token.read signature.statement.toList)
      (String.join (signatures.map (·.statement ++ "\n"))).toList := by
  induction signatures with
  | nil => exact .nil
  | cons signature rest ih =>
      have hfirst := h signature List.mem_cons_self
      have hrest := ih fun other hmem => h other (List.mem_cons_of_mem signature hmem)
      have htext : (String.join ((signature :: rest).map (·.statement ++ "\n"))).toList
          = signature.statement.toList
            ++ '\n' :: (String.join (rest.map (·.statement ++ "\n"))).toList := by simp
      have hblank : isBlank '\n' = true := by decide
      rw [List.flatMap_cons, htext, hfirst.read_statement]
      exact hfirst.spells_statement.append (.blank hblank hrest) (wordEnds_of_isBlank hblank _)

/-- Well-formed declarations are read back from their printed text, in order and without anything
skipped. -/
theorem readHeader_printed {signatures : List Signature}
    (h : ∀ signature ∈ signatures, signature.WellFormed) :
    (readHeader {} (String.join (signatures.map (·.statement ++ "\n")))).value
      = ⟨signatures, []⟩ :=
  value_readHeader_of_spells h (spells_statements h).clean

/-- Two declarations, the first with a pointer to a pointer and with a parameter without a name. -/
theorem readHeader_printed_two :
    let signatures : List Signature :=
      [⟨"g_name", .pointer (.named ["const"] "char"),
        [⟨"self", .pointer (.pointer (.named [] "GObject"))⟩,
          ⟨"", .named ["volatile", "const"] "T long"⟩, ⟨"x", .named [] "unsigned T"⟩]⟩,
        ⟨"reset", .named [] "void", []⟩]
    let text := "const char* g_name(GObject** self, volatile const T long, unsigned T x);\n"
      ++ "void reset();\n"
    (∀ signature ∈ signatures, signature.WellFormed) ∧
      String.join (signatures.map (·.statement ++ "\n")) = text ∧
      (readHeader {} text).value = ⟨signatures, []⟩ := by
  intro signatures text
  have hself : Parameter.WellFormed ⟨"self", .pointer (.pointer (.named [] "GObject"))⟩ :=
    ⟨⟨[], ["GObject"], 2⟩, by decide +kernel, by decide +kernel, Or.inl (by decide +kernel)⟩
  have hunnamed : Parameter.WellFormed ⟨"", .named ["volatile", "const"] "T long"⟩ :=
    ⟨⟨["volatile", "const"], ["T", "long"], 0⟩, by decide +kernel, by decide +kernel,
      Or.inr ⟨rfl, fun _ => Or.inr ⟨"long", rfl, by decide +kernel⟩⟩⟩
  have hx : Parameter.WellFormed ⟨"x", .named [] "unsigned T"⟩ :=
    ⟨⟨[], ["unsigned", "T"], 0⟩, by decide +kernel, by decide +kernel, Or.inl (by decide +kernel)⟩
  have hwf : ∀ signature ∈ signatures, signature.WellFormed := by
    refine List.forall_mem_cons.mpr ⟨⟨by decide +kernel, ?_, ?_, by decide +kernel⟩,
      List.forall_mem_singleton.mpr ⟨by decide +kernel, ?_, by simp, by decide +kernel⟩⟩
    · exact ⟨⟨["const"], ["char"], 1⟩, by decide +kernel, by decide +kernel⟩
    · simp [hself, hunnamed, hx]
    · exact ⟨⟨[], ["void"], 0⟩, by decide +kernel, by decide +kernel⟩
  have htext : String.join (signatures.map (·.statement ++ "\n")) = text := by decide +kernel
  have hread := readHeader_printed hwf
  rw [htext] at hread
  exact ⟨hwf, htext, hread⟩

end HeaderBindings.Source
