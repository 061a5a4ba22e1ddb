import HeaderBindings.Proofs.Extensions

/-!
Texts that end inside the list of a call. The search for the end of the list goes on behind the text
from the literals and parentheses that it left open. If it finds the end, the call goes with what
the text held of it; if not, the call stays and no call behind it is taken out.
-/

namespace HeaderBindings.Source
open Text

/-! ### The list in which a text ends -/

/-- The list of the call in which a text ends, from its parenthesis on. -/
def openList? (source : List Char) : Option (List Char) :=
  match _ : firstCall? source with
  | none => none
  | some cut =>
      match _ : closingGroup? '(' ')' cut.list with
      | none => some cut.list
      | some (_, rest) => openList? rest
termination_by source.length
decreasing_by exact length_lt_of_firstCall? ‹_› ‹_›

/-! A text without a call, with a call that goes on over its end, and with one that does not. -/

section
variable {source group rest : List Char} {cut : CallCut}

theorem openList?_of_none (hfirst : firstCall? source = none) : openList? source = none := by
  rw [openList?]
  split
  · rfl
  · simp_all

theorem openList?_of_open (hfirst : firstCall? source = some cut)
    (hclose : closingGroup? '(' ')' cut.list = none) : openList? source = some cut.list := by
  rw [openList?]
  split
  · simp_all
  · split <;> simp_all

theorem openList?_of_closed (hfirst : firstCall? source = some cut)
    (hclose : closingGroup? '(' ')' cut.list = some (group, rest)) :
    openList? source = openList? rest := by
  rw [openList?]
  split
  · simp_all
  · split <;> simp_all

theorem value_dropExtensions_of_none (hfirst : firstCall? source = none) :
    (dropExtensions source).value = source := by
  rw [dropExtensions_of_none hfirst]

theorem value_dropExtensions_of_open (hfirst : firstCall? source = some cut)
    (hclose : closingGroup? '(' ')' cut.list = none) : (dropExtensions source).value = source := by
  rw [dropExtensions_of_open hfirst hclose]

theorem value_dropExtensions_of_closed (hfirst : firstCall? source = some cut)
    (hclose : closingGroup? '(' ')' cut.list = some (group, rest)) :
    (dropExtensions source).value = cut.before ++ ' ' :: (dropExtensions rest).value := by
  rw [dropExtensions_of_closed hfirst hclose, Logged.value_map]

end

/-- An open list goes to the end of the text, and it is not closed. -/
theorem of_openList? {source list : List Char} (h : openList? source = some list) :
    list <:+ source ∧ closingGroup? '(' ')' list = none := by
  induction source using openList?.induct with
  | case1 source hfirst =>
      rw [openList?_of_none hfirst] at h
      cases h
  | case2 source cut hfirst hclose =>
      rw [openList?_of_open hfirst hclose] at h
      obtain rfl := Option.some.inj h
      exact ⟨⟨_, firstCallFrom_append hfirst⟩, hclose⟩
  | case3 source cut hfirst group rest hclose ih =>
      rw [openList?_of_closed hfirst hclose] at h
      obtain ⟨hsuffix, hopen⟩ := ih h
      refine ⟨hsuffix.trans ⟨cut.before ++ cut.head ++ group, ?_⟩, hopen⟩
      rw [List.append_assoc, closeFrom_append hclose]
      exact firstCallFrom_append hfirst

theorem mem_value_dropExtensions {source : List Char} {c : Char}
    (h : c ∈ (dropExtensions source).value) : c ∈ source ∨ c = ' ' := by
  induction source using openList?.induct with
  | case1 source hfirst =>
      rw [value_dropExtensions_of_none hfirst] at h
      exact .inl h
  | case2 source cut hfirst hclose =>
      rw [value_dropExtensions_of_open hfirst hclose] at h
      exact .inl h
  | case3 source cut hfirst group rest hclose ih =>
      have hsource : cut.before ++ cut.head ++ (group ++ rest) = source := by
        rw [closeFrom_append hclose]
        exact firstCallFrom_append hfirst
      rw [value_dropExtensions_of_closed hfirst hclose, List.mem_append, List.mem_cons] at h
      rw [← hsource]
      rcases h with hmem | rfl | hmem
      · simp [hmem]
      · exact .inr rfl
      · rcases ih hmem with hmem | rfl
        · simp [hmem]
        · exact .inr rfl

section
variable {c : Char} (hword : isWordChar c = false) (hblank : isBlank c = false) (hparen : c ≠ '(')
include hword hblank hparen

theorem firstCall?_append_cons {source : List Char} {cut : CallCut}
    (hfirst : firstCall? source = some cut) (more : List Char) :
    firstCall? (source ++ c :: more) = some { cut with list := cut.list ++ c :: more } := by
  rw [firstCall?, firstCallFrom_append_cons hword hblank hparen, ← firstCall?, hfirst]

/-- A text that ends outside lists is read on its own in front of a mark. -/
theorem value_dropExtensions_append_cons {source : List Char} (h : openList? source = none)
    (more : List Char) :
    (dropExtensions (source ++ c :: more)).value
      = (dropExtensions source).value ++ c :: (dropExtensions more).value := by
  induction source using openList?.induct with
  | case1 source hfirst =>
      have hwhole : firstCall? (source ++ [c] ++ more)
          = (firstCall? more).map (CallCut.prepend (source ++ [c])) := by
        rw [List.append_assoc, List.singleton_append, firstCall?,
          firstCallFrom_append_cons hword hblank hparen, ← firstCall?, hfirst]
      have hvalue := value_dropExtensions_append hwhole
      rw [List.append_assoc, List.singleton_append] at hvalue
      rw [hvalue, value_dropExtensions_of_none hfirst, List.append_assoc, List.singleton_append]
  | case2 source cut hfirst hclose =>
      rw [openList?_of_open hfirst hclose] at h
      cases h
  | case3 source cut hfirst group rest hclose ih =>
      rw [openList?_of_closed hfirst hclose] at h
      have hwhole := firstCall?_append_cons hword hblank hparen hfirst more
      have hclosed := closeFrom_append_of_some hclose (c :: more)
      rw [value_dropExtensions_of_closed hwhole hclosed,
        value_dropExtensions_of_closed hfirst hclose, ih h, List.append_assoc, List.cons_append]

/-- Behind a text that ends in the list of a call, the call goes if its list is closed there, and
otherwise all stays. -/
theorem exists_value_dropExtensions_append_cons {source list : List Char}
    (h : openList? source = some list) : ∃ before, ∀ more,
      (closingGroup? '(' ')' (list ++ c :: more) = none →
        (dropExtensions (source ++ c :: more)).value
          = (dropExtensions source).value ++ c :: more) ∧
      ∀ group rest, closingGroup? '(' ')' (list ++ c :: more) = some (group, rest) →
        (dropExtensions (source ++ c :: more)).value
          = before ++ ' ' :: (dropExtensions rest).value := by
  induction source using openList?.induct with
  | case1 source hfirst =>
      rw [openList?_of_none hfirst] at h
      cases h
  | case2 source cut hfirst hopen =>
      rw [openList?_of_open hfirst hopen] at h
      obtain rfl := Option.some.inj h
      refine ⟨cut.before, fun more => ?_⟩
      have hwhole := firstCall?_append_cons hword hblank hparen hfirst more
      constructor
      · intro hclose
        rw [value_dropExtensions_of_open hwhole hclose, value_dropExtensions_of_open hfirst hopen]
      · intro group rest hclose
        rw [value_dropExtensions_of_closed hwhole hclose]
  | case3 source cut hfirst group rest hclosed ih =>
      rw [openList?_of_closed hfirst hclosed] at h
      obtain ⟨before, hbefore⟩ := ih h
      have hvalue (more : List Char) : (dropExtensions (source ++ c :: more)).value
          = cut.before ++ ' ' :: (dropExtensions (rest ++ c :: more)).value := by
        have hwhole := firstCall?_append_cons hword hblank hparen hfirst more
        have hclose := closeFrom_append_of_some hclosed (c :: more)
        rw [value_dropExtensions_of_closed hwhole hclose]
      refine ⟨cut.before ++ ' ' :: before, fun more => ⟨?_, ?_⟩⟩
      · intro hclose
        rw [hvalue, (hbefore more).1 hclose, value_dropExtensions_of_closed hfirst hclosed,
          List.append_assoc, List.cons_append]
      · intro inner last hclose
        rw [hvalue, (hbefore more).2 inner last hclose, List.append_assoc, List.cons_append]

end

end HeaderBindings.Source
