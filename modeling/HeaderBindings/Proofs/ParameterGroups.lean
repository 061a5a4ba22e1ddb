import HeaderBindings.Proofs.Declarators

/-!
The tokens of a parameter list cut into those of its parameters. The count of open parentheses and
brackets starts anew with every group and has the same value as the one that goes on over the whole
list, because a group ends only where nothing is open. So the groups on both sides of such a comma
are those of the tokens on that side alone.
-/

namespace HeaderBindings.Source

/-- Nothing is open behind the tokens. A closing parenthesis or bracket without an opening one
changes nothing. -/
def IsLevel (tokens : List Token) : Prop := tokens.foldl Token.depthAfter 0 = 0

instance : DecidablePred IsLevel := fun _ => inferInstanceAs (Decidable (_ = _))

section
variable {depth : Nat} {tokens : List Token}

/-- No group is cut any further. The first one goes on from what is open in front of it, and the
others start with nothing open. -/
theorem outerCommas_groups {group : List Token} {others : List (List Token)}
    (h : parameterGroupsFrom depth tokens = group :: others) :
    outerCommas depth group = 0 ∧ ∀ other ∈ others, outerCommas 0 other = 0 := by
  induction tokens generalizing depth group others with
  | nil =>
      obtain ⟨rfl, rfl⟩ := List.cons.inj h
      exact ⟨rfl, fun other hmem => absurd hmem List.not_mem_nil⟩
  | cons token rest ih =>
      obtain ⟨next, more, hnext⟩ :=
        List.exists_cons_of_ne_nil (parameterGroupsFrom_ne_nil (token.depthAfter depth) rest)
      obtain ⟨hfirst, hmore⟩ := ih hnext
      by_cases hcomma : token = .comma ∧ depth = 0
      · obtain ⟨rfl, rfl⟩ := hcomma
        rw [parameterGroupsFrom, if_pos rfl] at h
        obtain ⟨rfl, rfl⟩ := List.cons.inj (h.symm.trans (congrArg ([] :: ·) hnext))
        exact ⟨rfl, List.forall_mem_cons.mpr ⟨hfirst, hmore⟩⟩
      · rw [parameterGroupsFrom_cons hcomma, hnext, consGroup] at h
        obtain ⟨rfl, rfl⟩ := List.cons.inj h
        rw [outerCommas_cons, if_neg hcomma]
        exact ⟨hfirst, hmore⟩

theorem outerCommas_of_mem_parameterGroups {group : List Token}
    (h : group ∈ parameterGroups tokens) : outerCommas 0 group = 0 := by
  obtain ⟨first, others, hgroups⟩ :=
    List.exists_cons_of_ne_nil (parameterGroupsFrom_ne_nil 0 tokens)
  obtain ⟨hfirst, hothers⟩ := outerCommas_groups hgroups
  rw [parameterGroups, hgroups] at h
  rcases List.mem_cons.mp h with rfl | hmem
  · exact hfirst
  · exact hothers group hmem

/-- A comma in front of which nothing is open separates the groups in front of it from those behind
it. -/
theorem parameterGroupsFrom_append_comma (h : tokens.foldl Token.depthAfter depth = 0)
    (rest : List Token) :
    parameterGroupsFrom depth (tokens ++ .comma :: rest)
      = parameterGroupsFrom depth tokens ++ parameterGroups rest := by
  induction tokens generalizing depth with
  | nil =>
      obtain rfl : depth = 0 := h
      rfl
  | cons token tokens ih =>
      have hrest := ih h
      by_cases hcomma : token = .comma ∧ depth = 0
      · obtain ⟨rfl, rfl⟩ := hcomma
        rw [List.cons_append, parameterGroupsFrom, if_pos rfl, parameterGroupsFrom, if_pos rfl]
        exact congrArg ([] :: ·) hrest
      · obtain ⟨group, others, hgroup⟩ :=
          List.exists_cons_of_ne_nil (parameterGroupsFrom_ne_nil (token.depthAfter depth) tokens)
        rw [List.cons_append, parameterGroupsFrom_cons hcomma, parameterGroupsFrom_cons hcomma,
          hrest, hgroup]
        rfl

theorem IsLevel.parameterGroups_append_comma (h : IsLevel tokens) (rest : List Token) :
    parameterGroups (tokens ++ .comma :: rest) = parameterGroups tokens ++ parameterGroups rest :=
  parameterGroupsFrom_append_comma h rest

/-- The parameters on both sides of such a comma are read from the tokens on that side. -/
theorem IsLevel.parameters_append_comma (h : IsLevel tokens) (rest : List Token) :
    parameters (tokens ++ .comma :: rest)
      = (parameterGroups tokens).map parameter ++ (parameterGroups rest).map parameter := by
  have hlist : ¬(tokens ++ .comma :: rest = [] ∨ tokens ++ .comma :: rest = [.word "void"]) := by
    rintro (hempty | hvoid)
    · simp at hempty
    · have hmem : Token.comma ∈ [Token.word "void"] := hvoid ▸ by simp
      simp at hmem
  rw [parameters, if_neg hlist, h.parameterGroups_append_comma, List.map_append]

end

/-- The groups partition the tokens: joined with single commas they give the tokens back, no group
holds a comma outside its parentheses and brackets, and there is one group more than such commas in
the whole list. Behind tokens that leave nothing open, a comma separates their groups from those of
the rest, so that neither side has an influence on the parameters of the other. -/
theorem parameterGroups_partition :
    (∀ tokens : List Token,
      [Token.comma].intercalate (parameterGroups tokens) = tokens ∧
      (∀ group ∈ parameterGroups tokens, outerCommas 0 group = 0) ∧
      (parameterGroups tokens).length = outerCommas 0 tokens + 1) ∧
    ∀ front rest : List Token, IsLevel front →
      parameterGroups (front ++ .comma :: rest) = parameterGroups front ++ parameterGroups rest ∧
      parameters (front ++ .comma :: rest)
        = (parameterGroups front).map parameter ++ (parameterGroups rest).map parameter := by
  refine ⟨fun tokens => ⟨?_, ?_, ?_⟩, fun front rest hfront => ⟨?_, ?_⟩⟩
  · exact intercalate_parameterGroupsFrom 0 tokens
  · exact fun group hmem => outerCommas_of_mem_parameterGroups hmem
  · exact length_parameterGroupsFrom 0 tokens
  · exact hfront.parameterGroups_append_comma rest
  · exact hfront.parameters_append_comma rest

/-- The front begins with an excess parenthesis and closes a parenthesis with a bracket; the rest
leaves a bracket open, in which a comma separates nothing. -/
theorem parameterGroups_partition_unbalanced :
    let front : List Token :=
      [.closeParen, .word "int", .openParen, .star, .comma, .closeBracket, .comma, .word "a"]
    let rest : List Token := [.word "b", .openBracket, .comma, .word "c"]
    IsLevel front ∧
      parameterGroups (front ++ .comma :: rest) = parameterGroups front ++ parameterGroups rest ∧
      parameterGroups (front ++ .comma :: rest)
        = [[.closeParen, .word "int", .openParen, .star, .comma, .closeBracket], [.word "a"],
          rest] := by
  intro front rest
  have hfront : IsLevel front := by decide
  obtain ⟨hgroups, -⟩ := parameterGroups_partition.2 front rest hfront
  refine ⟨hfront, hgroups, ?_⟩
  rw [hgroups]
  rfl

end HeaderBindings.Source
