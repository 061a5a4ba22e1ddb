import HeaderBindings.Offsets.Declarations
import HeaderBindings.Proofs.Declarations
import Mathlib.Data.List.TakeWhile

/-!
Reading a declaration from its tokens by positions. A token has a position in front of the parenthesis
that opens the parameter list unless there is none, and the parentheses that are counted behind it
never fall below the one that is open.
-/

namespace HeaderBindings.Offsets
open Source

/-! ### Positions -/

section
variable {mark : Token} {tokens : List Token}

theorem exists_of_mem (h : mark ∈ tokens) :
    ∃ before rest, tokens = before ++ mark :: rest ∧ position? mark tokens = some before.length ∧
      tokens.takeWhile (· != mark) = before ∧ tokens.dropWhile (· != mark) = mark :: rest := by
  induction tokens with
  | nil => cases h
  | cons token tokens ih =>
      by_cases hmark : token = mark
      · subst hmark
        refine ⟨[], tokens, rfl, ?_, ?_, ?_⟩ <;> simp [position?, List.findIdx?_cons]
      · obtain ⟨before, rest, rfl, hposition, htake, hdrop⟩ :=
          ih ((List.mem_cons.mp h).resolve_left (Ne.symm hmark))
        rw [position?] at hposition
        refine ⟨token :: before, rest, rfl, ?_, ?_, ?_⟩
        · simp [position?, List.findIdx?_cons, hmark, hposition]
        · rw [List.takeWhile_cons_of_pos (by simpa using hmark), htake]
        · rw [List.dropWhile_cons_of_pos (by simpa using hmark), hdrop]

theorem position?_of_not_mem (h : mark ∉ tokens) : position? mark tokens = none := by
  rw [position?, List.findIdx?_eq_none_iff]
  intro token hmem
  exact beq_eq_false_iff_ne.mpr fun heq => h (heq ▸ hmem)

end

theorem tokenBefore?_eq (before rest : List Token) :
    tokenBefore? (before ++ rest) before.length = .ok before.getLast? := by
  rcases List.eq_nil_or_concat before with rfl | ⟨front, last, rfl⟩
  · rfl
  · have helement : element (front.concat last ++ rest) front.length = .ok last := by
      rw [element_eq_ok_iff]
      simp
    rw [List.length_concat, tokenBefore?, helement, List.concat_eq_append, List.getLast?_concat]
    rfl

theorem part_middle (before inner after : List Token) :
    part (before ++ (inner ++ after)) before.length (before ++ inner).length = .ok inner :=
  part_eq_ok_iff.mpr ⟨before, after, (List.append_assoc ..).symm, rfl, rfl⟩

/-! ### Parentheses -/

/-- The closing parenthesis is found at the position behind the tokens inside. -/
theorem closingFrom_eq (position depth : Nat) (tokens : List Token) :
    closingFrom position (depth + 1) tokens
      = .ok ((closeParenFrom (depth + 1) tokens).map fun cut => position + cut.1.length) := by
  induction tokens generalizing position depth with
  | nil => rfl
  | cons token rest ih =>
      have hfurther (depth : Nat) : closingFrom (position + 1) (depth + 1) rest
          = .ok (((closeParenFrom (depth + 1) rest).map fun cut => (token :: cut.1, cut.2)).map
              fun cut => position + cut.1.length) := by
        rw [ih, Option.map_map]
        simp only [Function.comp_def, List.length_cons, Nat.add_assoc, Nat.add_comm 1]
      cases token with
      | openParen => exact hfurther (depth + 1)
      | closeParen =>
          have hminus : minus (depth + 1) 1 = .ok depth := if_pos (Nat.le_add_left 1 depth)
          rw [closingFrom, hminus]
          cases depth with
          | zero => rfl
          | succ depth => exact hfurther depth
      | _ => exact hfurther depth

/-! ### Parameters -/

/-- The groups that are left when `current` is the part of the next one that has been passed over. -/
theorem groupsFrom_eq {tokens done current rest : List Token}
    (htokens : tokens = done ++ (current ++ rest)) (depth : Nat) (found : List (List Token)) :
    ∃ group groups, parameterGroupsFrom depth rest = group :: groups ∧
      groupsFrom tokens done.length (done ++ current).length depth found rest
        = .ok (found ++ (current ++ group) :: groups) := by
  induction rest generalizing done current depth found with
  | nil =>
      have hpart : part tokens done.length tokens.length = .ok current := by
        have hmiddle := part_middle done current []
        rw [htokens]
        simpa using hmiddle
      refine ⟨[], [], rfl, ?_⟩
      rw [groupsFrom, hpart]
      simp only [bind, Except.bind, List.append_nil]
      rfl
  | cons token rest ih =>
      have hfurther {next : Nat}
          (hgroups : parameterGroupsFrom depth (token :: rest)
            = consGroup token (parameterGroupsFrom next rest))
          (hnext : groupsFrom tokens done.length (done ++ current).length depth found (token :: rest)
            = groupsFrom tokens done.length ((done ++ current).length + 1) next found rest) :
          ∃ group groups, parameterGroupsFrom depth (token :: rest) = group :: groups ∧
            groupsFrom tokens done.length (done ++ current).length depth found (token :: rest)
              = .ok (found ++ (current ++ group) :: groups) := by
        obtain ⟨group, groups, hgroup, hfound⟩ :=
          @ih done (current ++ [token]) (by simp [htokens]) next found
        have hposition : (done ++ (current ++ [token])).length = (done ++ current).length + 1 := by
          simp [Nat.add_assoc]
        refine ⟨token :: group, groups, ?_, ?_⟩
        · rw [hgroups, hgroup, consGroup]
        · rw [hnext, ← hposition, hfound, List.append_assoc, List.singleton_append]
      cases token with
      | comma =>
          by_cases hdepth : depth = 0
          · subst hdepth
            have hpart : part tokens done.length (done ++ current).length = .ok current := by
              rw [htokens, part_middle]
            obtain ⟨group, groups, hgroup, hfound⟩ :=
              @ih (done ++ current ++ [.comma]) [] (by simp [htokens]) 0 (found ++ [current])
            rw [List.append_nil, List.length_append, List.length_singleton] at hfound
            refine ⟨[], group :: groups, ?_, ?_⟩
            · rw [parameterGroupsFrom, if_pos rfl, hgroup]
            · rw [groupsFrom, if_pos rfl, hpart]
              simp only [bind, Except.bind, hfound, List.append_assoc, List.append_nil,
                List.nil_append, List.singleton_append]
          · exact hfurther (if_neg hdepth) (if_neg hdepth)
      | openParen | openBracket | closeParen | closeBracket => exact hfurther rfl rfl
      | _ => exact hfurther rfl rfl

theorem pointerName_threeBehind (before rest : List Token) :
    pointerName (threeBehind (before ++ .openParen :: rest) before.length) = pointerName rest := by
  have hlong (first second third : Token) (more : List Token) :
      part (before ++ .openParen :: first :: second :: third :: more) (before.length + 1)
          (before.length + 4) = .ok [first, second, third] :=
    part_eq_ok_iff.mpr ⟨before ++ [.openParen], more, by simp, by simp, by simp⟩
  have hshort (h : rest.length < 3) : part (before ++ .openParen :: rest) (before.length + 1)
      (before.length + 4) = .error .slice := by
    refine if_neg fun hbounds => ?_
    have hstop := hbounds.2
    rw [List.length_append, List.length_cons] at hstop
    omega
  rcases rest with _ | ⟨first, _ | ⟨second, _ | ⟨third, more⟩⟩⟩
  · rw [threeBehind, hshort (by simp)]
  · rw [threeBehind, hshort (by simp)]
    simp [pointerName]
  · rw [threeBehind, hshort (by simp)]
    simp [pointerName]
  · rw [threeBehind, hlong]
    cases first with
    | star =>
        cases second with
        | word name =>
            cases third with
            | closeParen => rfl
            | _ => rfl
        | _ => rfl
    | _ => rfl

theorem parameter_eq (tokens : List Token) : parameter tokens = .ok (Source.parameter tokens) := by
  rw [parameter, Source.parameter]
  split
  · rfl
  · by_cases hopen : .openParen ∈ tokens
    · obtain ⟨before, rest, rfl, hposition, -, hdrop⟩ := exists_of_mem hopen
      rw [hposition, if_pos (List.contains_iff_mem.mpr hopen), hdrop]
      simp only [pointerName_threeBehind]
      rfl
    · rw [position?_of_not_mem hopen, if_neg (mt List.contains_iff_mem.mp hopen)]
      by_cases hbracket : .openBracket ∈ tokens
      · obtain ⟨before, rest, rfl, hposition, htake, -⟩ := exists_of_mem hbracket
        rw [hposition, if_pos (List.contains_iff_mem.mpr hbracket), htake]
        simp only [tokenBefore?_eq, bind, Except.bind]
        rfl
      · rw [position?_of_not_mem hbracket, if_neg (mt List.contains_iff_mem.mp hbracket)]
        rfl

theorem parameters_eq (tokens : List Token) :
    parameters tokens = .ok (Source.parameters tokens) := by
  have hparameter : parameter = fun group => pure (Source.parameter group) := funext parameter_eq
  rw [parameters, Source.parameters]
  split
  · rfl
  · obtain ⟨group, groups, hgroup, hfound⟩ := @groupsFrom_eq tokens [] [] tokens rfl 0 []
    have hgroups : groupsFrom tokens 0 0 0 [] tokens = .ok (parameterGroups tokens) := by
      rw [parameterGroups, hgroup]
      exact hfound
    rw [hgroups, hparameter]
    exact List.mapM_pure

/-! ### Declarations -/

theorem closingFrom_list (before list : List Token) :
    closingFrom before.length 0 ((before ++ .openParen :: list).drop before.length)
      = .ok ((closeParenFrom 1 list).map fun cut => before.length + 1 + cut.1.length) := by
  rw [List.drop_left]
  exact closingFrom_eq (before.length + 1) 0 list

/-- What stands in front of the name. -/
theorem part_before {before : List Token} {last : Token} (hlast : before.getLast? = some last)
    (list : List Token) :
    ∃ front, minus before.length 1 = .ok front ∧
      part (before ++ .openParen :: list) 0 front = .ok before.dropLast := by
  obtain ⟨front, rfl⟩ := List.getLast?_eq_some_iff.mp hlast
  refine ⟨front.length, ?_, ?_⟩
  · rw [List.length_append, List.length_singleton, minus, if_pos (Nat.le_add_left 1 _),
      Nat.add_sub_cancel]
  · rw [List.dropLast_concat, List.append_assoc]
    exact part_middle [] front _

/-- What stands between the parentheses of the list. -/
theorem part_inside (before inner after : List Token) :
    part (before ++ .openParen :: (inner ++ .closeParen :: after)) (before.length + 1)
      (before.length + 1 + inner.length) = .ok inner :=
  part_eq_ok_iff.mpr ⟨before ++ [.openParen], .closeParen :: after, by simp, by simp,
    by simp [Nat.add_assoc, Nat.add_comm 1]⟩

theorem length_of_list (before inner after : List Token) :
    (before ++ .openParen :: (inner ++ .closeParen :: after)).length
      = before.length + 1 + inner.length + 1 + after.length := by
  simp only [List.length_append, List.length_cons]
  omega

theorem declarationOfTokens_of_not_mem {tokens : List Token} (hopen : .openParen ∉ tokens) :
    declarationOfTokens tokens = .ok (Source.declarationOfTokens tokens) := by
  have hdrop : tokens.dropWhile (· != .openParen) = [] := by
    rw [List.dropWhile_eq_nil_iff]
    intro token hmem
    exact bne_iff_ne.mpr fun heq => hopen (heq ▸ hmem)
  rw [declarationOfTokens, Source.declarationOfTokens, position?_of_not_mem hopen, hdrop]
  rfl

theorem declarationOfTokens_eq (tokens : List Token) :
    declarationOfTokens tokens = .ok (Source.declarationOfTokens tokens) := by
  by_cases hopen : .openParen ∈ tokens
  case neg => exact declarationOfTokens_of_not_mem hopen
  obtain ⟨before, list, rfl, hposition, htake, hdrop⟩ := exists_of_mem hopen
  rw [declarationOfTokens, Source.declarationOfTokens, hposition, htake, hdrop]
  simp only [tokenBefore?_eq, closingFrom_list, bind, Except.bind, declaredName?]
  cases hlast : before.getLast? with
  | none => rfl
  | some last =>
      cases last with
      | word name =>
          simp only
          split
          · rfl
          rcases hclose : closeParenFrom 1 list with _ | ⟨inner, after⟩
          · rfl
          obtain rfl := eq_append_of_closeParenFrom hclose
          obtain ⟨front, hminus, hfront⟩ := part_before hlast (inner ++ .closeParen :: after)
          simp only [Option.map_some, length_of_list]
          cases after with
          | nil =>
              rw [if_neg (by simp)]
              simp only [hminus, hfront]
              cases type? before.dropLast with
              | none => rfl
              | some returnType =>
                  simp only [part_inside, parameters_eq]
                  rfl
          | cons token after =>
              rw [if_pos (by simp)]
              rfl
      | _ => rfl

end HeaderBindings.Offsets
