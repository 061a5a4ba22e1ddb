/-!
Where a position of C source stands with respect to string and character literals, and the balance
of delimiters outside them. The state before a character and the character give the state after it,
so every scan over source carries one state along. A literal that is not closed goes on to the end.
-/

namespace HeaderBindings.Source

/-- Where a position stands. -/
inductive Quoting where
  /-- Outside literals. -/
  | code
  /-- Inside a literal that started with the quote. -/
  | inside (quote : Char)
  /-- Inside a literal, after a backslash that takes the next character with it. -/
  | escaping (quote : Char)
  deriving DecidableEq

/-- A quote that starts a literal. -/
def isQuote (c : Char) : Bool := c == '"' || c == '\''

namespace Quoting

/-- The state after a character. -/
def step : Quoting → Char → Quoting
  | code, c => if isQuote c then inside c else code
  | inside quote, c => if c = '\\' then escaping quote else if c = quote then code else inside quote
  | escaping quote, _ => inside quote

def after (state : Quoting) (text : List Char) : Quoting := text.foldl step state

/-- Whether a character in this state is code, which neither belongs to a literal nor starts one. -/
def isCode (state : Quoting) (c : Char) : Bool := state == code && !isQuote c

@[simp] theorem after_nil (state : Quoting) : state.after [] = state := rfl

@[simp] theorem after_cons (state : Quoting) (c : Char) (text : List Char) :
    state.after (c :: text) = (state.step c).after text := rfl

theorem after_append (state : Quoting) (first second : List Char) :
    state.after (first ++ second) = (state.after first).after second := by
  simp [after]

theorem isCode_code {c : Char} (h : isQuote c = false) : code.isCode c = true := by
  simp [isCode, h]

theorem eq_code_of_isCode {state : Quoting} {c : Char} (h : state.isCode c = true) :
    state = code := by
  rw [isCode, Bool.and_eq_true, beq_iff_eq] at h
  exact h.1

theorem step_of_isCode {state : Quoting} {c : Char} (h : state.isCode c = true) :
    state.step c = code := by
  rw [isCode, Bool.and_eq_true, beq_iff_eq, Bool.not_eq_true'] at h
  obtain ⟨rfl, hquote⟩ := h
  exact if_neg (by simp [hquote])

end Quoting

/-- Cuts a text behind the delimiter that closes the `depth` delimiters already open, when the text
starts in the given state. A right delimiter at depth 0 ends the cut too. -/
def closeFrom (left right : Char) (state : Quoting) (depth : Nat) :
    List Char → Option (List Char × List Char)
  | [] => none
  | c :: rest =>
      let further (depth : Nat) :=
        (closeFrom left right (state.step c) depth rest).map fun (group, after) =>
          (c :: group, after)
      if state.isCode c then
        if c = left then further (depth + 1)
        else if c = right then
          if depth ≤ 1 then some ([c], rest) else further (depth - 1)
        else further depth
      else further depth

/-- Cuts a text that starts with a left delimiter behind the right one that closes it. -/
def closingGroup? (left right : Char) (text : List Char) : Option (List Char × List Char) :=
  closeFrom left right .code 0 text

/-- A cut loses nothing. -/
theorem closeFrom_append {left right : Char} {state : Quoting} {depth : Nat}
    {text group rest : List Char} (cut : closeFrom left right state depth text = some (group, rest)) :
    group ++ rest = text := by
  induction text generalizing state depth group rest with
  | nil => simp [closeFrom] at cut
  | cons c text ih =>
      have further {state : Quoting} {depth : Nat} {group rest : List Char}
          (cut : (closeFrom left right state depth text).map
            (fun pair => (c :: pair.1, pair.2)) = some (group, rest)) :
          group ++ rest = c :: text := by
        obtain ⟨⟨inner, after⟩, found, same⟩ := Option.map_eq_some_iff.mp cut
        obtain ⟨rfl, rfl⟩ := Prod.mk.inj same
        simp [ih found]
      simp only [closeFrom] at cut
      split at cut
      · split at cut
        · exact further cut
        · split at cut
          · split at cut
            · obtain ⟨rfl, rfl⟩ := Prod.mk.inj (Option.some.inj cut)
              rfl
            · exact further cut
          · exact further cut
      · exact further cut

/-- A cut takes at least the closing delimiter off. -/
theorem length_lt_of_closeFrom {left right : Char} {state : Quoting} {depth : Nat}
    {text group rest : List Char} (cut : closeFrom left right state depth text = some (group, rest)) :
    rest.length < text.length := by
  have group_ne : group ≠ [] := by
    cases text with
    | nil => simp [closeFrom] at cut
    | cons c text =>
        simp only [closeFrom] at cut
        rintro rfl
        split at cut
        · split at cut
          · simp at cut
          · split at cut
            · split at cut <;> simp at cut
            · simp at cut
        · simp at cut
  have joined := congrArg List.length (closeFrom_append cut)
  have group_pos := List.length_pos_iff.mpr group_ne
  simp only [List.length_append] at joined
  omega

end HeaderBindings.Source
