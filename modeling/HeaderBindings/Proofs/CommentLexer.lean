import HeaderBindings.Proofs.Offsets.Comments

/-!
Comments as a machine finds them that sees one character at a time. In code it holds a slash back
until the next character tells whether a comment starts. It writes code and literals as they are, a
space for each comment, and the line feed behind a line comment. Going through the offsets of a text
and jumping from mark to mark comes to the same, and in what is written there are no comments left.
-/

namespace HeaderBindings.Source

/-- What counts of the characters in front of a position. -/
inductive LexerMode where
  | code
  /-- In code, behind a slash that has not been written yet. -/
  | slash
  | literal (quote : Char)
  /-- In a literal, behind a backslash. -/
  | escape (quote : Char)
  | blockComment
  /-- In a block comment, behind a star. -/
  | star
  | lineComment
  deriving DecidableEq

namespace LexerMode

/-- The mode behind a character, and what is written when it is seen. -/
def step : LexerMode → Char → LexerMode × List Char
  | code, c =>
      if c = '/' then (slash, [])
      else if isQuote c then (literal c, [c])
      else (code, [c])
  | slash, c =>
      if c = '*' then (blockComment, [' '])
      else if c = '/' then (lineComment, [' '])
      else if isQuote c then (literal c, ['/', c])
      else (code, ['/', c])
  | literal quote, c =>
      if c = '\\' then (escape quote, [c])
      else if c = quote then (code, [c])
      else (literal quote, [c])
  | escape quote, c => (literal quote, [c])
  | blockComment, c => if c = '*' then (star, []) else (blockComment, [])
  | star, c =>
      if c = '/' then (code, [])
      else if c = '*' then (star, [])
      else (blockComment, [])
  | lineComment, c => if c = '\n' then (code, [c]) else (lineComment, [])

/-- What is written at the end of the text. -/
def finish : LexerMode → List Char
  | slash => ['/']
  | _ => []

/-- What is written for a text. -/
def run (mode : LexerMode) : List Char → List Char
  | [] => mode.finish
  | c :: rest => (mode.step c).2 ++ run (mode.step c).1 rest

/-! ### The machine and the regions of a text -/

def region : LexerMode → Region
  | code | slash => .text .code
  | literal quote => .text (.inside quote)
  | escape quote => .text (.escaping quote)
  | blockComment | star => .blockComment
  | lineComment => .lineComment

/-- The character that may start or end a comment together with the next one. -/
def held : LexerMode → List Char
  | slash => ['/']
  | star => ['*']
  | _ => []

/-- One step of the machine, with the rest of the text behind it. -/
theorem dropCommentsFrom_step (mode : LexerMode) (c : Char) (rest : List Char) :
    dropCommentsFrom mode.region (mode.held ++ c :: rest)
      = (mode.step c).2 ++ dropCommentsFrom (mode.step c).1.region ((mode.step c).1.held ++ rest) := by
  have hcode (hslash : c ≠ '/') : dropCommentsFrom (.text .code) (c :: rest)
      = c :: dropCommentsFrom (.text (Quoting.code.step c)) rest :=
    dropCommentsFrom_text_cons fun _ heq => absurd heq hslash
  have hblock (hstar : c ≠ '*') : dropCommentsFrom .blockComment (c :: rest)
      = dropCommentsFrom .blockComment rest :=
    dropCommentsFrom_blockComment_cons fun hend => hstar hend.1
  have hliteral (state : Quoting) (hstate : state ≠ .code) : dropCommentsFrom (.text state) (c :: rest)
      = c :: dropCommentsFrom (.text (state.step c)) rest :=
    dropCommentsFrom_text_cons fun heq => absurd heq hstate
  cases mode with
  | code =>
      change dropCommentsFrom (.text .code) (c :: rest) = _
      rw [step]
      split
      case isTrue hslash => rw [hslash]; rfl
      case isFalse hslash =>
        rw [hcode hslash, Quoting.step]
        split <;> rfl
  | slash =>
      change dropCommentsFrom (.text .code) ('/' :: c :: rest) = _
      rw [step]
      split
      case isTrue hstar => rw [hstar, dropCommentsFrom]; rfl
      case isFalse hstar =>
        split
        case isTrue hslash => rw [hslash, dropCommentsFrom]; rfl
        case isFalse hslash =>
          have hkept : dropCommentsFrom (.text .code) ('/' :: c :: rest)
              = '/' :: dropCommentsFrom (.text .code) (c :: rest) :=
            dropCommentsFrom_text_cons fun _ _ => by simp [hstar, hslash]
          rw [hkept, hcode hslash, Quoting.step]
          split <;> rfl
  | literal quote =>
      change dropCommentsFrom (.text (.inside quote)) (c :: rest) = _
      rw [hliteral (.inside quote) (by simp), Quoting.step, step]
      split
      · rfl
      · split <;> rfl
  | escape quote => exact hliteral (.escaping quote) (by simp)
  | blockComment =>
      change dropCommentsFrom .blockComment (c :: rest) = _
      rw [step]
      split
      case isTrue hstar => rw [hstar]; rfl
      case isFalse hstar => rw [hblock hstar]; rfl
  | star =>
      change dropCommentsFrom .blockComment ('*' :: c :: rest) = _
      rw [step]
      split
      case isTrue hslash => rw [hslash, dropCommentsFrom]; rfl
      case isFalse hslash =>
        rw [dropCommentsFrom_blockComment_cons fun hend => hslash (by simpa using hend.2)]
        split
        case isTrue hstar => rw [hstar]; rfl
        case isFalse hstar => rw [hblock hstar]; rfl
  | lineComment =>
      change dropCommentsFrom .lineComment (c :: rest) = _
      rw [step]
      split
      case isTrue hfeed => rw [hfeed, dropCommentsFrom]; rfl
      case isFalse hfeed => rw [dropCommentsFrom_lineComment_cons hfeed]; rfl

/-- The machine writes the text without its comments. -/
theorem run_eq (mode : LexerMode) (text : List Char) :
    mode.run text = dropCommentsFrom mode.region (mode.held ++ text) := by
  induction text generalizing mode with
  | nil => cases mode <;> rfl
  | cons c rest ih => rw [run, ih, dropCommentsFrom_step]

end LexerMode

/-! ### Texts without comments -/

/-- Outside comments a text goes on with what it is, unless a comment follows. -/
theorem head?_dropCommentsFrom {text : List Char} (h : text.head? ≠ some '/') :
    (dropCommentsFrom (.text .code) text).head? = text.head? := by
  cases text with
  | nil => rfl
  | cons c rest =>
      rw [dropCommentsFrom_text_cons fun _ heq => absurd (congrArg some heq) h]
      rfl

/-- Where the text stands that is written for a region. -/
def Region.quoting : Region → Quoting
  | .text state => state
  | _ => .code

/-- A text that was written without its comments has none. -/
theorem dropCommentsFrom_dropCommentsFrom (region : Region) (text : List Char) :
    dropCommentsFrom (.text region.quoting) (dropCommentsFrom region text)
      = dropCommentsFrom region text := by
  fun_induction dropCommentsFrom region text with
  | case1 rest ih | case2 rest ih =>
      rw [Region.quoting, dropCommentsFrom_text_cons (by simp)]
      exact congrArg (List.cons ' ') ih
  | case3 state c rest hblock hline ih =>
      -- A slash that was kept does not meet the start of a comment, which became a space.
      have hhead (hstate : state = .code) (hc : c = '/') :
          (dropCommentsFrom (.text (state.step c)) rest).head? ≠ some '*' ∧
            (dropCommentsFrom (.text (state.step c)) rest).head? ≠ some '/' := by
        subst hstate hc
        have hstar : rest.head? ≠ some '*' := by
          intro hhead
          obtain ⟨more, rfl⟩ := List.head?_eq_some_iff.mp hhead
          exact hblock more rfl rfl rfl
        have hslash : rest.head? ≠ some '/' := by
          intro hhead
          obtain ⟨more, rfl⟩ := List.head?_eq_some_iff.mp hhead
          exact hline more rfl rfl rfl
        have hsame : (dropCommentsFrom (.text (Quoting.code.step '/')) rest).head? = rest.head? :=
          head?_dropCommentsFrom hslash
        rw [hsame]
        exact ⟨hstar, hslash⟩
      rw [Region.quoting, dropCommentsFrom_text_cons hhead]
      exact congrArg (List.cons c) ih
  | case4 rest ih => exact ih
  | case5 c rest _ ih => exact ih
  | case6 rest ih =>
      change dropCommentsFrom (.text .code) ('\n' :: _) = _
      rw [dropCommentsFrom_text_cons (by simp)]
      exact congrArg (List.cons '\n') ih
  | case7 c rest _ ih => exact ih
  | case8 region => simp [dropCommentsFrom]

/-- Comments are dropped as the machine does it, by going through the characters and also by offsets,
and dropping them once more changes nothing. -/
theorem dropComments_eq_run (text : List Char) :
    dropComments text = LexerMode.run .code text ∧
    Offsets.dropComments text = .ok (LexerMode.run .code text) ∧
    dropComments (dropComments text) = dropComments text := by
  have hrun : dropComments text = LexerMode.run .code text := (LexerMode.run_eq .code text).symm
  refine ⟨hrun, ?_, dropCommentsFrom_dropCommentsFrom (.text .code) text⟩
  rw [Offsets.dropComments_eq, hrun]

-- A slash in front of a comment is code, and a comment without an end leaves a space.
example : LexerMode.run .code "a//*\n'/*'\\\"/**/\" / /*/ '".toList
    = "a \n'/*'\\\"/**/\" /  ".toList := by decide

end HeaderBindings.Source
