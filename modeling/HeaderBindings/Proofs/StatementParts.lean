import HeaderBindings.Proofs.BraceGroups
import HeaderBindings.Proofs.StatementCuts

/-!
Where the characters of a source go. What ends a statement is a semicolon or the body of a function,
and both are seen where nothing is open: an end takes the scan back to its start, and inside it
there is no other. So the ends stand apart from each other, the statements are the texts between
them, blanks aside, and no character is lost or given out twice, whatever the source leaves open.
-/

namespace HeaderBindings.Source
open Text

/-! ### Parts of a text -/

/-- A part of a text, with all that stands in front of it. -/
structure TextPart where
  front : List Char
  text : List Char

namespace TextPart

/-- The text in front of the part and the part start the source. -/
def StandsIn (part : TextPart) (source : List Char) : Prop := part.front ++ part.text <+: source

def Holds (part : TextPart) (position : Nat) : Prop :=
  part.front.length ≤ position ∧ position < (part.front ++ part.text).length

/-- One part ends where the other starts, or in front of it. -/
def IsBefore (first second : TextPart) : Prop :=
  (first.front ++ first.text).length ≤ second.front.length

/-- The part, with more text in front of it. -/
def behind (front : List Char) (part : TextPart) : TextPart :=
  { part with front := front ++ part.front }

variable {front source : List Char} {part first second : TextPart}

theorem StandsIn.front_starts (h : part.StandsIn source) : part.front <+: source :=
  (List.prefix_append part.front part.text).trans h

theorem standsIn_behind :
    (part.behind front).StandsIn (front ++ source) ↔ part.StandsIn source := by
  rw [StandsIn, behind, List.append_assoc, List.prefix_append_right_inj]
  rfl

theorem holds_behind {position : Nat} :
    (part.behind front).Holds position ↔
      front.length ≤ position ∧ part.Holds (position - front.length) := by
  simp only [Holds, behind, List.length_append]
  omega

theorem isBefore_behind :
    (first.behind front).IsBefore (second.behind front) ↔ first.IsBefore second := by
  simp only [IsBefore, behind, List.length_append]
  omega

/-- What stands behind a part of the same source stands in what follows that part. -/
theorem exists_behind_of_isBefore {rest : List Char}
    (hfirst : source = first.front ++ first.text ++ rest) (hsecond : second.StandsIn source)
    (h : first.IsBefore second) :
    ∃ inner : TextPart,
      second = inner.behind (first.front ++ first.text) ∧ inner.StandsIn rest := by
  have hleading : first.front ++ first.text <+: second.front :=
    List.prefix_of_prefix_length_le ⟨rest, hfirst.symm⟩ hsecond.front_starts h
  obtain ⟨front, hfront⟩ := hleading
  have hsame : second = behind (first.front ++ first.text) ⟨front, second.text⟩ := by
    rw [behind, hfront]
  refine ⟨_, hsame, ?_⟩
  rw [hsame, hfirst] at hsecond
  exact standsIn_behind.mp hsecond

end TextPart

/-! ### What ends a statement -/

/-- A semicolon where nothing is open. -/
structure IsSeparator (source : List Char) (part : TextPart) : Prop where
  standsIn : part.StandsIn source
  outside : IsOutside part.front
  text : part.text = [';']

/-- A closed brace group where nothing is open, with a list in front of it that ends there. -/
structure IsBody (source : List Char) (part : TextPart) : Prop where
  outside : IsOutside part.front
  list : (trim (pendingText part.front)).getLast? = some ')'
  group : ∃ rest behind, source = part.front ++ '\x7b' :: rest ∧
    closingGroup? '\x7b' '\x7d' ('\x7b' :: rest) = some (part.text, behind)

/-- A part in front of which nothing is open and which ends the statement there, but not earlier. -/
structure IsEnd (source : List Char) (part : TextPart) : Prop where
  standsIn : part.StandsIn source
  outside : IsOutside part.front
  after : StatementScan.after {} (part.front ++ part.text) = {}
  ended : StatementScan.ended {} (part.front ++ part.text)
    = StatementScan.ended {} part.front ++ [trim (pendingText part.front)]
  within : ∀ inner more, part.text = inner ++ more → inner ≠ [] → more ≠ [] →
    ¬IsOutside (part.front ++ inner)

section
variable {source : List Char} {part first second : TextPart}

theorem IsSeparator.isEnd (h : IsSeparator source part) : IsEnd source part := by
  obtain ⟨head, hscan⟩ := h.outside.exists_after
  have hstep : StatementScan.step { head, pending := (pendingText part.front).reverse } ';'
      = ({}, some (trim (pendingText part.front).reverse.reverse)) := rfl
  rw [List.reverse_reverse] at hstep
  refine ⟨h.standsIn, h.outside, ?_, ?_, ?_⟩
  · rw [StatementScan.after_append, hscan, h.text, StatementScan.after, hstep]
    rfl
  · rw [StatementScan.ended_append, hscan, h.text, StatementScan.ended, hstep]
    rfl
  · intro inner more htext hinner hmore
    rw [h.text] at htext
    have hlength := congrArg List.length htext
    have hpos := List.length_pos_iff.mpr hinner
    have hrest := List.length_pos_iff.mpr hmore
    simp only [List.length_append, List.length_singleton] at hlength
    omega

theorem IsBody.isEnd (h : IsBody source part) : IsEnd source part := by
  obtain ⟨front, text⟩ := part
  obtain ⟨houtside, hlist, rest, _, hsource, hgroup⟩ := h
  simp only at houtside hlist hsource hgroup
  rw [closingGroup?_cons rfl] at hgroup
  obtain ⟨⟨group, behind⟩, hclose, hsame⟩ := Option.map_eq_some_iff.mp hgroup
  obtain ⟨rfl, rfl⟩ := Prod.mk.inj hsame
  obtain ⟨head, hscan⟩ := houtside.exists_after
  have hopened := StatementScan.after_opened_of_closeFrom_eq_some (pendingText front).reverse hclose
  have hends : StatementScan.endsList (pendingText front).reverse = true := by
    rw [StatementScan.endsList_reverse, hlist]
    rfl
  rw [if_pos hends, List.reverse_reverse] at hopened
  obtain ⟨hafter, hended⟩ := Prod.mk.inj hopened
  refine ⟨?_, houtside, ?_, ?_, ?_⟩
  · rw [hsource, ← closeFrom_append hclose]
    exact ⟨behind, by simp⟩
  · rw [StatementScan.after_append, hscan, StatementScan.after, StatementScan.step_brace]
    exact hafter
  · rw [StatementScan.ended_append, hscan, StatementScan.ended, StatementScan.step_brace, hended]
    rfl
  · -- In front of its closing brace the group is open.
    intro inner more htext hinner hmore hinside
    obtain ⟨c, inner, rfl⟩ := List.exists_cons_of_ne_nil hinner
    obtain ⟨rfl, hsplit : group = inner ++ more⟩ := List.cons.inj htext
    have hlong : closeFrom '\x7b' '\x7d' .code 1 (inner ++ more ++ behind)
        = some (inner ++ more, behind) := by
      rw [← hsplit, closeFrom_append hclose, hclose]
    have hbraces := (StatementScan.ended_opened_of_closeFrom_eq_none (pendingText front).reverse
      (closeFrom_eq_none_of_append hmore hlong)).1
    have hnesting := StatementScan.nesting_after_empty (front ++ '\x7b' :: inner)
    rw [hinside, StatementScan.after_append, hscan, StatementScan.after,
      StatementScan.step_brace] at hnesting
    exact hbraces (congrArg Nesting.braces hnesting)

/-! ### Ends stand apart -/

theorem IsEnd.text_ne (h : IsEnd source part) : part.text ≠ [] := by
  intro htext
  have hended := h.ended
  rw [htext, List.append_nil] at hended
  have hlength := congrArg List.length hended
  simp at hlength

theorem IsEnd.outside_behind (h : IsEnd source part) : IsOutside (part.front ++ part.text) := by
  rw [IsOutside, ← StatementScan.nesting_after_empty, h.after]
  rfl

/-- Of two ends the one that starts first is over before the other starts. -/
theorem IsEnd.isBefore (hfirst : IsEnd source first) (hsecond : IsEnd source second)
    (h : first.front.length < second.front.length) : first.IsBefore second := by
  obtain ⟨rest, hrest⟩ := hfirst.standsIn
  obtain ⟨inner, hinner⟩ :=
    List.prefix_of_prefix_length_le hfirst.standsIn.front_starts hsecond.standsIn.front_starts h.le
  by_contra hnot
  rw [TextPart.IsBefore, not_le, ← hinner, List.length_append, List.length_append,
    Nat.add_lt_add_iff_left] at hnot
  have hstarts : inner <+: first.text ++ rest := by
    rw [← List.prefix_append_right_inj first.front, hinner, ← List.append_assoc, hrest]
    exact hsecond.standsIn.front_starts
  obtain ⟨more, hmore⟩ :=
    List.prefix_of_prefix_length_le hstarts (List.prefix_append _ _) hnot.le
  refine hfirst.within inner more hmore.symm ?_ ?_ (hinner ▸ hsecond.outside)
  · rintro rfl
    rw [← hinner, List.append_nil] at h
    exact lt_irrefl _ h
  · rintro rfl
    rw [← hmore, List.append_nil] at hnot
    exact lt_irrefl _ hnot

/-- Where an end starts no other one does. -/
theorem IsEnd.eq_of_text_prefix (hfirst : IsEnd source first) (hsecond : IsEnd source second)
    (hfront : first.front = second.front) (h : first.text <+: second.text) : first = second := by
  obtain ⟨front, text⟩ := first
  obtain ⟨_, _⟩ := second
  simp only at hfront h
  subst hfront
  obtain ⟨more, rfl⟩ := h
  have hmore : more = [] := by
    by_contra hmore
    exact hsecond.within text more rfl hfirst.text_ne hmore hfirst.outside_behind
  rw [hmore, List.append_nil]

theorem IsEnd.eq_of_front (hfirst : IsEnd source first) (hsecond : IsEnd source second)
    (h : first.front = second.front) : first = second := by
  obtain ⟨rest, hrest⟩ := hfirst.standsIn
  have hsplit : first.text <+: first.text ++ rest := List.prefix_append _ _
  have hother : second.text <+: first.text ++ rest := by
    rw [← List.prefix_append_right_inj first.front, ← List.append_assoc, hrest, h]
    exact hsecond.standsIn
  rcases List.prefix_or_prefix_of_prefix hsplit hother with hleading | hleading
  · exact hfirst.eq_of_text_prefix hsecond h hleading
  · exact (hsecond.eq_of_text_prefix hfirst h.symm hleading).symm

theorem IsEnd.ended_ne (h : IsEnd source part) : StatementScan.ended {} source ≠ [] := by
  obtain ⟨rest, hrest⟩ := h.standsIn
  rw [← hrest, StatementScan.ended_append, h.ended]
  simp

/-- All other ends stand behind the first one. -/
theorem IsEnd.eq_or_isBefore (hfirst : IsEnd source first)
    (hnone : StatementScan.ended {} first.front = []) (h : IsEnd source part) :
    part = first ∨ first.IsBefore part := by
  rcases Nat.lt_trichotomy part.front.length first.front.length with hlt | heq | hgt
  · -- An end in front of the first one would have ended a statement there.
    have hstands : part.StandsIn first.front :=
      List.prefix_of_prefix_length_le h.standsIn hfirst.standsIn.front_starts
        (h.isBefore hfirst hlt)
    exact absurd hnone (IsEnd.ended_ne ⟨hstands, h.outside, h.after, h.ended, h.within⟩)
  · have hleading : part.front <+: first.front :=
      List.prefix_of_prefix_length_le h.standsIn.front_starts hfirst.standsIn.front_starts heq.le
    exact .inl (h.eq_of_front hfirst (hleading.eq_of_length heq))
  · exact .inr (hfirst.isBefore h hgt)

end

/-! ### The first end -/

/-- Outside brace groups a character that ends a statement or opens a group stands where nothing is
open. -/
theorem StatementScan.step_of_no_braces {scan : StatementScan} (hbraces : scan.braces = 0)
    (c : Char) :
    (∃ next, scan.step c = (next, none) ∧ next.braces = 0) ∨
      scan.nesting = {} ∧ (c = ';' ∨ c = '\x7b') := by
  obtain ⟨quoting, parentheses, braces, head, pending⟩ := scan
  obtain rfl : braces = 0 := hbraces
  by_cases hcode : quoting.isCode c = true
  · obtain rfl := Quoting.eq_code_of_isCode hcode
    by_cases hend : parentheses = 0 ∧ (c = ';' ∨ c = '\x7b')
    · obtain ⟨rfl, hc⟩ := hend
      exact .inr ⟨rfl, hc⟩
    · have hquote : isQuote c = false := by simpa [Quoting.isCode] using hcode
      rw [step_of_code hquote]
      split
      · exact .inl ⟨_, rfl, rfl⟩
      · split
        · exact .inl ⟨_, rfl, rfl⟩
        · split
          case isTrue hsemicolon => exact absurd (by simp_all) hend
          case isFalse =>
            split
            case isTrue hopen => exact absurd (by simp_all) hend
            case isFalse => exact .inl ⟨_, rfl, rfl⟩
  · exact .inl ⟨_, if_pos (by simpa using hcode), rfl⟩

/-- Outside brace groups the rest starts with an end, or with a text that ends nothing and leaves no
brace group open, or no statement ends in it. -/
theorem exists_end_or_further {front rest : List Char}
    (hbraces : (StatementScan.after {} front).braces = 0)
    (h : (StatementScan.after {} front).ended rest ≠ []) :
    (∃ text, IsSeparator (front ++ rest) ⟨front, text⟩ ∨ IsBody (front ++ rest) ⟨front, text⟩) ∨
      ∃ text behind, rest = text ++ behind ∧ text ≠ [] ∧
        (StatementScan.after {} front).ended text = [] ∧
        ((StatementScan.after {} front).after text).braces = 0 := by
  cases rest with
  | nil => exact absurd rfl h
  | cons c rest =>
      rcases StatementScan.step_of_no_braces hbraces c with ⟨next, hnext, hnone⟩ | ⟨hnothing, hc⟩
      · refine .inr ⟨[c], rest, rfl, List.cons_ne_nil c [], ?_, ?_⟩
        · rw [StatementScan.ended, hnext]
          rfl
        · rw [StatementScan.after, hnext]
          exact hnone
      · have houtside : IsOutside front :=
          (StatementScan.nesting_after_empty front).symm.trans hnothing
        rcases hc with rfl | rfl
        · exact .inl ⟨[';'], .inl ⟨⟨rest, by simp⟩, houtside, rfl⟩⟩
        · obtain ⟨head, hscan⟩ := houtside.exists_after
          rw [hscan] at h ⊢
          cases hclose : closeFrom '\x7b' '\x7d' .code 1 rest with
          | none =>
              exact absurd (StatementScan.ended_opened_of_closeFrom_eq_none _ hclose).2 h
          | some cut =>
              obtain ⟨group, behind⟩ := cut
              have hopened := StatementScan.after_opened_of_closeFrom_eq_some
                (pendingText front).reverse hclose
              split at hopened
              case isTrue hends =>
                refine .inl ⟨'\x7b' :: group, .inr ⟨houtside, ?_, rest, behind, rfl, ?_⟩⟩
                · rw [StatementScan.endsList_reverse] at hends
                  exact eq_of_beq hends
                · rw [closingGroup?_cons rfl, hclose]
                  rfl
              case isFalse =>
                obtain ⟨hafter, hended⟩ := Prod.mk.inj hopened
                have hgroup : '\x7b' :: rest = '\x7b' :: group ++ behind := by
                  rw [List.cons_append, closeFrom_append hclose]
                refine .inr ⟨_, behind, hgroup, List.cons_ne_nil _ _, ?_, ?_⟩
                · rw [StatementScan.ended, StatementScan.step_brace]
                  exact hended
                · rw [StatementScan.after, StatementScan.step_brace]
                  exact congrArg StatementScan.braces hafter

/-- Where a statement ends in a source, a semicolon or a body ends it, and there is a first one. -/
theorem exists_first_end {front rest : List Char} (hfront : StatementScan.ended {} front = [])
    (hbraces : (StatementScan.after {} front).braces = 0)
    (h : (StatementScan.after {} front).ended rest ≠ []) :
    ∃ part, (IsSeparator (front ++ rest) part ∨ IsBody (front ++ rest) part) ∧
      StatementScan.ended {} part.front = [] := by
  induction hlength : rest.length using Nat.strong_induction_on generalizing front rest with
  | _ length ih =>
      rcases exists_end_or_further hbraces h with
        ⟨text, hend⟩ | ⟨text, behind, rfl, hne, hended, hnone⟩
      · exact ⟨_, hend, hfront⟩
      · have hpos := List.length_pos_iff.mpr hne
        rw [← StatementScan.after_append] at hnone
        rw [StatementScan.ended_append, hended, ← StatementScan.after_append] at h
        rw [List.length_append] at hlength
        rw [← List.append_assoc]
        refine ih behind.length (by omega) ?_ hnone h rfl
        rw [StatementScan.ended_append, hfront, hended]
        rfl

/-! ### Behind an end -/

section
variable {front source rest : List Char} {part first : TextPart}

theorem isOutside_append (h : IsOutside front) (text : List Char) :
    IsOutside (front ++ text) ↔ IsOutside text := by
  rw [IsOutside, Nesting.after_append, h, IsOutside]

theorem pendingText_append (h : StatementScan.after {} front = {}) (text : List Char) :
    pendingText (front ++ text) = pendingText text := by
  rw [pendingText, StatementScan.after_append, h, pendingText]

theorem isSeparator_behind (h : IsOutside front) :
    IsSeparator (front ++ source) (part.behind front) ↔ IsSeparator source part :=
  ⟨fun hpart => ⟨TextPart.standsIn_behind.mp hpart.standsIn,
      (isOutside_append h part.front).mp hpart.outside, hpart.text⟩,
    fun hpart => ⟨TextPart.standsIn_behind.mpr hpart.standsIn,
      (isOutside_append h part.front).mpr hpart.outside, hpart.text⟩⟩

theorem isBody_behind (hscan : StatementScan.after {} front = {}) (h : IsOutside front) :
    IsBody (front ++ source) (part.behind front) ↔ IsBody source part := by
  have hsplit (text : List Char) :
      front ++ source = (part.behind front).front ++ text ↔ source = part.front ++ text := by
    rw [TextPart.behind, List.append_assoc, List.append_cancel_left_eq]
  constructor
  · rintro ⟨houtside, hlist, text, behind, hsource, hgroup⟩
    rw [TextPart.behind, pendingText_append hscan] at hlist
    exact ⟨(isOutside_append h part.front).mp houtside, hlist, text, behind, (hsplit _).mp hsource,
      hgroup⟩
  · rintro ⟨houtside, hlist, text, behind, hsource, hgroup⟩
    refine ⟨(isOutside_append h part.front).mpr houtside, ?_, text, behind, (hsplit _).mpr hsource,
      hgroup⟩
    rw [TextPart.behind, pendingText_append hscan]
    exact hlist

end

/-! ### The parts of a source -/

def ExactlyOne (first second third : Prop) : Prop :=
  (first ∧ ¬second ∧ ¬third) ∨ (¬first ∧ second ∧ ¬third) ∨ (¬first ∧ ¬second ∧ third)

/-- A part of the kind holds the position. -/
def InSome (kind : TextPart → Prop) (position : Nat) : Prop :=
  ∃ part, kind part ∧ part.Holds position

/-- Parts that hold the statements of a source, in order and apart from each other, and with its
separators and bodies all its characters but blanks, each of them once. -/
structure HoldStatements (source : List Char) (parts : List TextPart) : Prop where
  texts : parts.map (·.text) = statements source
  standIn : ∀ part ∈ parts, part.StandsIn source
  ordered : parts.Pairwise TextPart.IsBefore
  placed : ∀ position c, source[position]? = some c → isBlank c = false →
    ExactlyOne (InSome (· ∈ parts) position) (InSome (IsSeparator source) position)
      (InSome (IsBody source) position)

/-- A text without its outer blanks is a part of it that holds all its other characters, unless it
is empty. -/
theorem exists_trimmed (text : List Char) :
    ∃ parts : List TextPart, parts.map (·.text) = [trim text].filter (!·.isEmpty) ∧
      (∀ part ∈ parts, part.StandsIn text) ∧ parts.Pairwise TextPart.IsBefore ∧
      ∀ position c, text[position]? = some c → isBlank c = false →
        InSome (· ∈ parts) position := by
  obtain ⟨lead, trail, htext, hlead, htrail⟩ := exists_blanks_trim text
  have hholds {position : Nat} {c : Char} (hc : text[position]? = some c)
      (hblank : isBlank c = false) : (TextPart.mk lead (trim text)).Holds position := by
    rw [htext] at hc
    refine ⟨?_, ?_⟩
    · by_contra hshort
      rw [List.getElem?_append_left (not_le.mp hshort)] at hc
      simp [hlead c (List.mem_of_getElem? hc)] at hblank
    · by_contra hlong
      rw [← List.append_assoc, List.getElem?_append_right (not_lt.mp hlong)] at hc
      simp [htrail c (List.mem_of_getElem? hc)] at hblank
  cases hempty : (trim text).isEmpty with
  | true =>
      refine ⟨[], by simp [hempty], by simp, .nil, fun position c hc hblank => ?_⟩
      obtain ⟨hstart, hend⟩ := hholds hc hblank
      rw [List.isEmpty_iff.mp hempty, List.append_nil] at hend
      exact absurd hstart (not_le.mpr hend)
  | false =>
      refine ⟨[⟨lead, trim text⟩], by simp [hempty], ?_, List.pairwise_singleton _ _,
        fun position c hc hblank => ⟨_, List.mem_singleton.mpr rfl, hholds hc hblank⟩⟩
      intro part hpart
      rw [List.mem_singleton.mp hpart]
      exact ⟨trail, by rw [List.append_assoc, ← htext]⟩

section
variable {source rest : List Char} {first : TextPart}

/-- The ends of one kind are the first end, if it is of that kind, and those behind it. -/
theorem inSome_of_first_end (kind : TextPart → Prop) {later : TextPart → Prop}
    (hfirst : IsEnd source first) (hnone : StatementScan.ended {} first.front = [])
    (hsource : source = first.front ++ first.text ++ rest)
    (hkind : ∀ part, kind part → IsEnd source part)
    (hlater : ∀ part, kind (part.behind (first.front ++ first.text)) ↔ later part)
    (position : Nat) :
    InSome kind position ↔ kind first ∧ first.Holds position ∨
      (first.front ++ first.text).length ≤ position ∧
        InSome later (position - (first.front ++ first.text).length) := by
  constructor
  · rintro ⟨part, hpart, hholds⟩
    rcases hfirst.eq_or_isBefore hnone (hkind part hpart) with rfl | hbefore
    · exact .inl ⟨hpart, hholds⟩
    · obtain ⟨inner, rfl, -⟩ :=
        TextPart.exists_behind_of_isBefore hsource (hkind part hpart).standsIn hbefore
      obtain ⟨hlong, hholds⟩ := TextPart.holds_behind.mp hholds
      exact .inr ⟨hlong, inner, (hlater inner).mp hpart, hholds⟩
  · rintro (⟨hkind, hholds⟩ | ⟨hlong, inner, hinner, hholds⟩)
    · exact ⟨first, hkind, hholds⟩
    · exact ⟨_, (hlater inner).mpr hinner, TextPart.holds_behind.mpr ⟨hlong, hholds⟩⟩

theorem inSome_append_behind {parts others : List TextPart} {front : List Char} (position : Nat) :
    InSome (· ∈ parts ++ others.map (TextPart.behind front)) position ↔
      InSome (· ∈ parts) position ∨
        front.length ≤ position ∧ InSome (· ∈ others) (position - front.length) := by
  constructor
  · rintro ⟨part, hpart, hholds⟩
    rcases List.mem_append.mp hpart with hpart | hpart
    · exact .inl ⟨part, hpart, hholds⟩
    · obtain ⟨inner, hinner, rfl⟩ := List.mem_map.mp hpart
      obtain ⟨hlong, hholds⟩ := TextPart.holds_behind.mp hholds
      exact .inr ⟨hlong, inner, hinner, hholds⟩
  · rintro (⟨part, hpart, hholds⟩ | ⟨hlong, inner, hinner, hholds⟩)
    · exact ⟨part, List.mem_append_left _ hpart, hholds⟩
    · exact ⟨_, List.mem_append_right _ (List.mem_map_of_mem hinner),
        TextPart.holds_behind.mpr ⟨hlong, hholds⟩⟩

/-- A source without an end is one statement. -/
theorem exists_parts_of_ended_eq_nil (h : StatementScan.ended {} source = []) :
    ∃ parts, HoldStatements source parts := by
  obtain ⟨parts, htexts, hstand, hordered, hholds⟩ := exists_trimmed source
  have hnot {kind : TextPart → Prop} (hkind : ∀ part, kind part → IsEnd source part)
      (position : Nat) : ¬InSome kind position :=
    fun ⟨part, hpart, _⟩ => (hkind part hpart).ended_ne h
  refine ⟨parts, ?_, hstand, hordered, fun position c hc hblank => .inl ⟨hholds _ c hc hblank,
    hnot (fun _ hpart => hpart.isEnd) position, hnot (fun _ hpart => hpart.isEnd) position⟩⟩
  rw [htexts, statements, statementsFrom_of_ended h]

/-- No part is both a separator and a body. -/
theorem IsSeparator.not_isBody (h : IsSeparator source first) : ¬IsBody source first := by
  rintro ⟨-, -, rest, behind, -, hgroup⟩
  rw [closingGroup?_cons rfl, h.text] at hgroup
  obtain ⟨_, -, hsame⟩ := Option.map_eq_some_iff.mp hgroup
  obtain ⟨hhead, -⟩ := List.cons.inj (Prod.mk.inj hsame).1
  exact absurd hhead (by decide)

theorem statements_of_first_end (hfirst : IsEnd source first)
    (hnone : StatementScan.ended {} first.front = [])
    (hsource : source = first.front ++ first.text ++ rest) :
    statements source = [trim first.front].filter (!·.isEmpty) ++ statements rest := by
  have hpending : pendingText first.front = first.front := by
    rw [pendingText, StatementScan.pending_of_ended hnone, List.append_nil, List.reverse_reverse]
  rw [statements, hsource, StatementScan.statementsFrom_after, hfirst.ended, hfirst.after, hnone,
    hpending, List.filter_append, statements]
  rfl

/-- The statement in front of the first end and the parts of what stands behind it. -/
theorem exists_parts_of_first_end (hfirst : IsSeparator source first ∨ IsBody source first)
    (hnone : StatementScan.ended {} first.front = [])
    (hsource : source = first.front ++ first.text ++ rest) {others : List TextPart}
    (hothers : HoldStatements rest others) : ∃ parts, HoldStatements source parts := by
  have hend : IsEnd source first := hfirst.elim IsSeparator.isEnd IsBody.isEnd
  have hlength : first.front.length ≤ (first.front ++ first.text).length := by simp
  obtain ⟨parts, htexts, hstand, hordered, hholds⟩ := exists_trimmed first.front
  have hshort {part : TextPart} (hpart : part ∈ parts) :
      (part.front ++ part.text).length ≤ first.front.length := (hstand part hpart).length_le
  refine ⟨parts ++ others.map (TextPart.behind (first.front ++ first.text)), ?_, ?_, ?_, ?_⟩
  · rw [statements_of_first_end hend hnone hsource, List.map_append, htexts, List.map_map,
      ← hothers.texts]
    rfl
  · intro part hpart
    rcases List.mem_append.mp hpart with hpart | hpart
    · exact (hstand part hpart).trans hend.standsIn.front_starts
    · obtain ⟨inner, hinner, rfl⟩ := List.mem_map.mp hpart
      rw [hsource]
      exact TextPart.standsIn_behind.mpr (hothers.standIn inner hinner)
  · refine List.pairwise_append.mpr ⟨hordered, ?_, fun part hpart other hother => ?_⟩
    · exact List.pairwise_map.mpr (hothers.ordered.imp TextPart.isBefore_behind.mpr)
    · obtain ⟨inner, -, rfl⟩ := List.mem_map.mp hother
      have hpart := hshort hpart
      simp only [TextPart.IsBefore, TextPart.behind, List.length_append] at hpart ⊢
      omega
  · intro position c hc hblank
    have hseparator := inSome_of_first_end (IsSeparator source) hend hnone hsource
      (fun _ hpart => hpart.isEnd)
      (fun part => hsource ▸ isSeparator_behind hend.outside_behind) position
    have hbody := inSome_of_first_end (IsBody source) hend hnone hsource
      (fun _ hpart => hpart.isEnd)
      (fun part => hsource ▸ isBody_behind hend.after hend.outside_behind) position
    have hparts (h : InSome (· ∈ parts) position) : position < first.front.length := by
      obtain ⟨part, hpart, hholds⟩ := h
      exact hholds.2.trans_le (hshort hpart)
    rw [inSome_append_behind, hseparator, hbody]
    rcases Nat.lt_or_ge position first.front.length with hfront | hfront
    · -- In front of the end there is only the statement.
      rw [hsource, List.append_assoc, List.getElem?_append_left hfront] at hc
      have hpart := hholds position c hc hblank
      have hnot : ¬first.Holds position := fun h => absurd h.1 (not_le.mpr hfront)
      have hrest : ¬(first.front ++ first.text).length ≤ position := by omega
      refine .inl ?_
      simp only [hpart, hnot, hrest, and_false, false_and, or_false, not_false_eq_true, and_self]
    · have hpart : ¬InSome (· ∈ parts) position := fun h => absurd (hparts h) (not_lt.mpr hfront)
      rcases Nat.lt_or_ge position (first.front ++ first.text).length with hinside | hbehind
      · -- The end itself is a separator or a body, and nothing else is there.
        have hholds : first.Holds position := ⟨hfront, hinside⟩
        have hrest : ¬(first.front ++ first.text).length ≤ position := not_le.mpr hinside
        rcases hfirst with hfirst | hfirst
        · have hnot : ¬IsBody source first := hfirst.not_isBody
          refine .inr (.inl ?_)
          simp only [hpart, hfirst, hnot, hholds, hrest, false_and, or_false, not_false_eq_true,
            and_self]
        · have hnot : ¬IsSeparator source first := fun h => h.not_isBody hfirst
          refine .inr (.inr ?_)
          simp only [hpart, hfirst, hnot, hholds, hrest, false_and, or_false, not_false_eq_true,
            and_self]
      · -- Behind the end the rest decides.
        have hnot : ¬first.Holds position := fun h => absurd h.2 (not_lt.mpr hbehind)
        rw [hsource, List.getElem?_append_right hbehind] at hc
        have hplaced := hothers.placed _ c hc hblank
        simpa only [hpart, hnot, hbehind, and_false, false_or, true_and] using hplaced

/-- However a source is written, its statements are parts of it, in order and apart from each other.
Each of its characters but blanks stands in one of them, or is a semicolon where nothing is open, or
stands in the body of a function. -/
theorem exists_statementParts (source : List Char) : ∃ parts, HoldStatements source parts := by
  induction hlength : source.length using Nat.strong_induction_on generalizing source with
  | _ length ih =>
      by_cases hnone : StatementScan.ended {} source = []
      · exact exists_parts_of_ended_eq_nil hnone
      · obtain ⟨first, hfirst, hfront⟩ := @exists_first_end [] source rfl rfl hnone
        have hend : IsEnd source first := hfirst.elim IsSeparator.isEnd IsBody.isEnd
        obtain ⟨rest, hrest⟩ := hend.standsIn
        have hpos := List.length_pos_iff.mpr hend.text_ne
        rw [← hrest, List.length_append, List.length_append] at hlength
        obtain ⟨others, hothers⟩ := ih rest.length (by omega) rest rfl
        exact exists_parts_of_first_end hfirst hfront hrest.symm hothers

end

end HeaderBindings.Source
