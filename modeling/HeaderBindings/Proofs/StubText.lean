import HeaderBindings.Proofs.Delimiters
import HeaderBindings.Proofs.Expressible

/-!
A stub read back from its text. Nothing that is put into a stub holds a parenthesis or a comma, so
the list that declares its parameters and the list of arguments of its call can be found again in
the text and cut into the entries they were made of, and the two lists agree entry by entry.
-/

namespace HeaderBindings
open Text

/-! ### Cutting a text -/

/-- The text in front of the first occurrence of a mark. -/
def beforeFirst (mark : Char) (text : List Char) : List Char := text.takeWhile (· != mark)

/-- The text behind the first occurrence of a mark. -/
def behindFirst (mark : Char) (text : List Char) : List Char :=
  (text.dropWhile (· != mark)).drop 1

/-- The text in front of the last occurrence of a mark. -/
def beforeLast (mark : Char) (text : List Char) : List Char :=
  (behindFirst mark text.reverse).reverse

/-- The pieces of a text between the occurrences of a separator, when so many characters of the last
occurrence are still to be passed over. -/
def cutAtTextFrom (separator : List Char) : Nat → List Char → List (List Char)
  | _, [] => [[]]
  | skipped + 1, _ :: rest => cutAtTextFrom separator skipped rest
  | 0, c :: rest =>
      if separator.isPrefixOf (c :: rest) then
        [] :: cutAtTextFrom separator (separator.length - 1) rest
      else consFirst c (cutAtTextFrom separator 0 rest)

/-- The pieces of a text between the occurrences of a separator, found from the left and without
overlaps. -/
def cutAtText (separator text : List Char) : List (List Char) := cutAtTextFrom separator 0 text

theorem beforeFirst_append {mark : Char} {before : List Char} (h : mark ∉ before)
    (behind : List Char) : beforeFirst mark (before ++ mark :: behind) = before :=
  Source.takeWhile_append_cons h behind

theorem behindFirst_append {mark : Char} {before : List Char} (h : mark ∉ before)
    (behind : List Char) : behindFirst mark (before ++ mark :: behind) = behind := by
  rw [behindFirst, Source.dropWhile_append_cons h]
  rfl

theorem beforeLast_append {mark : Char} {behind : List Char} (h : mark ∉ behind)
    (before : List Char) : beforeLast mark (before ++ mark :: behind) = before := by
  have hreverse : (before ++ mark :: behind).reverse
      = behind.reverse ++ mark :: before.reverse := by simp
  rw [beforeLast, hreverse, behindFirst_append (by simpa using h), List.reverse_reverse]

theorem cutAtTextFrom_skipped (separator skipped rest : List Char) :
    cutAtTextFrom separator skipped.length (skipped ++ rest) = cutAtText separator rest := by
  induction skipped with
  | nil => rfl
  | cons c skipped ih => rw [List.length_cons, List.cons_append, cutAtTextFrom, ih]

theorem cutAtText_separator (first : Char) (more rest : List Char) :
    cutAtText (first :: more) (first :: (more ++ rest)) = [] :: cutAtText (first :: more) rest := by
  have hprefix : (first :: more).isPrefixOf (first :: (more ++ rest)) = true := by simp
  rw [cutAtText, cutAtTextFrom, if_pos hprefix, List.length_cons, Nat.add_sub_cancel,
    cutAtTextFrom_skipped]

/-- A piece without the first character of the separator goes on to the next occurrence. -/
theorem cutAtText_append {first : Char} {more piece rest next : List Char}
    {others : List (List Char)} (hpiece : first ∉ piece)
    (hrest : cutAtText (first :: more) rest = next :: others) :
    cutAtText (first :: more) (piece ++ rest) = (piece ++ next) :: others := by
  induction piece with
  | nil => exact hrest
  | cons c piece ih =>
      obtain ⟨hc, hpiece⟩ := not_or.mp (mt List.mem_cons.mpr hpiece)
      have hprefix : (first :: more).isPrefixOf (c :: (piece ++ rest)) = false := by
        rw [List.isPrefixOf_cons_cons, beq_false_of_ne hc, Bool.false_and]
      rw [List.cons_append, cutAtText, cutAtTextFrom, hprefix, if_neg (by simp), ← cutAtText,
        ih hpiece, consFirst, List.cons_append]

/-- Pieces without the first character of the separator are found again when they are joined. -/
theorem cutAtText_intercalate {first : Char} (more : List Char) {pieces : List (List Char)}
    (hne : pieces ≠ []) (hpieces : ∀ piece ∈ pieces, first ∉ piece) :
    cutAtText (first :: more) ((first :: more).intercalate pieces) = pieces := by
  induction pieces with
  | nil => exact absurd rfl hne
  | cons piece rest ih =>
      have hpiece := hpieces piece List.mem_cons_self
      by_cases hrest : rest = []
      · subst hrest
        have hend : cutAtText (first :: more) [] = [[]] := rfl
        have happend := cutAtText_append hpiece hend
        rw [List.append_nil] at happend
        rwa [List.intercalate_singleton]
      · have hothers := ih hrest fun other hmem => hpieces other (List.mem_cons_of_mem piece hmem)
        have hseparator := cutAtText_separator first more ((first :: more).intercalate rest)
        rw [hothers] at hseparator
        rw [List.intercalate_cons_of_ne_nil hrest, List.append_assoc, List.cons_append,
          cutAtText_append hpiece hseparator, List.append_nil]

/-! ### The parts of a stub -/

/-- The list that declares the parameters: between the first opening parenthesis and the first
closing one. -/
def declaredList (stub : List Char) : List Char := behindFirst '(' (beforeFirst ')' stub)

/-- What stands between the two lists of a stub: the return type and the function that is called. -/
def calledPart (stub : List Char) : List Char := beforeFirst '(' (behindFirst ')' stub)

/-- The list of arguments of the call: between the second opening parenthesis and the last closing
one. -/
def argumentList (stub : List Char) : List Char :=
  behindFirst '(' (behindFirst '(' (beforeLast ')' stub))

/-- A text without parentheses. -/
def IsUnparenthesized (text : List Char) : Prop := '(' ∉ text ∧ ')' ∉ text

/-- A text that can be an entry of a list in parentheses. -/
structure IsEntry (text : List Char) : Prop where
  comma : ',' ∉ text
  parentheses : IsUnparenthesized text

theorem isEntry_append {first second : List Char} :
    IsEntry (first ++ second) ↔ IsEntry first ∧ IsEntry second := by
  constructor
  · rintro ⟨hcomma, hopen, hclose⟩
    simp only [List.mem_append, not_or] at hcomma hopen hclose
    exact ⟨⟨hcomma.1, hopen.1, hclose.1⟩, ⟨hcomma.2, hopen.2, hclose.2⟩⟩
  · rintro ⟨⟨hcomma, hopen, hclose⟩, ⟨hcomma', hopen', hclose'⟩⟩
    exact ⟨by simp [hcomma, hcomma'], by simp [hopen, hopen'], by simp [hclose, hclose']⟩

theorem IsUnmarked.isEntry {text : List Char} (h : IsUnmarked text) : IsEntry text :=
  ⟨fun hmem => h _ hmem (by decide), fun hmem => h _ hmem (by decide),
    fun hmem => h _ hmem (by decide)⟩

theorem isUnparenthesized_intercalate {pieces : List String}
    (h : ∀ piece ∈ pieces, IsEntry piece.toList) :
    IsUnparenthesized (String.intercalate ", " pieces).toList := by
  constructor
  · intro hmem
    rcases mem_toList_intercalate hmem with hmem | ⟨piece, hpiece, hmem⟩
    · simp at hmem
    · exact (h piece hpiece).parentheses.1 hmem
  · intro hmem
    rcases mem_toList_intercalate hmem with hmem | ⟨piece, hpiece, hmem⟩
    · simp at hmem
    · exact (h piece hpiece).parentheses.2 hmem

theorem cutAtText_entries {pieces : List String} (hne : pieces ≠ [])
    (h : ∀ piece ∈ pieces, IsEntry piece.toList) :
    cutAtText [',', ' '] (String.intercalate ", " pieces).toList = pieces.map String.toList := by
  rw [String.toList_intercalate]
  refine cutAtText_intercalate [' '] (by simpa using hne) fun piece hmem => ?_
  obtain ⟨entry, hentry, rfl⟩ := List.mem_map.mp hmem
  exact (h entry hentry).comma

theorem cutAtText_declared {name type : String} (hname : ':' ∉ name.toList)
    (htype : ':' ∉ type.toList) :
    cutAtText [':', ' '] (name ++ ": " ++ type).toList = [name.toList, type.toList] := by
  have hpieces : ∀ piece ∈ [name.toList, type.toList], ':' ∉ piece := by simp [hname, htype]
  have hcut := cutAtText_intercalate [' '] (by simp) hpieces
  simpa [List.intercalate] using hcut

/-- The parts are found when no parenthesis stands in them. -/
theorem parts_of_stub {front declared called back : List Char} (arguments : List Char)
    (hfront : IsUnparenthesized front) (hdeclared : IsUnparenthesized declared)
    (hcalled : IsUnparenthesized called) (hback : IsUnparenthesized back) :
    let stub := front ++ '(' :: (declared ++ ')' :: (called ++ '(' :: (arguments ++ ')' :: back)))
    declaredList stub = declared ∧ calledPart stub = called ∧ argumentList stub = arguments := by
  intro stub
  have hfirst : stub = (front ++ '(' :: declared)
      ++ ')' :: (called ++ '(' :: (arguments ++ ')' :: back)) := by simp [stub]
  have hlast : stub = (front ++ '(' :: ((declared ++ ')' :: called) ++ '(' :: arguments))
      ++ ')' :: back := by simp [stub]
  have hclose : ')' ∉ front ++ '(' :: declared := by simp [hfront.2, hdeclared.2]
  have hopen : '(' ∉ declared ++ ')' :: called := by simp [hdeclared.1, hcalled.1]
  refine ⟨?_, ?_, ?_⟩
  · rw [declaredList, hfirst, beforeFirst_append hclose, behindFirst_append hfront.1]
  · rw [calledPart, hfirst, behindFirst_append hclose, beforeFirst_append hcalled.1]
  · rw [argumentList, hlast, beforeLast_append hback.2, behindFirst_append hfront.1,
      behindFirst_append hopen]

theorem exists_of_mem_zipWith {α β γ : Type} {f : α → β → γ} {first : List α} {second : List β}
    {c : γ} (h : c ∈ List.zipWith f first second) :
    ∃ a ∈ first, ∃ b ∈ second, c = f a b := by
  rw [← List.map_uncurry_zip_eq_zipWith] at h
  obtain ⟨⟨a, b⟩, hmem, rfl⟩ := List.mem_map.mp h
  obtain ⟨ha, hb⟩ := List.of_mem_zip hmem
  exact ⟨a, ha, b, hb, rfl⟩

namespace Wrapper

/-- Neither the names of a style nor the values of its map hold a mark. -/
structure IsUnmarkedStyle (style : WrapperStyle) : Prop where
  receiver : IsUnmarked style.receiver.toList
  receiverType : IsUnmarked style.receiverType.toList
  rawField : IsUnmarked style.rawField.toList
  space : IsUnmarked style.space.toList
  types : style.types.IsUnmarked

theorem isEntry_of_mem_declared {style : WrapperStyle} (hstyle : IsUnmarkedStyle style)
    {names types : List String} (hnames : ∀ name ∈ names, IsUnmarked name.toList)
    (htypes : ∀ type ∈ types, IsUnmarked type.toList) :
    ∀ piece ∈ List.zipWith (fun name type => name ++ ": " ++ type) (style.receiver :: names)
      (style.receiverType :: types), IsEntry piece.toList := by
  intro piece hmem
  obtain ⟨left, hleft, right, hright, rfl⟩ := exists_of_mem_zipWith hmem
  have hleft : IsUnmarked left.toList := by
    rcases List.mem_cons.mp hleft with rfl | hleft
    · exact hstyle.receiver
    · exact hnames left hleft
  have hright : IsUnmarked right.toList := by
    rcases List.mem_cons.mp hright with rfl | hright
    · exact hstyle.receiverType
    · exact htypes right hright
  have hcolon : IsEntry ": ".toList := ⟨by simp, by simp, by simp⟩
  rw [String.toList_append, String.toList_append]
  exact isEntry_append.mpr ⟨isEntry_append.mpr ⟨hleft.isEntry, hcolon⟩, hright.isEntry⟩

theorem isEntry_of_mem_arguments {style : WrapperStyle} (hstyle : IsUnmarkedStyle style)
    {names : List String} (hnames : ∀ name ∈ names, IsUnmarked name.toList) :
    ∀ piece ∈ (style.receiver ++ "." ++ style.rawField) :: names, IsEntry piece.toList := by
  have hdot : IsEntry ".".toList := ⟨by simp, by simp, by simp⟩
  refine List.forall_mem_cons.mpr ⟨?_, fun name hmem => (hnames name hmem).isEntry⟩
  rw [String.toList_append, String.toList_append]
  exact isEntry_append.mpr ⟨isEntry_append.mpr ⟨hstyle.receiver.isEntry, hdot⟩,
    hstyle.rawField.isEntry⟩

theorem isEntry_called {style : WrapperStyle} (hstyle : IsUnmarkedStyle style)
    {function returnType : String} (hfunction : ∀ c ∈ function.toList, isNameChar c = true)
    (hreturn : IsUnmarked returnType.toList) :
    IsEntry (" " ++ returnType ++ " \x7b\n\treturn " ++ style.space ++ "." ++ function).toList := by
  have hstart : IsEntry " ".toList := ⟨by simp, by simp, by simp⟩
  have hreturns : IsEntry " \x7b\n\treturn ".toList := ⟨by simp, by simp, by simp⟩
  have hdot : IsEntry ".".toList := ⟨by simp, by simp, by simp⟩
  simp only [String.toList_append, isEntry_append]
  exact ⟨⟨⟨⟨⟨hstart, hreturn.isEntry⟩, hreturns⟩, hstyle.space.isEntry⟩, hdot⟩,
    (isUnmarked_of_isNameChar hfunction).isEntry⟩

/-- A stub of parts that hold no mark is read back as the entries of its two lists. -/
theorem lists_of_stubText {style : WrapperStyle} (hstyle : IsUnmarkedStyle style)
    {function returnType : String} {names types : List String}
    (hlength : types.length = names.length)
    (hfunction : ∀ c ∈ function.toList, isNameChar c = true)
    (hreturn : IsUnmarked returnType.toList)
    (hnames : ∀ name ∈ names, IsUnmarked name.toList)
    (htypes : ∀ type ∈ types, IsUnmarked type.toList) :
    let stub := (stubText style function returnType (names.zip types)).toList
    cutAtText [',', ' '] (declaredList stub)
        = (List.zipWith (fun name type => name ++ ": " ++ type) (style.receiver :: names)
            (style.receiverType :: types)).map String.toList ∧
      cutAtText [',', ' '] (argumentList stub)
        = ((style.receiver ++ "." ++ style.rawField) :: names).map String.toList ∧
      calledPart stub = (" " ++ returnType ++ " \x7b\n\treturn " ++ style.space ++ "."
        ++ function).toList := by
  intro stub
  have hentries := isEntry_of_mem_declared hstyle hnames htypes
  have hhanded := isEntry_of_mem_arguments hstyle hnames
  have hcalled := isEntry_called hstyle hfunction hreturn
  have hfront : IsEntry ("pub fn " ++ name style.stripPrefixes function).toList := by
    rw [String.toList_append]
    exact isEntry_append.mpr ⟨⟨by simp, by simp, by simp⟩,
      (isUnmarked_name hfunction style.stripPrefixes).isEntry⟩
  have hback : IsUnparenthesized ";\n\x7d".toList := ⟨by simp, by simp⟩
  generalize hdeclared : List.zipWith (fun name type => name ++ ": " ++ type)
    (style.receiver :: names) (style.receiverType :: types) = declared at hentries
  generalize harguments : (style.receiver ++ "." ++ style.rawField) :: names = arguments at hhanded
  generalize hmiddle : " " ++ returnType ++ " \x7b\n\treturn " ++ style.space ++ "." ++ function
    = called at hcalled
  have hstub : stub = ("pub fn " ++ name style.stripPrefixes function).toList
      ++ '(' :: ((String.intercalate ", " declared).toList
        ++ ')' :: (called.toList
          ++ '(' :: ((String.intercalate ", " arguments).toList ++ ')' :: ";\n\x7d".toList))) := by
    rw [← hdeclared, ← harguments, ← hmiddle]
    simp only [stub]
    rw [stubText_zip style function returnType hlength]
    simp
  have hne : declared ≠ [] ∧ arguments ≠ [] := by simp [← hdeclared, ← harguments]
  obtain ⟨hfound, hbetween, hcall⟩ := parts_of_stub (String.intercalate ", " arguments).toList
    hfront.parentheses (isUnparenthesized_intercalate hentries) hcalled.parentheses hback
  rw [hstub, hfound, hbetween, hcall]
  exact ⟨cutAtText_entries hne.1 hentries, cutAtText_entries hne.2 hhanded, rfl⟩

theorem zipWith_declared_injective {names types others : List String}
    (hlength : types.length = names.length) (hothers : others.length = names.length)
    (h : List.zipWith (fun name type => name ++ ": " ++ type) names types
      = List.zipWith (fun name type => name ++ ": " ++ type) names others) : types = others := by
  induction names generalizing types others with
  | nil => rw [List.length_eq_zero_iff.mp hlength, List.length_eq_zero_iff.mp hothers]
  | cons name names ih =>
      obtain ⟨type, types, rfl⟩ := List.exists_cons_of_length_eq_add_one hlength
      obtain ⟨other, others, rfl⟩ := List.exists_cons_of_length_eq_add_one hothers
      rw [List.zipWith_cons_cons, List.zipWith_cons_cons] at h
      obtain ⟨hfirst, hrest⟩ := List.cons.inj h
      have htype : type = other := String.toList_inj.mp (by simpa using congrArg String.toList hfirst)
      rw [htype, ih (by simpa using hlength) (by simpa using hothers) hrest]

/-- Two stubs for one function are the same only if they forward the same names and show the same
types. -/
theorem stubText_injective {style : WrapperStyle} (hstyle : IsUnmarkedStyle style)
    {function returnType otherType : String} {names types otherNames otherTypes : List String}
    (hfunction : ∀ c ∈ function.toList, isNameChar c = true)
    (hlength : types.length = names.length) (hotherLength : otherTypes.length = otherNames.length)
    (hreturn : IsUnmarked returnType.toList) (hotherReturn : IsUnmarked otherType.toList)
    (hnames : ∀ name ∈ names, IsUnmarked name.toList)
    (hotherNames : ∀ name ∈ otherNames, IsUnmarked name.toList)
    (htypes : ∀ type ∈ types, IsUnmarked type.toList)
    (hotherTypes : ∀ type ∈ otherTypes, IsUnmarked type.toList)
    (h : stubText style function returnType (names.zip types)
      = stubText style function otherType (otherNames.zip otherTypes)) :
    returnType = otherType ∧ names = otherNames ∧ types = otherTypes := by
  obtain ⟨hdeclared, harguments, hcalled⟩ :=
    lists_of_stubText hstyle hlength hfunction hreturn hnames htypes
  obtain ⟨hotherDeclared, hotherArguments, hotherCalled⟩ :=
    lists_of_stubText hstyle hotherLength hfunction hotherReturn hotherNames hotherTypes
  rw [h] at hdeclared harguments hcalled
  have hinjective : Function.Injective (List.map String.toList) :=
    List.map_injective_iff.mpr fun _ _ heq => String.toList_inj.mp heq
  have hsameNames : names = otherNames :=
    (List.cons.inj (hinjective (harguments.symm.trans hotherArguments))).2
  subst hsameNames
  refine ⟨?_, rfl, ?_⟩
  · have hsame := hcalled.symm.trans hotherCalled
    exact String.toList_inj.mp (by simpa using hsame)
  · have hsame := hinjective (hdeclared.symm.trans hotherDeclared)
    rw [List.zipWith_cons_cons, List.zipWith_cons_cons] at hsame
    exact zipWith_declared_injective hlength hotherLength (List.cons.inj hsame).2

/-- What a stub for a regular declaration consists of: its parts hold no mark. -/
theorem exists_unmarked_parts {style : WrapperStyle} {signature : Signature} {stub : String}
    (hregular : signature.IsRegular) (hstyle : IsUnmarkedStyle style)
    (hrender : render style signature = .ok stub) :
    ∃ returnType replaced others types, signature.parameters = replaced :: others ∧
      signature.returnType.render style.types = .ok returnType ∧
      others.map (·.type.render style.types) = types.map Except.ok ∧
      stub = stubText style signature.name returnType
        ((forwardedNames style 1 others).zip types) ∧
      (∀ c ∈ signature.name.toList, isNameChar c = true) ∧ IsUnmarked returnType.toList ∧
      (∀ name ∈ forwardedNames style 1 others, IsUnmarked name.toList) ∧
      ∀ type ∈ types, IsUnmarked type.toList := by
  have hshapes := (exists_render_iff.mp ⟨stub, hrender⟩).2.2
  obtain ⟨returnType, replaced, others, types, hreturn, hparameters, -, htypes, hstub⟩ :=
    exists_of_render hrender
  obtain ⟨hname, hreturnType, hspelled⟩ := hregular.isSpelled
  rw [hparameters] at hshapes hspelled
  have hothers : ∀ parameter ∈ others,
      (∀ c ∈ parameter.name.toList, isNameChar c = true) ∧ parameter.type.IsSpelled := by
    intro parameter hmem
    have hparameter := List.mem_cons_of_mem replaced hmem
    exact hspelled parameter hparameter (hshapes parameter hparameter)
  refine ⟨returnType, replaced, others, types, hparameters, hreturn, htypes, hstub, hname,
    CType.isUnmarked_of_render hstyle.types hreturnType hreturn, ?_, ?_⟩
  · intro name hmem
    obtain ⟨⟨parameter, position⟩, hentry, rfl⟩ := List.mem_map.mp hmem
    exact isUnmarked_forwardedName (hothers parameter (List.fst_mem_of_mem_zipIdx hentry)).1 style
      position
  · intro type hmem
    have hrendered : Except.ok type ∈ others.map (·.type.render style.types) :=
      htypes ▸ List.mem_map_of_mem hmem
    obtain ⟨parameter, hparameter, hrender⟩ := List.mem_map.mp hrendered
    exact CType.isUnmarked_of_render hstyle.types (hothers parameter hparameter).2 hrender

/-- The types that two stubs show are the same if the stubs are, when they are for regular
declarations of one function. -/
theorem map_render_of_render_eq {style : WrapperStyle} {first second : Signature} {stub : String}
    (hstyle : IsUnmarkedStyle style) (hfirst : first.IsRegular) (hsecond : second.IsRegular)
    (hname : first.name = second.name) (hrender : render style first = .ok stub)
    (hother : render style second = .ok stub) :
    first.returnType.render style.types = second.returnType.render style.types ∧
      first.parameters.tail.map (·.type.render style.types)
        = second.parameters.tail.map (·.type.render style.types) := by
  obtain ⟨returnType, replaced, others, types, hparameters, hreturn, htypes, rfl, hfunction,
    hunmarked, hnames, htexts⟩ := exists_unmarked_parts hfirst hstyle hrender
  obtain ⟨otherReturn, otherReplaced, otherOthers, otherTypes, hotherParameters, hreturn', htypes',
    hsame, -, hunmarked', hnames', htexts'⟩ := exists_unmarked_parts hsecond hstyle hother
  rw [← hname] at hsame
  obtain ⟨rfl, -, rfl⟩ := stubText_injective hstyle hfunction
    (by simpa using (congrArg List.length htypes).symm)
    (by simpa using (congrArg List.length htypes').symm)
    hunmarked hunmarked' hnames hnames' htexts htexts' hsame
  rw [hreturn, hreturn', hparameters, hotherParameters]
  exact ⟨rfl, htypes.trans htypes'.symm⟩

/-- The two lists of a stub for a declaration that was read agree: each has as many entries as there
are parameters, the first entries are the receiver with its type and its raw handle, and each other
entry of the first list is an entry of the second with the rendering of the type at that place. The
function is called by its own name. -/
theorem stub_lists_agree {filter : NameFilter} {source : String} {style : WrapperStyle}
    {signature : Signature} {stub : String}
    (hread : signature ∈ (Source.readHeader filter source).value.functions)
    (hstyle : IsUnmarkedStyle style) (hrender : render style signature = .ok stub) :
    let declared := cutAtText [',', ' '] (declaredList stub.toList)
    let arguments := cutAtText [',', ' '] (argumentList stub.toList)
    declared.length = signature.parameters.length ∧
      arguments.length = signature.parameters.length ∧
      declared[0]? = some (style.receiver ++ ": " ++ style.receiverType).toList ∧
      arguments[0]? = some (style.receiver ++ "." ++ style.rawField).toList ∧
      (∀ (index : Nat) (parameter : Parameter),
        signature.parameters[index + 1]? = some parameter →
        ∃ piece argument depth qualifiers base,
          declared[index + 1]? = some piece ∧ arguments[index + 1]? = some argument ∧
          parameter.type = .behindPointers depth (.named qualifiers base) ∧
          cutAtText [':', ' '] piece
            = [argument, (CType.rendered style.types depth qualifiers base).toList]) ∧
      ∃ returnType, signature.returnType.render style.types = .ok returnType ∧
        calledPart stub.toList = (" " ++ returnType ++ " \x7b\n\treturn " ++ style.space ++ "."
          ++ signature.name).toList := by
  obtain ⟨returnType, replaced, others, types, hparameters, hreturn, htypes, rfl, hname, hunmarked,
    hnames, htexts⟩ := exists_unmarked_parts (Source.readHeader_regular hread) hstyle hrender
  have hlength : types.length = (forwardedNames style 1 others).length := by
    simpa using (congrArg List.length htypes).symm
  obtain ⟨hdeclared, harguments, hcalled⟩ := lists_of_stubText hstyle hlength hname
    hunmarked hnames htexts
  intro declared arguments
  refine ⟨?_, ?_, ?_, ?_, fun index parameter hat => ?_, returnType, hreturn, hcalled⟩
  · simp [declared, hdeclared, hparameters, hlength]
  · simp [arguments, harguments, hparameters]
  · simp [declared, hdeclared]
  · simp [arguments, harguments]
  · rw [hparameters, List.getElem?_cons_succ] at hat
    have hrendered := congrArg (·[index]?) htypes
    simp only [List.getElem?_map, hat, Option.map_some] at hrendered
    obtain ⟨text, htext, hrender⟩ := Option.map_eq_some_iff.mp hrendered.symm
    obtain ⟨depth, qualifiers, base, htype, rfl⟩ := CType.render_eq_ok_iff.mp hrender.symm
    obtain ⟨name, hforwarded⟩ : ∃ name, (forwardedNames style 1 others)[index]? = some name :=
      ⟨forwardedName style (1 + index) parameter,
        by simp [forwardedNames, List.getElem?_zipIdx, hat]⟩
    have hcolon : ':' ∈ stubMarks := by decide
    refine ⟨(name ++ ": " ++ CType.rendered style.types depth qualifiers base).toList, name.toList,
      depth, qualifiers, base, ?_, ?_, htype, cutAtText_declared ?_ ?_⟩
    · simp [declared, hdeclared, List.getElem?_zipWith, hforwarded, htext]
    · simp [arguments, harguments, hforwarded]
    · exact fun hmem => hnames name (List.mem_of_getElem? hforwarded) ':' hmem hcolon
    · exact fun hmem => htexts _ (List.mem_of_getElem? htext) ':' hmem hcolon

/-- A stub with another receiver, which the last parameter shadows, and an unnamed parameter. -/
theorem stub_lists_agree_four_parameters :
    let source := "char *g_name(const GObject *o, volatile unsigned long x, struct T **, int it);"
    let style : WrapperStyle := { receiver := "it", receiverType := "*Self", space := "c.gi" }
    let signature : Signature :=
      ⟨"g_name", .pointer (.named [] "char"),
        [⟨"o", .pointer (.named ["const"] "GObject")⟩, ⟨"x", .named ["volatile"] "unsigned long"⟩,
          ⟨"", .pointer (.pointer (.named [] "T"))⟩, ⟨"it", .named [] "int"⟩]⟩
    let stub := "pub fn name(it: *Self, x: volatile c_ulong, arg2: **T, arg3: c_int) *char "
      ++ "\x7b\n\treturn c.gi.g_name(it.raw, x, arg2, arg3);\n\x7d"
    let declared := cutAtText [',', ' '] (declaredList stub.toList)
    let arguments := cutAtText [',', ' '] (argumentList stub.toList)
    signature ∈ (Source.readHeader {} source).value.functions ∧ IsUnmarkedStyle style ∧
      render style signature = .ok stub ∧ declared.length = 4 ∧ arguments.length = 4 ∧
      declared[0]? = some "it: *Self".toList ∧ arguments[0]? = some "it.raw".toList ∧
      ∃ piece argument depth qualifiers base,
        declared[2]? = some piece ∧ arguments[2]? = some argument ∧
        CType.pointer (.pointer (.named [] "T")) = .behindPointers depth (.named qualifiers base) ∧
        cutAtText [':', ' '] piece
          = [argument, (CType.rendered style.types depth qualifiers base).toList] := by
  intro source style signature stub declared arguments
  have hread : signature ∈ (Source.readHeader {} source).value.functions := by decide +kernel
  have hstyle : IsUnmarkedStyle style :=
    ⟨by decide +kernel, by decide +kernel, by decide +kernel, by decide +kernel, by decide +kernel⟩
  have hrender : render style signature = .ok stub := by decide +kernel
  obtain ⟨hdeclared, harguments, hreceiver, hhandle, hentries, -⟩ :=
    stub_lists_agree hread hstyle hrender
  exact ⟨hread, hstyle, hrender, hdeclared, harguments, hreceiver, hhandle,
    hentries 1 ⟨"", .pointer (.pointer (.named [] "T"))⟩ rfl⟩

end Wrapper

end HeaderBindings
