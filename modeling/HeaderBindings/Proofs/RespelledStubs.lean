import HeaderBindings.Proofs.StubText
import HeaderBindings.Proofs.TypePlaces

/-!
What happens to a stub when a builtin type of its declaration is spelled in another way. The types of
a stub can be read back from its text, so the stub stays the same, up to the order of the qualifiers,
exactly if the map has one name for both spellings. Nothing shows of the type of the first parameter,
which is replaced, and of any type of a declaration without a stub.
-/

namespace HeaderBindings

/-! ### The order of the qualifiers -/

/-- Types that are the same but for the order of their qualifiers. -/
inductive CType.SameUpToOrder : CType → CType → Prop
  | named {qualifiers others : List String} (h : qualifiers.Perm others) (name : String) :
      SameUpToOrder (.named qualifiers name) (.named others name)
  | pointer {first second : CType} (h : SameUpToOrder first second) :
      SameUpToOrder (.pointer first) (.pointer second)
  | unsupported (shape : String) : SameUpToOrder (.unsupported shape) (.unsupported shape)

structure Parameter.SameUpToOrder (first second : Parameter) : Prop where
  name : first.name = second.name
  type : first.type.SameUpToOrder second.type

/-- Declarations that are the same but for the order of the qualifiers in their types. -/
structure Signature.SameUpToOrder (first second : Signature) : Prop where
  name : first.name = second.name
  returnType : first.returnType.SameUpToOrder second.returnType
  parameters : List.Forall₂ Parameter.SameUpToOrder first.parameters second.parameters

namespace CType

variable {first second : CType}

theorem SameUpToOrder.refl (type : CType) : type.SameUpToOrder type := by
  induction type with
  | named qualifiers name => exact .named (List.Perm.refl qualifiers) name
  | pointer pointee ih => exact .pointer ih
  | unsupported shape => exact .unsupported shape

theorem SameUpToOrder.isSupported (h : first.SameUpToOrder second) (hfirst : first.IsSupported) :
    second.IsSupported := by
  induction h with
  | named hperm name =>
      obtain ⟨hnodup, hqualifiers, hwords⟩ := hfirst
      exact ⟨hperm.nodup_iff.mp hnodup, fun word hmem => hqualifiers word (hperm.mem_iff.mpr hmem),
        hwords⟩
  | pointer h ih => exact ih hfirst
  | unsupported shape => exact hfirst

theorem SameUpToOrder.isRegular (h : first.SameUpToOrder second) (hfirst : first.IsRegular) :
    second.IsRegular := by
  rcases hfirst with ⟨shape, rfl⟩ | hsupported
  · cases h
    exact .inl ⟨shape, rfl⟩
  · exact .inr (h.isSupported hsupported)

theorem SameUpToOrder.behindPointers (h : first.SameUpToOrder second) (depth : Nat) :
    (behindPointers depth first).SameUpToOrder (behindPointers depth second) := by
  induction depth with
  | zero => exact h
  | succ depth ih => exact .pointer ih

/-- Only the qualifiers of a named type behind pointers can change places. -/
theorem SameUpToOrder.of_behindPointers {depth : Nat} {qualifiers : List String} {name : String}
    {type : CType} (h : (CType.behindPointers depth (.named qualifiers name)).SameUpToOrder type) :
    ∃ others, qualifiers.Perm others ∧ type = .behindPointers depth (.named others name) := by
  induction depth generalizing type with
  | zero =>
      cases h with
      | named hperm => exact ⟨_, hperm, rfl⟩
  | succ depth ih =>
      cases h with
      | pointer h =>
          obtain ⟨others, hperm, rfl⟩ := ih h
          exact ⟨others, hperm, rfl⟩

theorem toList_intercalate_concat (qualifiers : List String) (name : String) :
    (String.intercalate " " (qualifiers ++ [name])).toList
      = qualifiers.flatMap (fun word => word.toList ++ [' ']) ++ name.toList := by
  rw [String.toList_intercalate, List.map_append, List.map_singleton]
  induction qualifiers with
  | nil => simp
  | cons word rest ih =>
      rw [List.map_cons, List.cons_append, List.intercalate_cons_of_ne_nil (by simp), ih,
        List.flatMap_cons, List.append_assoc (word.toList ++ _)]
      rfl

/-- The name that a rendering shows stands behind as many characters in whatever order the qualifiers
are. -/
theorem map_eq_of_rendered_eq {types : TypeMap} {depth : Nat} {qualifiers others : List String}
    {name other : String} (hperm : qualifiers.Perm others)
    (h : rendered types depth qualifiers name = rendered types depth others other) :
    types.map name = types.map other := by
  have htext := congrArg String.toList h
  rw [rendered, rendered, String.toList_append, String.toList_append] at htext
  have hwords := List.append_cancel_left htext
  rw [toList_intercalate_concat, toList_intercalate_concat] at hwords
  have hlength := (hperm.flatMap fun word _ => List.Perm.refl (word.toList ++ [' '])).length_eq
  exact String.toList_inj.mp (List.append_inj hwords hlength).2

/-- Two named types behind pointers show the same name if they are rendered alike when the qualifiers
of one of them are put into another order. -/
theorem map_eq_of_render_eq {types : TypeMap} {depth : Nat} {qualifiers others : List String}
    {name other : String} {type : CType} (hperm : qualifiers.Perm others)
    (horder : (behindPointers depth (.named others other)).SameUpToOrder type)
    (h : (behindPointers depth (.named qualifiers name)).render types = type.render types) :
    types.map name = types.map other := by
  obtain ⟨reordered, hreordered, rfl⟩ := horder.of_behindPointers
  rw [render_eq_ok_iff.mpr ⟨depth, qualifiers, name, rfl, rfl⟩,
    render_eq_ok_iff.mpr ⟨depth, reordered, other, rfl, rfl⟩] at h
  exact map_eq_of_rendered_eq (hperm.trans hreordered) (Except.ok.inj h)

end CType

theorem Parameter.SameUpToOrder.refl (parameter : Parameter) : parameter.SameUpToOrder parameter :=
  ⟨rfl, .refl _⟩

theorem Parameter.SameUpToOrder.isRegular {first second : Parameter} (h : first.SameUpToOrder second)
    (hfirst : first.IsRegular) : second.IsRegular := by
  refine ⟨h.type.isRegular hfirst.type, fun hsupported => h.name ▸ hfirst.name fun shape heq => ?_⟩
  have htype := h.type
  rw [heq] at htype
  generalize hsecond : second.type = type at htype
  cases htype
  exact hsupported shape hsecond

theorem Signature.SameUpToOrder.refl (signature : Signature) : signature.SameUpToOrder signature :=
  ⟨rfl, .refl _, List.forall₂_same.mpr fun _ _ => .refl _⟩

theorem Signature.SameUpToOrder.isRegular {first second : Signature}
    (h : first.SameUpToOrder second) (hfirst : first.IsRegular) : second.IsRegular := by
  obtain ⟨hname, hreturn, hparameters⟩ := h
  refine ⟨hname ▸ hfirst.name, hreturn.isRegular hfirst.returnType, ?_⟩
  have hregular := hfirst.parameters
  generalize first.parameters = parameters at hparameters hregular
  generalize second.parameters = others at hparameters ⊢
  induction hparameters with
  | nil => simp
  | cons hsame _ ih =>
      obtain ⟨hparameter, hothers⟩ := List.forall_mem_cons.mp hregular
      exact List.forall_mem_cons.mpr ⟨hsame.isRegular hparameter, ih hothers⟩

theorem exists_getElem?_of_forall₂ {α β : Type} {R : α → β → Prop} {front back : List α} {a : α}
    {list : List β} (h : List.Forall₂ R (front ++ a :: back) list) :
    ∃ b, list[front.length]? = some b ∧ R a b := by
  induction front generalizing list with
  | nil =>
      cases h with
      | cons hfirst _ => exact ⟨_, rfl, hfirst⟩
  | cons first front ih =>
      cases h with
      | cons _ hrest => exact ih hrest

/-! ### Stubs -/

/-- Whether two declarations have the same stub up to the order of the qualifiers: with its
qualifiers in another order, the second one is rendered like the first. -/
def SameStub (first second : Signature) : Prop :=
  ∃ reordered, second.SameUpToOrder reordered ∧
    Wrapper.render {} reordered = Wrapper.render {} first

theorem Wrapper.isUnmarkedStyle_default : IsUnmarkedStyle {} :=
  ⟨by decide +kernel, by decide +kernel, by decide +kernel, by decide +kernel, by decide +kernel⟩

namespace TypeContext

variable {type other : CType}

theorem fill_sameUpToOrder (around : TypeContext) (h : type.SameUpToOrder other) :
    (around.fill type).SameUpToOrder (around.fill other) := by
  cases around with
  | pointers depth => exact h.behindPointers depth
  | shape description => exact .unsupported description

theorem render_fill_congr {types : TypeMap} (around : TypeContext)
    (h : type.render types = other.render types) :
    (around.fill type).render types = (around.fill other).render types := by
  cases around with
  | pointers depth =>
      induction depth with
      | zero => exact h
      | succ depth ih => exact congrArg (Except.map ("*" ++ ·)) ih
  | shape description => rfl

end TypeContext

namespace DeclarationContext

variable {style : WrapperStyle} {context : DeclarationContext} {type other : CType}

theorem fill_sameUpToOrder (h : type.SameUpToOrder other) :
    (context.fill type).SameUpToOrder (context.fill other) := by
  have hsame (parameters : List Parameter) :
      List.Forall₂ Parameter.SameUpToOrder parameters parameters :=
    List.forall₂_same.mpr fun _ _ => .refl _
  cases context with
  | returnType name around parameters =>
      exact ⟨rfl, around.fill_sameUpToOrder h, hsame parameters⟩
  | parameter name returned before own around behind =>
      exact ⟨rfl, .refl returned, List.rel_append (hsame before)
        (.cons ⟨rfl, around.fill_sameUpToOrder h⟩ (hsame behind))⟩

/-- A stub depends on a type only through what is shown of it. -/
theorem render_fill_congr (h : type.render style.types = other.render style.types) :
    Wrapper.render style (context.fill type) = Wrapper.render style (context.fill other) := by
  cases context with
  | returnType name around parameters =>
      simp only [fill, Wrapper.render, Wrapper.renderPart, around.render_fill_congr h]
  | parameter name returned before own around behind =>
      have haround := around.render_fill_congr h
      have hforwarded (index : Nat) (before : List Parameter) :
          Wrapper.forwarded style name index (before ++ ⟨own, around.fill type⟩ :: behind)
            = Wrapper.forwarded style name index (before ++ ⟨own, around.fill other⟩ :: behind) := by
        induction before generalizing index with
        | nil =>
            simp only [List.nil_append, Wrapper.forwarded, Wrapper.renderPart, haround,
              Wrapper.forwardedName]
        | cons parameter before ih =>
            simp only [List.cons_append, Wrapper.forwarded, ih]
      cases before with
      | nil => simp only [fill, List.nil_append, Wrapper.render, Wrapper.renderPart, haround]
      | cons replaced before =>
          simp only [fill, List.cons_append, Wrapper.render, hforwarded]

/-- What is reported of a declaration does not depend on a named type in it. -/
theorem render_fill_of_error {qualifiers others : List String} {name otherName : String}
    {error : WrapperError}
    (h : Wrapper.render style (context.fill (.named qualifiers name)) = .error error) :
    Wrapper.render style (context.fill (.named others otherName)) = .error error := by
  have haround (around : TypeContext) :
      (around.fill (.named qualifiers name)).unsupportedShape?
        = (around.fill (.named others otherName)).unsupportedShape? := by
    cases around with
    | pointers depth => simp [TypeContext.fill, CType.unsupportedShape?]
    | shape description => rfl
  rw [Wrapper.render_eq_error_iff] at h ⊢
  cases context with
  | returnType function around parameters =>
      refine Wrapper.Blames.congr ?_ ?_ ?_ h
      · rfl
      · exact haround around
      · rfl
  | parameter function returned before own around behind =>
      refine Wrapper.Blames.congr ?_ ?_ ?_ h
      · rfl
      · rfl
      · simp only [fill, List.map_append, List.map_cons, haround around]

/-- The type of the parameter that is replaced is not shown. -/
theorem render_fill_of_isReplaced {qualifiers others : List String} {name otherName : String}
    (h : context.IsReplaced) :
    Wrapper.render style (context.fill (.named qualifiers name))
      = Wrapper.render style (context.fill (.named others otherName)) := by
  cases context with
  | returnType function around parameters => exact h.elim
  | parameter function returned before own around behind =>
      obtain rfl : before = [] := h
      cases around with
      | shape description => rfl
      | pointers depth =>
          have hrendered (qualifiers : List String) (name : String) :
              ∃ text, Wrapper.renderPart style function (.parameter own 1)
                (.behindPointers depth (.named qualifiers name)) = .ok text :=
            ⟨_, Wrapper.renderPart_eq_ok_iff.mpr
              (CType.render_eq_ok_iff.mpr ⟨depth, qualifiers, name, rfl, rfl⟩)⟩
          obtain ⟨text, htext⟩ := hrendered qualifiers name
          obtain ⟨otherText, hother⟩ := hrendered others otherName
          simp only [fill, TypeContext.fill, List.nil_append, Wrapper.render, htext, hother]
          rfl

/-- No declaration with an unsupported shape at the place has a stub. -/
theorem render_fill_ne_ok (h : ∃ description, context.around = .shape description) (stub : String) :
    Wrapper.render style (context.fill type) ≠ .ok stub := by
  intro hrender
  obtain ⟨-, hreturn, hparameters⟩ := Wrapper.exists_render_iff.mp ⟨stub, hrender⟩
  obtain ⟨description, haround⟩ := h
  cases context with
  | returnType name around parameters =>
      obtain rfl : around = .shape description := haround
      cases hreturn
  | parameter name returned before own around behind =>
      obtain rfl : around = .shape description := haround
      cases hparameters _ (List.mem_append_right before List.mem_cons_self)

/-- Two stubs show the same name at a place that is shown. -/
theorem map_eq_of_sameStub {qualifiers others : List String} {name otherName stub : String}
    (hregular : (context.fill (.named qualifiers name)).IsRegular)
    (hotherRegular : (context.fill (.named others otherName)).IsRegular)
    (hperm : qualifiers.Perm others) (hshown : ¬context.IsReplaced)
    (hstub : Wrapper.render {} (context.fill (.named qualifiers name)) = .ok stub)
    (hsame : SameStub (context.fill (.named qualifiers name)) (context.fill (.named others otherName))) :
    TypeMap.builtin.map name = TypeMap.builtin.map otherName := by
  obtain ⟨reordered, horder, hrender⟩ := hsame
  rw [hstub] at hrender
  have hname : (context.fill (.named qualifiers name)).name = reordered.name := by
    rw [← horder.name]
    cases context <;> rfl
  obtain ⟨hreturn, hparameters⟩ := Wrapper.map_render_of_render_eq Wrapper.isUnmarkedStyle_default
    hregular (horder.isRegular hotherRegular) hname hstub hrender
  have hpointers : ∃ depth, context.around = .pointers depth := by
    cases haround : context.around with
    | pointers depth => exact ⟨depth, rfl⟩
    | shape description => exact absurd hstub (render_fill_ne_ok ⟨description, haround⟩ stub)
  obtain ⟨depth, haround⟩ := hpointers
  cases context with
  | returnType function around parameters =>
      obtain rfl : around = .pointers depth := haround
      exact CType.map_eq_of_render_eq hperm horder.returnType hreturn
  | parameter function returned before own around behind =>
      obtain rfl : around = .pointers depth := haround
      obtain ⟨replaced, before, rfl⟩ := List.exists_cons_of_ne_nil hshown
      obtain ⟨other, rest, -, hrest, hlist⟩ := List.forall₂_cons_left_iff.mp horder.parameters
      obtain ⟨shown, hat, hshown⟩ := exists_getElem?_of_forall₂ hrest
      have hsame : (CType.behindPointers depth (.named qualifiers name)).render TypeMap.builtin
          = shown.type.render TypeMap.builtin := by
        simpa [fill, TypeContext.fill, hlist, hat] using congrArg (·[before.length]?) hparameters
      exact CType.map_eq_of_render_eq hperm hshown.type hsame

/-- With the type of one place spelled in two ways, the stub is the same exactly if there is none, if
the place is not shown, or if the map has one name for both. -/
theorem sameStub_fill_iff {qualifiers others : List String} {name otherName : String}
    (hregular : (context.fill (.named qualifiers name)).IsRegular)
    (hotherRegular : (context.fill (.named others otherName)).IsRegular)
    (hperm : qualifiers.Perm others) :
    SameStub (context.fill (.named qualifiers name)) (context.fill (.named others otherName)) ↔
      (∀ stub, Wrapper.render {} (context.fill (.named qualifiers name)) ≠ .ok stub) ∨
        context.IsReplaced ∨ TypeMap.builtin.map name = TypeMap.builtin.map otherName := by
  constructor
  · intro hsame
    by_cases hreplaced : context.IsReplaced
    · exact .inr (.inl hreplaced)
    · cases hrender : Wrapper.render {} (context.fill (.named qualifiers name)) with
      | error error => exact .inl (by simp)
      | ok stub =>
          exact .inr (.inr
            (map_eq_of_sameStub hregular hotherRegular hperm hreplaced hrender hsame))
  · rintro (hnone | hreplaced | hmap)
    · cases hrender : Wrapper.render {} (context.fill (.named qualifiers name)) with
      | ok stub => exact absurd hrender (hnone stub)
      | error error =>
          exact ⟨_, .refl _, (render_fill_of_error hrender).trans hrender.symm⟩
    · exact ⟨_, .refl _, render_fill_of_isReplaced hreplaced⟩
    · refine ⟨context.fill (.named qualifiers otherName),
        fill_sameUpToOrder (.named hperm.symm otherName), render_fill_congr ?_⟩
      show Except.ok _ = Except.ok _
      rw [hmap]

end DeclarationContext

namespace Source

/-- Spelling a builtin type of a declaration in another way gives a declaration again, with the same
stub up to the order of the qualifiers exactly if there is no stub, if the type is that of the first
parameter, or if the map has both spellings or does not tell them apart. The words of the type are
all that stand in front of its stars. -/
theorem sameStub_respelled_iff {statement respelled : List Char} {before after : List Token}
    {words others : List String} {signature : Signature}
    (hread : declaration statement = .ok signature)
    (hwords : Token.read statement = before ++ words.map .word ++ after)
    (hothers : Token.read respelled = before ++ others.map .word ++ after)
    (hbefore : IsTypeStart before) (hafter : IsBehindSpecifiers after)
    (hspelling : IsRespelling words others) :
    ∃ other, declaration respelled = .ok other ∧
      (SameStub signature other ↔
        (∀ stub, Wrapper.render {} signature ≠ .ok stub) ∨ before.getLast? = some .openParen ∨
          baseName words = baseName others ∨ IsMapped words ∧ IsMapped others) := by
  obtain ⟨hspecifiers, hotherSpecifiers⟩ := hspelling.isSpecifierWords
  by_cases hvoid : words = ["void"]
  · -- A list of `void` only has no parameters, and `void` is spelled in one way.
    subst hvoid
    obtain rfl := hspelling.eq_void
    have hsame : declaration respelled = declaration statement := by
      rw [declaration, declaration, hwords, hothers]
    exact ⟨signature, hsame.trans hread,
      iff_of_true ⟨signature, .refl _, rfl⟩ (.inr (.inr (.inl rfl)))⟩
  · have hotherVoid : others ≠ ["void"] := by
      rintro rfl
      exact hvoid hspelling.symm.eq_void
    have htokens : declarationOfTokens (before ++ words.map .word ++ after) = .ok signature := by
      rw [← hwords]
      exact hread
    obtain ⟨context, hplace, hcontext⟩ := exists_context hbefore hafter hspecifiers htokens
    have hsignature := hcontext words hspecifiers hvoid
    have hother := hcontext others hotherSpecifiers hotherVoid
    rw [← hwords] at hsignature
    rw [← hothers] at hother
    obtain rfl := Except.ok.inj (hread.symm.trans hsignature)
    have hiff := context.sameStub_fill_iff (isRegular_of_declaration hsignature)
      (isRegular_of_declaration hother) hspelling.perm_qualifiersOf
    rw [hspelling.map_baseName_iff] at hiff
    refine ⟨_, hother, hiff.trans ?_⟩
    rcases hplace with hshape | hreplaced
    · have hnone (stub : String) :
          Wrapper.render {} (context.fill (typeOfWords words)) ≠ .ok stub :=
        DeclarationContext.render_fill_ne_ok hshape stub
      exact iff_of_true (.inl hnone) (.inl hnone)
    · rw [hreplaced]
      rfl

/-- The words of `unsigned long int` with a qualifier among them, in front of a star. -/
theorem sameStub_respelled_qualified :
    let statement := "void g_f(GObject *o, const unsigned long int *n)".toList
    let respelled := "void g_f(GObject *o, unsigned const long *n)".toList
    let words := ["const", "unsigned", "long", "int"]
    let others := ["unsigned", "const", "long"]
    let before := (Token.read statement).take 7
    let after : List Token := [.star, .word "n", .closeParen]
    let signature : Signature :=
      ⟨"g_f", .named [] "void", [⟨"o", .pointer (.named [] "GObject")⟩,
        ⟨"n", .pointer (.named ["const"] "unsigned long int")⟩]⟩
    declaration statement = .ok signature ∧
      Token.read statement = before ++ words.map .word ++ after ∧
      Token.read respelled = before ++ others.map .word ++ after ∧
      IsTypeStart before ∧ IsBehindSpecifiers after ∧ IsRespelling words others ∧
      IsMapped words ∧ IsMapped others ∧
      ∃ other, declaration respelled = .ok other ∧ SameStub signature other := by
  intro statement respelled words others before after signature
  have hread : declaration statement = .ok signature := by decide +kernel
  have hwords : Token.read statement = before ++ words.map .word ++ after := by decide +kernel
  have hothers : Token.read respelled = before ++ others.map .word ++ after := by decide +kernel
  have hbefore : IsTypeStart before := by decide +kernel
  have hafter : IsBehindSpecifiers after := by decide +kernel
  have hspelling : IsRespelling words others := by decide +kernel
  have hmapped : IsMapped words ∧ IsMapped others := by decide +kernel
  obtain ⟨other, hother, hsame⟩ :=
    sameStub_respelled_iff hread hwords hothers hbefore hafter hspelling
  exact ⟨hread, hwords, hothers, hbefore, hafter, hspelling, hmapped.1, hmapped.2, other, hother,
    hsame.mpr (.inr (.inr (.inr hmapped)))⟩

/-- The map has `unsigned long`, but not `long unsigned int`. -/
theorem long_unsigned_int_has_other_stub :
    let statement := "void g_f(GObject *o, unsigned long n)".toList
    let respelled := "void g_f(GObject *o, long unsigned int n)".toList
    let words := ["unsigned", "long"]
    let others := ["long", "unsigned", "int"]
    let before := (Token.read statement).take 7
    let after : List Token := [.word "n", .closeParen]
    Token.read statement = before ++ words.map .word ++ after ∧
      Token.read respelled = before ++ others.map .word ++ after ∧
      IsTypeStart before ∧ IsBehindSpecifiers after ∧ IsRespelling words others ∧
      ∃ signature other, declaration statement = .ok signature ∧
        declaration respelled = .ok other ∧ ¬SameStub signature other := by
  intro statement respelled words others before after
  let context : DeclarationContext :=
    .parameter "g_f" (.named [] "void") [⟨"o", .pointer (.named [] "GObject")⟩] "n" (.pointers 0) []
  have hread : declaration statement = .ok (context.fill (.named [] "unsigned long")) := by
    decide +kernel
  have hother : declaration respelled = .ok (context.fill (.named [] "long unsigned int")) := by
    decide +kernel
  have hstub : Wrapper.render {} (context.fill (.named [] "unsigned long"))
      = .ok "pub fn f(self: Self, n: c_ulong) void \x7b\n\treturn C.g_f(self.raw, n);\n\x7d" := by
    decide +kernel
  have hbefore : IsTypeStart before := by decide +kernel
  have hafter : IsBehindSpecifiers after := by decide +kernel
  have hspelling : IsRespelling words others := by decide +kernel
  refine ⟨by decide +kernel, by decide +kernel, hbefore, hafter, hspelling, _, _, hread, hother,
    fun hsame => ?_⟩
  have hmap := context.map_eq_of_sameStub (isRegular_of_declaration hread)
    (isRegular_of_declaration hother) (List.Perm.refl []) (List.cons_ne_nil _ _) hstub hsame
  exact absurd hmap (by decide +kernel)

end Source

end HeaderBindings
