import HeaderBindings.Proofs.Rendering

/-!
Which error is reported. Going through a list with a function that can fail ends at the first item on
which it fails, and so does rendering a declaration. The return type is looked at first, then whether
there is a parameter to replace, then the parameters in order, the replaced one included. What is
reported of a type is the shape that stands in it, behind any number of pointers and whatever the
style.
-/

namespace HeaderBindings

section
variable {α β ε : Type} {f : α → Except ε β}

theorem bind_eq_error_iff {first : Except ε α} {error : ε} :
    (first >>= f) = .error error ↔
      first = .error error ∨ ∃ value, first = .ok value ∧ f value = .error error := by
  cases first with
  | error found =>
      constructor
      · rintro ⟨⟩
        exact .inl rfl
      · rintro (⟨⟨⟩⟩ | ⟨value, ⟨⟩, -⟩)
        rfl
  | ok value =>
      constructor
      · exact fun h => .inr ⟨value, rfl, h⟩
      · rintro (⟨⟨⟩⟩ | ⟨_, ⟨⟩, h⟩)
        exact h

/-- An error at any position is an error of the whole, and the first one is reported. -/
theorem exists_mapM_eq_error {item : α} {error : ε} (h : f item = .error error)
    (before rest : List α) :
    ∃ reported, (before ++ item :: rest).mapM f = .error reported ∧
      ((∀ other ∈ before, ∃ result, f other = .ok result) → reported = error) := by
  induction before with
  | nil =>
      refine ⟨error, ?_, fun _ => rfl⟩
      rw [List.nil_append, List.mapM_cons, h]
      rfl
  | cons first before ih =>
      rw [List.cons_append, List.mapM_cons]
      cases hfirst : f first with
      | error other =>
          refine ⟨other, rfl, fun hok => ?_⟩
          obtain ⟨result, hresult⟩ := hok first List.mem_cons_self
          rw [hfirst] at hresult
          cases hresult
      | ok result =>
          obtain ⟨reported, hreported, hfirstError⟩ := ih
          refine ⟨reported, ?_, fun hok => hfirstError fun other hmem =>
            hok other (List.mem_cons_of_mem first hmem)⟩
          rw [hreported]
          rfl

/-- The error of a list is that of the first item with one. -/
theorem mapM_eq_error_iff {items : List α} {error : ε} :
    items.mapM f = .error error ↔
      ∃ before item behind, items = before ++ item :: behind ∧
        (∀ other ∈ before, ∃ result, f other = .ok result) ∧ f item = .error error := by
  constructor
  · intro h
    induction items with
    | nil => cases h
    | cons first rest ih =>
        rw [List.mapM_cons] at h
        cases hfirst : f first with
        | error found =>
            rw [hfirst] at h
            obtain rfl := Except.error.inj h
            exact ⟨[], first, rest, rfl, by simp, hfirst⟩
        | ok result =>
            cases hrest : rest.mapM f with
            | ok results =>
                rw [hfirst, hrest] at h
                cases h
            | error found =>
                rw [hfirst, hrest] at h
                obtain rfl := Except.error.inj h
                obtain ⟨before, item, behind, rfl, hbefore, hitem⟩ := ih hrest
                exact ⟨first :: before, item, behind, rfl,
                  List.forall_mem_cons.mpr ⟨⟨result, hfirst⟩, hbefore⟩, hitem⟩
  · rintro ⟨before, item, behind, rfl, hbefore, hitem⟩
    obtain ⟨reported, hreported, hfirst⟩ := exists_mapM_eq_error hitem before behind
    rw [hreported, hfirst hbefore]

end

/-! ### Types -/

theorem CType.render_eq_error_iff {types : TypeMap} {type : CType} {shape : String} :
    type.render types = .error shape ↔ type.unsupportedShape? = some shape := by
  induction type with
  | named qualifiers name => simp [render, unsupportedShape?]
  | pointer pointee ih =>
      rw [unsupportedShape?, ← ih, render]
      cases pointee.render types with
      | error found => exact Iff.rfl
      | ok text => simp [Except.map]
  | unsupported found => simp [render, unsupportedShape?]

theorem CType.exists_render_iff {types : TypeMap} {type : CType} :
    (∃ text, type.render types = .ok text) ↔ type.unsupportedShape? = none := by
  cases hrender : type.render types with
  | error shape => simp [render_eq_error_iff.mp hrender]
  | ok text =>
      have hnone : type.unsupportedShape? = none := by
        rw [Option.eq_none_iff_forall_ne_some]
        intro shape hshape
        rw [render_eq_error_iff.mpr hshape] at hrender
        cases hrender
      simp [hnone]

namespace Wrapper

variable {style : WrapperStyle} {function : String} {part : DeclarationPart} {type : CType}

theorem renderPart_eq_error_iff {error : WrapperError} :
    renderPart style function part type = .error error ↔
      ∃ shape, type.unsupportedShape? = some shape ∧
        error = .unsupportedType function part shape := by
  have hshape {shape : String} : type.unsupportedShape? = some shape ↔
      type.render style.types = .error shape := CType.render_eq_error_iff.symm
  simp only [hshape, renderPart]
  cases type.render style.types with
  | error found =>
      show Except.error (.unsupportedType function part found) = .error error ↔ _
      simp [eq_comm]
  | ok text =>
      show Except.ok text = .error error ↔ _
      simp

/-! ### Parameters -/

/-- The type of a parameter at a position, counted from 0, in the generated source. -/
def renderEntry (style : WrapperStyle) (function : String) (entry : Parameter × Nat) :
    Except WrapperError String :=
  renderPart style function (.parameter entry.1.name (entry.2 + 1)) entry.1.type

/-- The parameters are rendered one by one. -/
theorem forwarded_eq_mapM (style : WrapperStyle) (function : String) (index : Nat)
    (parameters : List Parameter) :
    forwarded style function index parameters
      = ((parameters.zipIdx index).mapM (renderEntry style function)).map
          (forwardedNames style index parameters).zip := by
  induction parameters generalizing index with
  | nil => rfl
  | cons parameter rest ih =>
      rw [forwarded, ih, List.zipIdx_cons, List.mapM_cons, renderEntry]
      cases renderPart style function (.parameter parameter.name (index + 1)) parameter.type with
      | error error => rfl
      | ok text =>
          cases (rest.zipIdx (index + 1)).mapM (renderEntry style function) with
          | error error => rfl
          | ok texts => rfl

theorem mapM_renderEntry_eq_error_iff {index : Nat} {parameters : List Parameter}
    {error : WrapperError} :
    (parameters.zipIdx index).mapM (renderEntry style function) = .error error ↔
      ∃ before parameter behind shape, parameters = before ++ parameter :: behind ∧
        (∀ other ∈ before, other.type.unsupportedShape? = none) ∧
        parameter.type.unsupportedShape? = some shape ∧
        error = .unsupportedType function
          (.parameter parameter.name (index + before.length + 1)) shape := by
  have hok (before : List Parameter) (position : Nat) :
      (∀ other ∈ before.zipIdx position, ∃ text, renderEntry style function other = .ok text) ↔
        ∀ other ∈ before, other.type.unsupportedShape? = none := by
    simp only [renderEntry, renderPart_eq_ok_iff, CType.exists_render_iff]
    rw [← List.forall_mem_map (f := Prod.fst)
      (P := fun other : Parameter => other.type.unsupportedShape? = none), List.zipIdx_map_fst]
  rw [mapM_eq_error_iff]
  constructor
  · rintro ⟨first, entry, rest, hsplit, hfirst, hentry⟩
    obtain ⟨before, others, rfl, rfl, hothers⟩ := List.zipIdx_eq_append_iff.mp hsplit
    obtain ⟨parameter, behind, rfl, rfl, rfl⟩ := List.zipIdx_eq_cons_iff.mp hothers.symm
    obtain ⟨shape, hshape, rfl⟩ := renderPart_eq_error_iff.mp hentry
    exact ⟨before, parameter, behind, shape, rfl, (hok before index).mp hfirst, hshape, rfl⟩
  · rintro ⟨before, parameter, behind, shape, rfl, hbefore, hshape, rfl⟩
    rw [List.zipIdx_append, List.zipIdx_cons]
    exact ⟨_, _, _, rfl, (hok before index).mpr hbefore,
      renderPart_eq_error_iff.mpr ⟨shape, hshape, rfl⟩⟩

/-! ### Declarations -/

/-- A declaration is rendered as its types are, in order, if there is a parameter to replace. -/
theorem render_eq (style : WrapperStyle) (signature : Signature) :
    render style signature = (do
      let returnType ← renderPart style signature.name .returnType signature.returnType
      if signature.parameters = [] then .error (.missingReceiver signature.name)
      else do
        let types ← signature.parameters.zipIdx.mapM (renderEntry style signature.name)
        pure (stubText style signature.name returnType
          ((forwardedNames style 1 signature.parameters.tail).zip types.tail))) := by
  rw [render]
  cases renderPart style signature.name .returnType signature.returnType with
  | error error => rfl
  | ok returnType =>
      cases hparameters : signature.parameters with
      | nil => rfl
      | cons replaced others =>
          simp only [List.zipIdx_cons, List.mapM_cons, forwarded_eq_mapM, renderEntry]
          cases renderPart style signature.name (.parameter replaced.name (0 + 1)) replaced.type with
          | error error => rfl
          | ok text =>
              cases (others.zipIdx (0 + 1)).mapM (renderEntry style signature.name) with
              | error error => rfl
              | ok texts => rfl

/-- What is reported of a declaration without a stub: an unsupported return type first, then that
there is no parameter to replace, then the first parameter of an unsupported type. -/
inductive Blames (signature : Signature) : WrapperError → Prop where
  | returnType {shape : String} (hreturn : signature.returnType.unsupportedShape? = some shape) :
      Blames signature (.unsupportedType signature.name .returnType shape)
  | noReceiver (hreturn : signature.returnType.unsupportedShape? = none)
      (hnone : signature.parameters = []) : Blames signature (.missingReceiver signature.name)
  | parameter {before behind : List Parameter} {parameter : Parameter} {shape : String}
      (hreturn : signature.returnType.unsupportedShape? = none)
      (hparameters : signature.parameters = before ++ parameter :: behind)
      (hbefore : ∀ other ∈ before, other.type.unsupportedShape? = none)
      (hshape : parameter.type.unsupportedShape? = some shape) :
      Blames signature (.unsupportedType signature.name
        (.parameter parameter.name (before.length + 1)) shape)

/-- What is reported does not depend on the types that have a rendering. -/
theorem Blames.congr {first second : Signature} {error : WrapperError}
    (hname : first.name = second.name)
    (hreturn : first.returnType.unsupportedShape? = second.returnType.unsupportedShape?)
    (hparameters : first.parameters.map (fun parameter =>
        (parameter.name, parameter.type.unsupportedShape?))
      = second.parameters.map fun parameter =>
        (parameter.name, parameter.type.unsupportedShape?))
    (h : Blames first error) : Blames second error := by
  cases h with
  | returnType hshape =>
      rw [hname]
      exact .returnType (hreturn ▸ hshape)
  | noReceiver hnone hempty =>
      rw [hname]
      rw [hempty, List.map_nil] at hparameters
      exact .noReceiver (hreturn ▸ hnone) (List.map_eq_nil_iff.mp hparameters.symm)
  | @parameter before behind parameter shape hnone hsplit hbefore hshape =>
      rw [hsplit, List.map_append, List.map_cons] at hparameters
      obtain ⟨front, rest, hsecond, hfront, hrest⟩ := List.map_eq_append_iff.mp hparameters.symm
      obtain ⟨other, back, rfl, hother, -⟩ := List.map_eq_cons_iff.mp hrest
      obtain ⟨hsame, hsameShape⟩ := Prod.mk.inj hother
      have hlength : front.length = before.length := by
        simpa using congrArg List.length hfront
      rw [hname, ← hsame, ← hlength]
      refine .parameter (hreturn ▸ hnone) hsecond (fun item hmem => ?_) (hsameShape.trans hshape)
      have hshapes : (item.name, item.type.unsupportedShape?) ∈ before.map fun parameter =>
          (parameter.name, parameter.type.unsupportedShape?) :=
        hfront ▸ List.mem_map_of_mem hmem
      obtain ⟨first, hfirst, heq⟩ := List.mem_map.mp hshapes
      exact (Prod.mk.inj heq).2.symm.trans (hbefore first hfirst)

theorem render_eq_error_iff {signature : Signature} {error : WrapperError} :
    render style signature = .error error ↔ Blames signature error := by
  rw [render_eq, bind_eq_error_iff, renderPart_eq_error_iff]
  constructor
  · rintro (⟨shape, hshape, rfl⟩ | ⟨returnType, hrendered, herror⟩)
    · exact .returnType hshape
    · have hreturn := CType.exists_render_iff.mp ⟨returnType, renderPart_eq_ok_iff.mp hrendered⟩
      split at herror
      case isTrue hnone =>
        obtain rfl := Except.error.inj herror
        exact .noReceiver hreturn hnone
      case isFalse =>
        rcases bind_eq_error_iff.mp herror with htypes | ⟨types, -, hstub⟩
        · obtain ⟨before, parameter, behind, shape, hparameters, hbefore, hshape, rfl⟩ :=
            mapM_renderEntry_eq_error_iff.mp htypes
          rw [Nat.zero_add]
          exact .parameter hreturn hparameters hbefore hshape
        · cases hstub
  · have hrendered (hreturn : signature.returnType.unsupportedShape? = none) :
        ∃ text, renderPart style signature.name .returnType signature.returnType = .ok text := by
      obtain ⟨text, htext⟩ := CType.exists_render_iff.mpr hreturn
      exact ⟨text, renderPart_eq_ok_iff.mpr htext⟩
    rintro (⟨hreturn⟩ | ⟨hreturn, hnone⟩ | ⟨hreturn, hparameters, hbefore, hshape⟩)
    · exact .inl ⟨_, hreturn, rfl⟩
    · obtain ⟨text, htext⟩ := hrendered hreturn
      exact .inr ⟨text, htext, by rw [if_pos hnone]⟩
    · obtain ⟨text, htext⟩ := hrendered hreturn
      refine .inr ⟨text, htext, ?_⟩
      rw [if_neg (by simp [hparameters]), bind_eq_error_iff, mapM_renderEntry_eq_error_iff]
      exact .inl ⟨_, _, _, _, hparameters, hbefore, hshape, by rw [Nat.zero_add]⟩

/-- Every type of a declaration with a stub has a rendering, and there is a first parameter to
replace; and nothing more is needed. -/
theorem exists_render_iff {signature : Signature} :
    (∃ stub, render style signature = .ok stub) ↔
      signature.parameters ≠ [] ∧ signature.returnType.unsupportedShape? = none ∧
        ∀ parameter ∈ signature.parameters, parameter.type.unsupportedShape? = none := by
  constructor
  · rintro ⟨stub, h⟩
    obtain ⟨returnType, replaced, others, types, hreturn, hparameters, hreplaced, hothers, -⟩ :=
      exists_of_render h
    rw [hparameters]
    refine ⟨List.cons_ne_nil _ _, CType.exists_render_iff.mp ⟨_, hreturn⟩, ?_⟩
    refine List.forall_mem_cons.mpr ⟨CType.exists_render_iff.mp hreplaced, fun parameter hmem => ?_⟩
    have hrendered : parameter.type.render style.types ∈ types.map .ok :=
      hothers ▸ List.mem_map_of_mem hmem
    obtain ⟨text, -, htext⟩ := List.mem_map.mp hrendered
    exact CType.exists_render_iff.mp ⟨text, htext.symm⟩
  · rintro ⟨hne, hreturn, hparameters⟩
    cases hrender : render style signature with
    | ok stub => exact ⟨stub, rfl⟩
    | error error =>
        -- Nothing of the declaration is to blame.
        have hblames := render_eq_error_iff.mp hrender
        cases hblames with
        | returnType hshape => simp [hreturn] at hshape
        | noReceiver _ hnone => exact absurd hnone hne
        | parameter _ hsplit _ hshape =>
            have hmem := hparameters _ (hsplit ▸ List.mem_append_right _ List.mem_cons_self)
            simp [hmem] at hshape

/-- A stub is rendered exactly if there is a parameter to replace and no type of the declaration has
an unsupported shape, and otherwise the first of these is the error, in the order in which they are
looked at, whatever the style. A parameter is named in it, or counted from 1 if it has no name. -/
theorem render_blames_first (style : WrapperStyle) (signature : Signature) :
    ((∃ stub, render style signature = .ok stub) ↔
      signature.parameters ≠ [] ∧ signature.returnType.unsupportedShape? = none ∧
        ∀ parameter ∈ signature.parameters, parameter.type.unsupportedShape? = none) ∧
    (∀ error, render style signature = .error error ↔ Blames signature error) ∧
    ∀ name position, (DeclarationPart.parameter name position).describe
      = if name = "" then "parameter #" ++ toString position else "parameter `" ++ name ++ "`" := by
  refine ⟨exists_render_iff, fun error => render_eq_error_iff, fun name position => ?_⟩
  simp only [DeclarationPart.describe, String.isEmpty_iff]

end Wrapper

end HeaderBindings
