import HeaderBindings.Wrapper

/-!
What a rendered stub consists of. A type has a rendering exactly when it is a base name behind
pointers, and a stub is rendered exactly when every type of the declaration has one and there is a
first parameter to replace. Its list of parameters then declares the receiver and one name for each
of the other parameters, and its call hands on the same names in the same order.
-/

namespace HeaderBindings

/-! ### Types -/

/-- The rendering of a base name with qualifiers behind pointers. -/
def CType.rendered (types : TypeMap) (depth : Nat) (qualifiers : List String) (name : String) :
    String :=
  String.ofList (List.replicate depth '*')
    ++ String.intercalate " " (qualifiers ++ [types.map name])

theorem CType.render_eq_ok_iff {types : TypeMap} {type : CType} {text : String} :
    type.render types = .ok text ↔
      ∃ depth qualifiers name, type = .behindPointers depth (.named qualifiers name) ∧
        text = rendered types depth qualifiers name := by
  constructor
  · intro h
    induction type generalizing text with
    | named qualifiers name =>
        obtain rfl := Except.ok.inj h
        exact ⟨0, qualifiers, name, rfl, by simp [rendered]⟩
    | pointer pointee ih =>
        cases hpointee : pointee.render types with
        | error shape =>
            rw [render, hpointee] at h
            cases h
        | ok inner =>
            obtain ⟨depth, qualifiers, name, rfl, rfl⟩ := ih hpointee
            rw [render, hpointee] at h
            obtain rfl := Except.ok.inj h
            refine ⟨depth + 1, qualifiers, name, rfl, ?_⟩
            apply String.toList_inj.mp
            simp [rendered, List.replicate_succ]
    | unsupported => cases h
  · rintro ⟨depth, qualifiers, name, rfl, rfl⟩
    induction depth with
    | zero => simp [behindPointers, render, rendered]
    | succ depth ih =>
        rw [behindPointers, render, ih]
        refine congrArg Except.ok (String.toList_inj.mp ?_)
        simp [rendered, List.replicate_succ]

namespace Wrapper

theorem renderPart_eq_ok_iff {style : WrapperStyle} {function : String} {part : DeclarationPart}
    {type : CType} {text : String} :
    renderPart style function part type = .ok text ↔ type.render style.types = .ok text := by
  rw [renderPart]
  cases type.render style.types with
  | ok rendered =>
      constructor
      · intro h
        rw [Except.ok.inj h]
      · intro h
        rw [Except.ok.inj h]
        rfl
  | error shape =>
      constructor
      · intro h
        cases h
      · intro h
        cases h

/-! ### Parameters -/

/-- The names under which parameters are forwarded when `index` is the position of the first of
them. -/
def forwardedNames (style : WrapperStyle) (index : Nat) (parameters : List Parameter) :
    List String :=
  (parameters.zipIdx index).map fun (parameter, position) => forwardedName style position parameter

@[simp] theorem length_forwardedNames (style : WrapperStyle) (index : Nat)
    (parameters : List Parameter) :
    (forwardedNames style index parameters).length = parameters.length := by
  simp [forwardedNames]

/-- Parameters are forwarded when each of their types has a rendering, under their names and with
these renderings. -/
theorem exists_of_forwarded {style : WrapperStyle} {function : String} {index : Nat}
    {parameters : List Parameter} {entries : List (String × String)}
    (h : forwarded style function index parameters = .ok entries) :
    ∃ types, parameters.map (·.type.render style.types) = types.map .ok ∧
      entries = (forwardedNames style index parameters).zip types := by
  induction parameters generalizing index entries with
  | nil =>
      obtain rfl := Except.ok.inj h
      exact ⟨[], rfl, rfl⟩
  | cons parameter rest ih =>
      rw [forwarded] at h
      cases hpart : renderPart style function (.parameter parameter.name (index + 1))
          parameter.type with
      | error error =>
          rw [hpart] at h
          cases h
      | ok text =>
          cases hrest : forwarded style function (index + 1) rest with
          | error error =>
              rw [hpart, hrest] at h
              cases h
          | ok others =>
              rw [hpart, hrest] at h
              obtain rfl := Except.ok.inj h
              obtain ⟨types, htypes, rfl⟩ := ih hrest
              refine ⟨text :: types, ?_, rfl⟩
              rw [List.map_cons, List.map_cons, htypes, renderPart_eq_ok_iff.mp hpart]

/-! ### Stubs -/

/-- The text of a stub with its list of parameters and the list of arguments of its call. -/
theorem stubText_zip (style : WrapperStyle) (function returnType : String)
    {names types : List String} (h : types.length = names.length) :
    stubText style function returnType (names.zip types)
      = "pub fn " ++ name style.stripPrefixes function ++ "("
        ++ String.intercalate ", "
          (List.zipWith (fun name type => name ++ ": " ++ type) (style.receiver :: names)
            (style.receiverType :: types))
        ++ ") "
        ++ (returnType ++ " \x7b\n\treturn " ++ style.space ++ "." ++ function ++ "("
          ++ String.intercalate ", " ((style.receiver ++ "." ++ style.rawField) :: names)
          ++ ");\n\x7d") := by
  have hdeclared : ((style.receiver, style.receiverType) :: names.zip types).map
        (fun entry => entry.1 ++ ": " ++ entry.2)
      = List.zipWith (fun name type => name ++ ": " ++ type) (style.receiver :: names)
          (style.receiverType :: types) := by
    rw [← List.zip_cons_cons, List.map_zip_eq_zipWith]
    rfl
  have hforwarded : (names.zip types).map (·.1) = names := List.map_fst_zip (Nat.le_of_eq h.symm)
  unfold stubText
  simp only
  rw [hdeclared, hforwarded]
  simp only [String.append_assoc]

/-- A stub is the text of the forwarded names with the renderings of their types, behind the
receiver in place of the first parameter. -/
theorem exists_of_render {style : WrapperStyle} {signature : Signature} {stub : String}
    (h : render style signature = .ok stub) :
    ∃ returnType replaced others types,
      signature.returnType.render style.types = .ok returnType ∧
      signature.parameters = replaced :: others ∧
      (∃ text, replaced.type.render style.types = .ok text) ∧
      others.map (·.type.render style.types) = types.map .ok ∧
      stub = stubText style signature.name returnType
        ((forwardedNames style 1 others).zip types) := by
  rw [render] at h
  cases hreturn : renderPart style signature.name .returnType signature.returnType with
  | error error =>
      rw [hreturn] at h
      cases h
  | ok returnType =>
      rw [hreturn] at h
      cases hparameters : signature.parameters with
      | nil =>
          rw [hparameters] at h
          cases h
      | cons replaced others =>
          rw [hparameters] at h
          cases hreplaced : renderPart style signature.name (.parameter replaced.name 1)
              replaced.type with
          | error error =>
              simp only [hreplaced] at h
              cases h
          | ok text =>
              cases hothers : forwarded style signature.name 1 others with
              | error error =>
                  simp only [hreplaced, hothers] at h
                  cases h
              | ok entries =>
                  simp only [hreplaced, hothers] at h
                  obtain rfl := Except.ok.inj h
                  obtain ⟨types, htypes, rfl⟩ := exists_of_forwarded hothers
                  exact ⟨returnType, replaced, others, types, renderPart_eq_ok_iff.mp hreturn, rfl,
                    ⟨text, renderPart_eq_ok_iff.mp hreplaced⟩, htypes, rfl⟩

end Wrapper

end HeaderBindings
