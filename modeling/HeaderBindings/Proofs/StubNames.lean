import HeaderBindings.Proofs.Rendering
import Mathlib

/-!
The names that a stub declares for its parameters. A parameter keeps its name unless it has none or
shadows the receiver; then it is named after its position. Nothing keeps such a positional name away
from the names that other parameters keep, nor from the receiver, and this is the only way in which
two parameters of a stub come to have the same name.
-/

namespace HeaderBindings.Wrapper

/-- Whether a parameter is forwarded under a name made of its position. -/
def isPositional (style : WrapperStyle) (parameter : Parameter) : Bool :=
  parameter.name.isEmpty || parameter.name == style.receiver

/-- The names that a stub declares: the receiver, then one for each parameter after the first. -/
def declaredNames (style : WrapperStyle) (signature : Signature) : List String :=
  style.receiver :: forwardedNames style 1 signature.parameters.tail

/-- The names made of the positions of parameters, when `index` is the position of the first of
them. -/
def positionalNames (style : WrapperStyle) (index : Nat) (parameters : List Parameter) :
    List String :=
  ((parameters.zipIdx index).filter fun entry => isPositional style entry.1).map
    fun entry => "arg" ++ toString entry.2

/-- The names that parameters keep. -/
def keptNames (style : WrapperStyle) (parameters : List Parameter) : List String :=
  (parameters.filter (!isPositional style ·)).map (·.name)

/-! ### Positional and kept names -/

theorem forwardedName_of_isPositional {style : WrapperStyle} {parameter : Parameter}
    (h : isPositional style parameter = true) (index : Nat) :
    forwardedName style index parameter = "arg" ++ toString index := if_pos h

theorem forwardedName_of_not_isPositional {style : WrapperStyle} {parameter : Parameter}
    (h : isPositional style parameter = false) (index : Nat) :
    forwardedName style index parameter = parameter.name := if_neg (Bool.eq_false_iff.mp h)

/-- Up to order, the forwarded names are the positional names and the kept ones. -/
theorem forwardedNames_perm (style : WrapperStyle) (index : Nat) (parameters : List Parameter) :
    (forwardedNames style index parameters).Perm
      (positionalNames style index parameters ++ keptNames style parameters) := by
  induction parameters generalizing index with
  | nil => exact .nil
  | cons parameter rest ih =>
      have hnames : forwardedNames style index (parameter :: rest)
          = forwardedName style index parameter :: forwardedNames style (index + 1) rest := rfl
      rw [hnames]
      cases hpositional : isPositional style parameter with
      | true =>
          have hkept : keptNames style (parameter :: rest) = keptNames style rest := by
            simp [keptNames, hpositional]
          have hfirst : positionalNames style index (parameter :: rest)
              = ("arg" ++ toString index) :: positionalNames style (index + 1) rest := by
            simp [positionalNames, hpositional]
          rw [hkept, hfirst, forwardedName_of_isPositional hpositional]
          exact (ih (index + 1)).cons _
      | false =>
          have hkept : keptNames style (parameter :: rest)
              = parameter.name :: keptNames style rest := by
            simp [keptNames, hpositional]
          have hfirst : positionalNames style index (parameter :: rest)
              = positionalNames style (index + 1) rest := by
            simp [positionalNames, hpositional]
          rw [hkept, hfirst, forwardedName_of_not_isPositional hpositional]
          exact ((ih (index + 1)).cons _).trans List.perm_middle.symm

theorem nodup_positionalNames (style : WrapperStyle) (index : Nat) (parameters : List Parameter) :
    (positionalNames style index parameters).Nodup := by
  have hpositions : ((parameters.zipIdx index).map Prod.snd).Nodup := by
    rw [List.zipIdx_map_snd]
    exact List.nodup_range'
  have hinjective : Function.Injective fun position : Nat => "arg" ++ toString position :=
    fun first second h => Nat.repr_inj.mp ((String.append_right_inj _).mp h)
  have hsublist := (List.filter_sublist (p := fun entry : Parameter × Nat =>
    isPositional style entry.1) (l := parameters.zipIdx index)).map Prod.snd
  have hnames := (hpositions.sublist hsublist).map hinjective
  rwa [List.map_map] at hnames

theorem mem_keptNames_iff {style : WrapperStyle} {parameters : List Parameter} {name : String} :
    name ∈ keptNames style parameters ↔
      name ∈ parameters.map (·.name) ∧ name ≠ "" ∧ name ≠ style.receiver := by
  simp only [keptNames, isPositional, List.mem_map, List.mem_filter, Bool.not_or, Bool.and_eq_true,
    Bool.not_eq_true', beq_eq_false_iff_ne, String.isEmpty_eq_false_iff]
  constructor
  · rintro ⟨parameter, ⟨hmem, hne, hreceiver⟩, rfl⟩
    exact ⟨⟨parameter, hmem, rfl⟩, hne, hreceiver⟩
  · rintro ⟨⟨parameter, hmem, rfl⟩, hne, hreceiver⟩
    exact ⟨parameter, ⟨hmem, hne, hreceiver⟩, rfl⟩

theorem nodup_keptNames {style : WrapperStyle} {parameters : List Parameter}
    (h : ((parameters.map (·.name)).filter (!·.isEmpty)).Nodup) :
    (keptNames style parameters).Nodup := by
  rw [List.filter_map] at h
  refine h.sublist (List.Sublist.map _ (List.monotone_filter_right _ fun parameter hkept => ?_))
  simp only [isPositional, Bool.not_or, Bool.and_eq_true] at hkept
  exact hkept.1

theorem positionalNames_ne_empty {style : WrapperStyle} {index : Nat} {parameters : List Parameter}
    {name : String} (h : name ∈ positionalNames style index parameters) : name ≠ "" := by
  obtain ⟨entry, -, rfl⟩ := List.mem_map.mp h
  simp

/-! ### Declared names -/

/-- The parameter list of a stub declares the receiver and the forwarded names, each with a type. -/
theorem exists_parameterList_of_render {style : WrapperStyle} {signature : Signature}
    {stub : String} (h : render style signature = .ok stub) :
    ∃ types after, types.length = (declaredNames style signature).length ∧
      stub = "pub fn " ++ name style.stripPrefixes signature.name ++ "("
        ++ String.intercalate ", "
          (List.zipWith (fun name type => name ++ ": " ++ type) (declaredNames style signature)
            types)
        ++ ") " ++ after := by
  obtain ⟨returnType, replaced, others, types, -, hparameters, -, htypes, rfl⟩ := exists_of_render h
  have hnames :
      declaredNames style signature = style.receiver :: forwardedNames style 1 others := by
    rw [declaredNames, hparameters, List.tail_cons]
  have hlength : types.length = (forwardedNames style 1 others).length := by
    simpa using (congrArg List.length htypes).symm
  have hdeclared : (style.receiverType :: types).length
      = (style.receiver :: forwardedNames style 1 others).length := by
    rw [List.length_cons, List.length_cons, hlength]
  rw [hnames]
  exact ⟨_, _, hdeclared, stubText_zip style signature.name returnType hlength⟩

/-- The parameters of a stub have pairwise distinct names, given that those of the declaration have
as far as they are named, exactly when no name made of a position is the receiver or the name of
another parameter. -/
theorem nodup_declaredNames_iff {style : WrapperStyle} {signature : Signature} {stub : String}
    (hrender : render style signature = .ok stub)
    (hdistinct : ((signature.parameters.tail.map (·.name)).filter (!·.isEmpty)).Nodup) :
    (∃ types after, types.length = (declaredNames style signature).length ∧
      stub = "pub fn " ++ name style.stripPrefixes signature.name ++ "("
        ++ String.intercalate ", "
          (List.zipWith (fun name type => name ++ ": " ++ type) (declaredNames style signature)
            types)
        ++ ") " ++ after) ∧
    ((declaredNames style signature).Nodup ↔
      ∀ name ∈ positionalNames style 1 signature.parameters.tail,
        name ∉ style.receiver :: signature.parameters.tail.map (·.name)) := by
  refine ⟨exists_parameterList_of_render hrender, ?_⟩
  have hperm := forwardedNames_perm style 1 signature.parameters.tail
  have hsplit : (declaredNames style signature).Nodup ↔
      style.receiver ∉ positionalNames style 1 signature.parameters.tail ∧
        (positionalNames style 1 signature.parameters.tail).Disjoint
          (keptNames style signature.parameters.tail) := by
    have hreceiver : style.receiver ∉ keptNames style signature.parameters.tail :=
      fun hmem => (mem_keptNames_iff.mp hmem).2.2 rfl
    rw [declaredNames, List.nodup_cons, hperm.nodup_iff, hperm.mem_iff, List.nodup_append']
    simp [hreceiver, nodup_positionalNames, nodup_keptNames hdistinct]
  rw [hsplit]
  constructor
  · rintro ⟨hreceiver, hkept⟩ name hpositional hmem
    rcases List.mem_cons.mp hmem with rfl | hmem
    · exact hreceiver hpositional
    · refine hkept hpositional (mem_keptNames_iff.mpr ⟨hmem, ?_, ?_⟩)
      · exact positionalNames_ne_empty hpositional
      · rintro rfl
        exact hreceiver hpositional
  · intro hdisjoint
    refine ⟨fun hmem => hdisjoint _ hmem List.mem_cons_self, fun name hpositional hmem => ?_⟩
    exact hdisjoint name hpositional (List.mem_cons_of_mem _ (mem_keptNames_iff.mp hmem).1)

/-- A parameter that shadows the receiver between one without a name and one that keeps its name. -/
theorem nodup_declaredNames_receiver_shadowed :
    let object : CType := .pointer (.named [] "GObject")
    let signature : Signature :=
      ⟨"g_object_bind", .named [] "void",
        [⟨"source", object⟩, ⟨"", object⟩, ⟨"self", object⟩, ⟨"arg4", .named [] "guint"⟩]⟩
    let stub := "pub fn objectBind(self: Self, arg1: *GObject, arg2: *GObject, arg4: guint) void "
      ++ "\x7b\n\treturn C.g_object_bind(self.raw, arg1, arg2, arg4);\n\x7d"
    render {} signature = .ok stub ∧
      ((signature.parameters.tail.map (·.name)).filter (!·.isEmpty)).Nodup ∧
      declaredNames {} signature = ["self", "arg1", "arg2", "arg4"] ∧
      (declaredNames {} signature).Nodup := by
  intro object signature stub
  have hrender : render {} signature = .ok stub := by decide +kernel
  have hdistinct : ((signature.parameters.tail.map (·.name)).filter (!·.isEmpty)).Nodup := by
    decide +kernel
  refine ⟨hrender, hdistinct, by decide +kernel, ?_⟩
  exact (nodup_declaredNames_iff hrender hdistinct).2.mpr (by decide +kernel)

/-- A parameter without a name is named like the parameter before it. -/
theorem positional_name_repeats_kept_name :
    let signature : Signature :=
      ⟨"g_f", .named [] "void",
        [⟨"object", .pointer (.named [] "GObject")⟩, ⟨"arg2", .named [] "int"⟩,
          ⟨"", .named [] "int"⟩]⟩
    render {} signature = .ok
      ("pub fn f(self: Self, arg2: c_int, arg2: c_int) void "
        ++ "\x7b\n\treturn C.g_f(self.raw, arg2, arg2);\n\x7d") ∧
      ((signature.parameters.tail.map (·.name)).filter (!·.isEmpty)).Nodup ∧
      declaredNames {} signature = ["self", "arg2", "arg2"] ∧
      ¬(declaredNames {} signature).Nodup := by
  refine ⟨by decide +kernel, by decide +kernel, by decide +kernel, by decide +kernel⟩

end HeaderBindings.Wrapper
