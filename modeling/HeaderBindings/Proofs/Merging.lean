import HeaderBindings.Config
import Mathlib.Data.List.Induction
import Mathlib.Tactic.Conv

/-!
Settings of many layers. Merging is associative and the empty configuration is neutral for it, so a
stack of layers has one configuration, however its merges are grouped. Of a setting that a layer may
leave open, the stack has the value of the last layer that gives it.
-/

namespace HeaderBindings

theorem PreprocessSettings.merge_assoc (first second third : PreprocessSettings) :
    (first.merge second).merge third = first.merge (second.merge third) := by
  simp only [merge, Option.or_assoc, mk.injEq, true_and]
  by_cases h : third.flags.isEmpty = true
  · simp only [if_pos h]
  · simp only [if_neg h]

theorem PreprocessSettings.empty_merge (settings : PreprocessSettings) :
    ({} : PreprocessSettings).merge settings = settings := by
  obtain ⟨package, preprocessor, packageConfig, flags⟩ := settings
  cases flags with
  | nil => simp [merge]
  | cons first rest => simp [merge]

theorem StubSettings.merge_assoc (first second third : StubSettings) :
    (first.merge second).merge third = first.merge (second.merge third) := by
  simp only [merge, Option.or_assoc]

theorem EnumSettings.merge_assoc (first second third : EnumSettings) :
    (first.merge second).merge third = first.merge (second.merge third) := by
  simp only [merge, Option.or_assoc, Bool.or_assoc]

namespace Config

theorem merge_assoc (first second third : Config) :
    (first.merge second).merge third = first.merge (second.merge third) := by
  simp only [merge, PreprocessSettings.merge_assoc, StubSettings.merge_assoc,
    EnumSettings.merge_assoc, TypeMap.withEntries, List.append_assoc]

theorem empty_merge (config : Config) : ({} : Config).merge config = config := by
  simp [merge, PreprocessSettings.empty_merge, StubSettings.merge, EnumSettings.merge,
    TypeMap.withEntries, TypeMap.identity]

theorem merge_empty (config : Config) : config.merge {} = config := by
  simp [merge, PreprocessSettings.merge, StubSettings.merge, EnumSettings.merge,
    TypeMap.withEntries, TypeMap.identity]

instance : Std.Associative merge := ⟨merge_assoc⟩

instance : Std.LawfulIdentity merge {} where
  left_id := empty_merge
  right_id := merge_empty

/-- The settings of several layers, each merged over those in front of it. -/
def mergeAll (layers : List Config) : Config := layers.foldl merge {}

theorem mergeAll_append (lower upper : List Config) :
    mergeAll (lower ++ upper) = (mergeAll lower).merge (mergeAll upper) := by
  rw [mergeAll, List.foldl_append, ← mergeAll]
  conv_lhs => rw [← merge_empty (mergeAll lower)]
  exact List.foldl_assoc

/-- Of a setting that a layer may leave open, the last layer that gives it counts. -/
theorem mergeAll_eq_findSome? {α : Type} (setting : Config → Option α)
    (hempty : setting {} = none)
    (hmerge : ∀ lower upper, setting (lower.merge upper) = (setting upper).or (setting lower))
    (layers : List Config) : setting (mergeAll layers) = layers.reverse.findSome? setting := by
  induction layers using List.reverseRecOn with
  | nil => exact hempty
  | append_singleton layers layer ih =>
      have hlast : mergeAll [layer] = layer := empty_merge layer
      rw [mergeAll_append, hlast, hmerge, ih, List.reverse_append, List.reverse_singleton,
        List.singleton_append, List.findSome?_cons]
      cases setting layer with
      | none => rfl
      | some value => rfl

theorem find?_merge (lower upper : Config) (name : String) :
    (lower.merge upper).types.find? name
      = (upper.types.find? name).or (lower.types.find? name) :=
  TypeMap.find?_withEntries lower.types upper.types.entries name

/-- A way of merging layers two at a time. -/
inductive Grouping where
  | nothing
  | layer (config : Config)
  | merged (lower upper : Grouping)

namespace Grouping

/-- The layers, in order. -/
def layers : Grouping → List Config
  | nothing => []
  | layer config => [config]
  | merged lower upper => lower.layers ++ upper.layers

/-- What the merges yield. -/
def result : Grouping → Config
  | nothing => {}
  | layer config => config
  | merged lower upper => lower.result.merge upper.result

theorem result_eq_mergeAll (grouping : Grouping) :
    grouping.result = mergeAll grouping.layers := by
  induction grouping with
  | nothing => rfl
  | layer config => exact (empty_merge config).symm
  | merged lower upper ihLower ihUpper => rw [result, layers, mergeAll_append, ihLower, ihUpper]

end Grouping

/-- Configurations are a monoid: merging is associative with the empty configuration as its neutral
element on both sides. So it does not matter how merges are grouped, and a layer without settings
may stand anywhere. -/
theorem merge_monoid :
    (∀ first second third : Config,
      (first.merge second).merge third = first.merge (second.merge third)) ∧
    (∀ config : Config, ({} : Config).merge config = config ∧ config.merge {} = config) ∧
    (∀ grouping : Grouping, grouping.result = grouping.layers.foldl merge {}) ∧
    ∀ lower upper : List Config,
      (lower ++ {} :: upper).foldl merge {} = (lower ++ upper).foldl merge {} := by
  refine ⟨merge_assoc, fun config => ⟨empty_merge config, merge_empty config⟩,
    Grouping.result_eq_mergeAll, fun lower upper => ?_⟩
  rw [List.foldl_append, List.foldl_append, List.foldl_cons, merge_empty]

end Config

end HeaderBindings
