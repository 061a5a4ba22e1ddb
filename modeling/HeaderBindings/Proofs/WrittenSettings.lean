import HeaderBindings.Config.Decoding
import HeaderBindings.Proofs.Merging
import Mathlib.Data.Bool.Basic

/-!
Settings as configuration files write them. A key has the value of the last file that writes it, as
long as this value is not the default of the key: a file that writes the default of a key says no
more than one that does not mention it. This makes a difference for the two keys whose default can
be written, the flags and the references by name alone.
-/

namespace HeaderBindings.Config
open Toml

/-! ### Keys -/

/-- A section with settings. -/
inductive Part where
  | preprocess
  | stubs
  | enums

def Part.name : Part → String
  | preprocess => "preprocess"
  | stubs => "stubs"
  | enums => "enums"

/-- The keys of a section, in the order in which an array gives their values. -/
def Part.keys : Part → List String
  | preprocess => ["package", "cpp", "pkg_config", "cflags"]
  | stubs => ["strip_prefixes", "receiver", "receiver_type", "raw_field", "namespace"]
  | enums => ["namespace", "bare", "backing_type", "indent"]

/-- A key of a section. -/
inductive Key where
  | package
  | preprocessor
  | packageConfig
  | flags
  | stripPrefixes
  | receiver
  | receiverType
  | rawField
  | stubSpace
  | enumSpace
  | bare
  | backingType
  | indent
  deriving DecidableEq

namespace Key

def part : Key → Part
  | package | preprocessor | packageConfig | flags => .preprocess
  | stripPrefixes | receiver | receiverType | rawField | stubSpace => .stubs
  | enumSpace | bare | backingType | indent => .enums

/-- The name of a key in its section. -/
def name : Key → String
  | package => "package"
  | preprocessor => "cpp"
  | packageConfig => "pkg_config"
  | flags => "cflags"
  | stripPrefixes => "strip_prefixes"
  | receiver => "receiver"
  | receiverType => "receiver_type"
  | rawField => "raw_field"
  | stubSpace | enumSpace => "namespace"
  | bare => "bare"
  | backingType => "backing_type"
  | indent => "indent"

/-- What a document has under a key. -/
def writtenIn? (key : Key) (document : Entries) : Option Value :=
  (document.find? key.part.name).bind fun settings =>
    (members? key.part.keys settings).bind fun entries => entries.find? key.name

/-- What the text of a configuration file has under a key, when it is read as a document. -/
def written? (reader : String → Option Entries) (key : Key) (text : String) : Option Value :=
  (reader text).bind key.writtenIn?

/-- The value of a key in a configuration, as a document would have it. -/
def value? : Key → Config → Option Value
  | package, config => config.preprocess.package.map .text
  | preprocessor, config => config.preprocess.preprocessor.map .text
  | packageConfig, config => config.preprocess.packageConfig.map .text
  | flags, config => some (.array (config.preprocess.flags.map .text))
  | stripPrefixes, config => config.stubs.stripPrefixes.map fun texts => .array (texts.map .text)
  | receiver, config => config.stubs.receiver.map .text
  | receiverType, config => config.stubs.receiverType.map .text
  | rawField, config => config.stubs.rawField.map .text
  | stubSpace, config => config.stubs.space.map .text
  | enumSpace, config => config.enums.space.map .text
  | bare, config => some (.boolean config.enums.bare)
  | backingType, config => config.enums.backingType.map .text
  | indent, config => config.enums.indent.map fun (count : Nat) => .integer count

end Key

/-! ### Reading a document -/

theorem eq_text_of_text? ⦃value : Value⦄ ⦃text : String⦄ (h : text? value = some text) :
    value = .text text := by
  cases value with
  | text content => rw [Option.some.inj h]
  | _ => cases h

theorem eq_boolean_of_boolean? ⦃value : Value⦄ ⦃truth : Bool⦄ (h : boolean? value = some truth) :
    value = .boolean truth := by
  cases value with
  | boolean content => rw [Option.some.inj h]
  | _ => cases h

theorem eq_integer_of_count? ⦃value : Value⦄ ⦃count : Nat⦄ (h : count? value = some count) :
    value = .integer count := by
  cases value with
  | integer content =>
      rw [count?] at h
      split at h
      · obtain rfl := Option.some.inj h
        rw [Int.toNat_of_nonneg ‹_›]
      · cases h
  | _ => cases h

theorem eq_array_of_texts? ⦃value : Value⦄ ⦃texts : List String⦄ (h : texts? value = some texts) :
    value = .array (texts.map .text) := by
  cases value with
  | array items =>
      rw [texts?] at h
      congr 1
      induction items generalizing texts with
      | nil =>
          obtain rfl := Option.some.inj h
          rfl
      | cons item rest ih =>
          simp only [List.mapM_cons, Option.bind_eq_bind, Option.bind_eq_some_iff] at h
          obtain ⟨text, htext, others, hothers, htexts⟩ := h
          obtain rfl := Option.some.inj htexts
          rw [List.map_cons, eq_text_of_text? htext, ih hothers]
  | _ => cases h

variable {α : Type} {read : Value → Option α} {write : α → Value} {key : String}
  {entries : Entries}

theorem map_of_optional? (hread : ∀ ⦃value found⦄, read value = some found → value = write found)
    {setting : Option α} (h : optional? read key entries = some setting) :
    setting.map write = (entries.find? key).or none := by
  rw [optional?] at h
  rw [Option.or_none]
  cases hfound : entries.find? key with
  | none =>
      rw [hfound] at h
      obtain rfl := Option.some.inj h
      rfl
  | some value =>
      rw [hfound] at h
      obtain ⟨found, hvalue, rfl⟩ := Option.map_eq_some_iff.mp h
      rw [hread hvalue, Option.map_some]

theorem write_of_setting? (hread : ∀ ⦃value found⦄, read value = some found → value = write found)
    {default setting : α} (h : setting? read default key entries = some setting) :
    some (write setting) = (entries.find? key).or (some (write default)) := by
  obtain ⟨given, hgiven, rfl⟩ := Option.map_eq_some_iff.mp h
  have hfound := map_of_optional? hread hgiven
  rw [Option.or_none] at hfound
  rw [← hfound]
  cases given with
  | none => rfl
  | some value => rfl

theorem of_setting? {default setting : α} (h : setting? read default key entries = some setting) :
    (entries.find? key = none ∧ setting = default) ∨
      ∃ value, entries.find? key = some value ∧ read value = some setting := by
  rw [setting?, optional?] at h
  cases hfound : entries.find? key with
  | none =>
      rw [hfound] at h
      exact Or.inl ⟨rfl, (Option.some.inj h).symm⟩
  | some value =>
      rw [hfound, Option.map_map] at h
      obtain ⟨found, hvalue, hsetting⟩ := Option.map_eq_some_iff.mp h
      exact Or.inr ⟨value, rfl, hvalue.trans (congrArg some hsetting)⟩

theorem findSome?_filterMap {β γ : Type} (first : α → Option β) (second : β → Option γ)
    (items : List α) : (items.filterMap first).findSome? second
      = items.findSome? fun item => (first item).bind second := by
  induction items with
  | nil => rfl
  | cons item rest ih =>
      rw [List.filterMap_cons, List.findSome?_cons]
      cases first item with
      | none => exact ih
      | some found => rw [List.findSome?_cons, ih, Option.bind_some]

namespace Key

/-- The keys of a section have what is written there, and their defaults where nothing is. -/
def FollowsSection (part : Part) (settings : Value) (config : Config) : Prop :=
  ∃ entries, members? part.keys settings = some entries ∧
    ∀ key : Key, key.part = part →
      key.value? config = (entries.find? key.name).or (key.value? {})

theorem followsSection_preprocess {settings : Value} {config : Config}
    (h : preprocess? settings = some config.preprocess) :
    FollowsSection .preprocess settings config := by
  simp only [preprocess?, Option.bind_eq_bind, Option.bind_eq_some_iff, Option.pure_def] at h
  obtain ⟨entries, hentries, package, hpackage, preprocessor, hpreprocessor, packageConfig,
    hpackageConfig, flags, hflags, hsettings⟩ := h
  obtain ⟨preprocess, stubs, enums, types⟩ := config
  obtain rfl := Option.some.inj hsettings
  refine ⟨entries, hentries, fun key hpart => ?_⟩
  cases key with
  | package => exact map_of_optional? eq_text_of_text? hpackage
  | preprocessor => exact map_of_optional? eq_text_of_text? hpreprocessor
  | packageConfig => exact map_of_optional? eq_text_of_text? hpackageConfig
  | flags => exact write_of_setting? eq_array_of_texts? hflags
  | _ => cases hpart

theorem followsSection_stubs {settings : Value} {config : Config}
    (h : stubs? settings = some config.stubs) : FollowsSection .stubs settings config := by
  simp only [stubs?, Option.bind_eq_bind, Option.bind_eq_some_iff, Option.pure_def] at h
  obtain ⟨entries, hentries, stripPrefixes, hstripPrefixes, receiver, hreceiver, receiverType,
    hreceiverType, rawField, hrawField, space, hspace, hsettings⟩ := h
  obtain ⟨preprocess, stubs, enums, types⟩ := config
  obtain rfl := Option.some.inj hsettings
  refine ⟨entries, hentries, fun key hpart => ?_⟩
  cases key with
  | stripPrefixes => exact map_of_optional? eq_array_of_texts? hstripPrefixes
  | receiver => exact map_of_optional? eq_text_of_text? hreceiver
  | receiverType => exact map_of_optional? eq_text_of_text? hreceiverType
  | rawField => exact map_of_optional? eq_text_of_text? hrawField
  | stubSpace => exact map_of_optional? eq_text_of_text? hspace
  | _ => cases hpart

theorem followsSection_enums {settings : Value} {config : Config}
    (h : enums? settings = some config.enums) : FollowsSection .enums settings config := by
  simp only [enums?, Option.bind_eq_bind, Option.bind_eq_some_iff, Option.pure_def] at h
  obtain ⟨entries, hentries, space, hspace, bare, hbare, backingType, hbackingType, indent,
    hindent, hsettings⟩ := h
  obtain ⟨preprocess, stubs, enums, types⟩ := config
  obtain rfl := Option.some.inj hsettings
  refine ⟨entries, hentries, fun key hpart => ?_⟩
  cases key with
  | enumSpace => exact map_of_optional? eq_text_of_text? hspace
  | bare => exact write_of_setting? eq_boolean_of_boolean? hbare
  | backingType => exact map_of_optional? eq_text_of_text? hbackingType
  | indent => exact map_of_optional? eq_integer_of_count? hindent
  | _ => cases hpart

theorem value?_of_part {α : Type} {read : Value → Option α} {default settings : α} {part : Part}
    {document : Entries} {config : Config}
    (h : setting? read default part.name document = some settings)
    (habsent : settings = default → ∀ key : Key, key.part = part →
      key.value? config = key.value? {})
    (hpresent : ∀ value, read value = some settings → FollowsSection part value config)
    (key : Key) (hpart : key.part = part) :
    key.value? config = (key.writtenIn? document).or (key.value? {}) := by
  rw [writtenIn?, hpart]
  rcases of_setting? h with ⟨hnone, hdefault⟩ | ⟨value, hvalue, hread⟩
  · rw [hnone, habsent hdefault key hpart]
    rfl
  · obtain ⟨entries, hentries, hkeys⟩ := hpresent value hread
    rw [hvalue, Option.bind_some, hentries, Option.bind_some]
    exact hkeys key hpart

variable {reader : String → Option Entries}

theorem value?_of_decoder (key : Key) {text : String} {config : Config}
    (h : decoder reader text = some config) :
    key.value? config = (key.written? reader text).or (key.value? {}) := by
  obtain ⟨document, hdocument, hentries⟩ := Option.bind_eq_some_iff.mp h
  simp only [ofEntries?, Option.bind_eq_bind, Option.bind_eq_some_iff, Option.pure_def] at hentries
  obtain ⟨preprocess, hpreprocess, stubs, hstubs, enums, henums, types, -, hconfig⟩ := hentries
  obtain rfl := Option.some.inj hconfig
  rw [written?, hdocument, Option.bind_some]
  cases hpart : key.part with
  | preprocess =>
      refine value?_of_part hpreprocess ?_ (fun _ => followsSection_preprocess) key hpart
      rintro rfl key hkey
      cases key with
      | package | preprocessor | packageConfig | flags => rfl
      | _ => cases hkey
  | stubs =>
      refine value?_of_part hstubs ?_ (fun _ => followsSection_stubs) key hpart
      rintro rfl key hkey
      cases key with
      | stripPrefixes | receiver | receiverType | rawField | stubSpace => rfl
      | _ => cases hkey
  | enums =>
      refine value?_of_part henums ?_ (fun _ => followsSection_enums) key hpart
      rintro rfl key hkey
      cases key with
      | enumSpace | bare | backingType | indent => rfl
      | _ => cases hkey

/-! ### What a configuration gives -/

/-- What a configuration gives for a key: its value, as long as this is not the default. -/
def given? : Key → Config → Option Value
  | flags, config => if config.preprocess.flags.isEmpty then none else flags.value? config
  | bare, config => if config.enums.bare then bare.value? config else none
  | key, config => key.value? config

theorem given?_empty (key : Key) : key.given? {} = none := by
  cases key <;> rfl

theorem given?_merge (key : Key) (lower upper : Config) :
    key.given? (lower.merge upper) = (key.given? upper).or (key.given? lower) := by
  cases key with
  | flags =>
      simp only [given?, value?, Config.merge, PreprocessSettings.merge]
      by_cases hupper : upper.preprocess.flags.isEmpty = true
      · simp only [if_pos hupper, Option.none_or]
      · simp only [if_neg hupper, Option.some_or]
  | bare =>
      simp only [given?, value?, Config.merge, EnumSettings.merge]
      by_cases hupper : upper.enums.bare = true
      · simp only [hupper, Bool.or_true, if_true, Option.some_or]
      · simp only [Bool.eq_false_of_not_eq_true hupper, Bool.or_false, Bool.false_eq_true, if_false,
          Option.none_or]
  | _ => exact Option.map_or

theorem value?_eq_given?_or (key : Key) (config : Config) :
    key.value? config = (key.given? config).or (key.value? {}) := by
  cases key with
  | flags =>
      by_cases hflags : config.preprocess.flags.isEmpty = true
      · rw [given?, if_pos hflags, value?, List.isEmpty_iff.mp hflags]
        rfl
      · rw [given?, if_neg hflags]
        rfl
  | bare =>
      by_cases hbare : config.enums.bare = true
      · rw [given?, if_pos hbare]
        rfl
      · rw [given?, if_neg hbare, value?, Bool.eq_false_of_not_eq_true hbare]
        rfl
  | _ => exact Option.or_none.symm

theorem given?_eq_none_iff (key : Key) (config : Config) :
    key.given? config = none ↔ key.value? config = key.value? {} := by
  cases key with
  | flags => simp [given?, value?]
  | bare => simp [given?, value?]
  | _ => exact Iff.rfl

/-! ### Texts one over the other -/

/-- A text has nothing under a key, or the default. -/
def PassedOver (reader : String → Option Entries) (key : Key) (text : String) : Prop :=
  key.written? reader text = none ∨ key.written? reader text = key.value? {}

theorem given?_eq_none_iff_passedOver (key : Key) {text : String} {config : Config}
    (h : decoder reader text = some config) :
    key.given? config = none ↔ key.PassedOver reader text := by
  rw [given?_eq_none_iff, value?_of_decoder key h, PassedOver]
  cases key.written? reader text with
  | none => exact ⟨fun _ => Or.inl rfl, fun _ => rfl⟩
  | some value => exact ⟨Or.inr, fun hpassed => hpassed.resolve_left (Option.some_ne_none value)⟩

theorem given?_of_written? (key : Key) {text : String} {config : Config} {value : Value}
    (h : decoder reader text = some config) (hwritten : key.written? reader text = some value)
    (hvalue : some value ≠ key.value? {}) : key.given? config = some value := by
  have hconfig : (key.given? config).or (key.value? {}) = some value := by
    rw [← value?_eq_given?_or, value?_of_decoder key h, hwritten, Option.some_or]
  cases hgiven : key.given? config with
  | none =>
      rw [hgiven, Option.none_or] at hconfig
      exact absurd hconfig.symm hvalue
  | some given => rwa [hgiven, Option.some_or] at hconfig

/-- What a text gives for a key. -/
def givenBy? (reader : String → Option Entries) (key : Key) (text : String) : Option Value :=
  (decoder reader text).bind key.given?

theorem given?_mergeAll (key : Key) (texts : List String) :
    key.given? (mergeAll (texts.filterMap (decoder reader)))
      = texts.reverse.findSome? (key.givenBy? reader) := by
  rw [mergeAll_eq_findSome? key.given? key.given?_empty key.given?_merge, ← List.filterMap_reverse,
    findSome?_filterMap]
  rfl

variable (key : Key) {texts : List String}

theorem value?_mergeAll_eq_default_iff (hread : ∀ text ∈ texts, (decoder reader text).isSome) :
    key.value? (mergeAll (texts.filterMap (decoder reader))) = key.value? {}
      ↔ ∀ text ∈ texts, key.PassedOver reader text := by
  rw [← given?_eq_none_iff, given?_mergeAll, List.findSome?_eq_none_iff]
  simp only [List.mem_reverse]
  refine forall₂_congr fun text htext => ?_
  obtain ⟨config, hconfig⟩ := Option.isSome_iff_exists.mp (hread text htext)
  rw [givenBy?, hconfig]
  exact given?_eq_none_iff_passedOver key hconfig

theorem value?_mergeAll_of_last (hread : ∀ text ∈ texts, (decoder reader text).isSome)
    {value : Value} (hlast : texts.reverse.findSome? (key.written? reader) = some value)
    (hvalue : some value ≠ key.value? {}) :
    key.value? (mergeAll (texts.filterMap (decoder reader))) = some value := by
  obtain ⟨later, text, earlier, htexts, hwritten, hlater⟩ := List.findSome?_eq_some_iff.mp hlast
  have hmem : ∀ other ∈ later ++ text :: earlier, ∃ config, decoder reader other = some config :=
    fun other hother => Option.isSome_iff_exists.mp
      (hread other (List.mem_reverse.mp (htexts ▸ hother)))
  have hgiven : texts.reverse.findSome? (key.givenBy? reader) = some value := by
    -- The texts behind the last one that writes the key are passed over, so this one gives it.
    refine List.findSome?_eq_some_iff.mpr ⟨later, text, earlier, htexts, ?_, fun other hother => ?_⟩
    · obtain ⟨config, hconfig⟩ := hmem text (List.mem_append_right later List.mem_cons_self)
      rw [givenBy?, hconfig]
      exact given?_of_written? key hconfig hwritten hvalue
    · obtain ⟨config, hconfig⟩ := hmem other (List.mem_append_left _ hother)
      rw [givenBy?, hconfig]
      exact (given?_eq_none_iff_passedOver key hconfig).mpr (Or.inl (hlater other hother))
  rw [value?_eq_given?_or, given?_mergeAll, hgiven, Option.some_or]

theorem value?_mergeAll_eq_last_iff (hread : ∀ text ∈ texts, (decoder reader text).isSome) :
    key.value? (mergeAll (texts.filterMap (decoder reader)))
        = (texts.reverse.findSome? (key.written? reader)).or (key.value? {})
      ↔ (texts.reverse.findSome? (key.written? reader) = key.value? {} →
        ∀ text ∈ texts, key.PassedOver reader text) := by
  have hdefault := value?_mergeAll_eq_default_iff key hread
  constructor
  · intro h hlast
    rw [hlast, Option.or_self] at h
    exact hdefault.mp h
  · intro h
    by_cases hlast : texts.reverse.findSome? (key.written? reader) = key.value? {}
    · rw [hlast, Option.or_self]
      exact hdefault.mpr (h hlast)
    · cases hvalue : texts.reverse.findSome? (key.written? reader) with
      | none =>
          have hwritten := List.findSome?_eq_none_iff.mp hvalue
          exact hdefault.mpr fun text htext => Or.inl (hwritten text (List.mem_reverse.mpr htext))
      | some value => exact value?_mergeAll_of_last key hread hvalue (hvalue ▸ hlast)

end Key

/-- However texts are read as documents: over layers that can be read, every key other than the flags
and the references by name alone has the value of the last layer that writes it, and its default where
no layer does. These two keys have it as well, unless that last layer writes the default over
something else. -/
theorem value?_of_layers_iff (reader : String → Option Entries) (texts : List String)
    (hread : ∀ text ∈ texts, (decoder reader text).isSome) (key : Key) :
    let config := mergeAll (texts.filterMap (decoder reader))
    let last := texts.reverse.findSome? (key.written? reader)
    (key ≠ .flags → key ≠ .bare → key.value? config = last.or (key.value? {})) ∧
    (key.value? config = last.or (key.value? {}) ↔
      (last = key.value? {} → ∀ text ∈ texts, key.PassedOver reader text)) := by
  intro config last
  have hfollows := Key.value?_mergeAll_eq_last_iff key hread
  refine ⟨fun hflags hbare => hfollows.mpr fun hlast text htext => Or.inl ?_, hfollows⟩
  -- The other keys have no default that a text can write.
  have hnone : last = none := by
    cases key with
    | flags => exact absurd rfl hflags
    | bare => exact absurd rfl hbare
    | _ => exact hlast
  exact List.findSome?_eq_none_iff.mp hnone text (List.mem_reverse.mpr htext)

theorem value?_of_layers_flags :
    let texts := ["[preprocess]\ncflags = [\"-O2\"]\n", "[stubs]\nreceiver = \"this\"\n",
      "[preprocess]\ncflags = [\"-O3\"]\n"]
    (∀ text ∈ texts, (ofText? text).isSome) ∧
      Key.flags.value? (mergeAll (texts.filterMap ofText?)) = some (.array [.text "-O3"]) := by
  intro texts
  have hread : ∀ text ∈ texts, (ofText? text).isSome := by decide +kernel
  have hwritten : (texts.reverse.findSome? (Key.flags.written? document?)).bind texts?
      = some ["-O3"] := by
    decide +kernel
  obtain ⟨value, hlast, hvalue⟩ := Option.bind_eq_some_iff.mp hwritten
  obtain rfl := eq_array_of_texts? hvalue
  refine ⟨hread, ?_⟩
  rw [ofText?, (value?_of_layers_iff document? texts hread .flags).2.mpr fun h => ?_, hlast]
  · rfl
  · rw [hlast] at h
    cases h

/-- The references by name alone cannot be taken back by writing `false`. -/
theorem bare_not_taken_back :
    ¬ ∀ texts : List String, (∀ text ∈ texts, (ofText? text).isSome) → ∀ key : Key,
      key.value? (mergeAll (texts.filterMap ofText?))
        = (texts.reverse.findSome? (key.written? document?)).or (key.value? {}) := by
  intro h
  have hbare := h ["[enums]\nbare = true\n", "[enums]\nbare = false\n"] (by decide +kernel) .bare
  have hconfig : (Key.bare.value? (mergeAll (["[enums]\nbare = true\n",
      "[enums]\nbare = false\n"].filterMap ofText?))).bind boolean? = some true := by decide +kernel
  rw [hbare] at hconfig
  exact absurd hconfig (by decide +kernel)

end HeaderBindings.Config
