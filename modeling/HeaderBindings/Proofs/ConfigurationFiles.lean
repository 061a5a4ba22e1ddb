import HeaderBindings.Proofs.Merging
import HeaderBindings.Proofs.Runs

/-!
Configuration files that cannot be used. The file of the user and that of the project are taken as a
whole or not at all: one that is there and cannot be read or decoded is reported and counts as one
that is not there, since the empty configuration is neutral for merging. The file that is named on
the command line has to be usable.
-/

namespace HeaderBindings.Config

/-- What is found at the path of a configuration file. A file that fails is there, but cannot be
read, or its text means nothing. -/
inductive FileState where
  | absent
  | failing (error : ConfigError)
  | usable (config : Config)
  deriving DecidableEq

namespace FileState

def ofPath (decode : Decoder) (files : FileTree) (path : String) : FileState :=
  if files.contains path then
    match files.readText path with
    | .error reason => .failing (.unreadable path reason)
    | .ok text =>
        match decode text with
        | some config => .usable config
        | none => .failing (.invalid path)
  else .absent

/-- The settings that take effect. -/
def config : FileState → Config
  | usable config => config
  | _ => {}

/-- What is reported of the file. -/
def warnings (path : String) : FileState → List Event
  | failing error => [.ignoredConfig path error.message]
  | _ => []

/-- The same, but a file that fails is not there. -/
def withoutFailure : FileState → FileState
  | usable config => usable config
  | _ => absent

theorem config_withoutFailure (state : FileState) : state.withoutFailure.config = state.config := by
  cases state <;> rfl

theorem warnings_withoutFailure (state : FileState) (path : String) :
    state.withoutFailure.warnings path = [] := by
  cases state <;> rfl

theorem level_of_mem_warnings {state : FileState} {path : String} {event : Event}
    (h : event ∈ state.warnings path) : event.level = .warn := by
  cases state with
  | failing error =>
      obtain rfl := List.mem_singleton.mp h
      rfl
  | absent => cases h
  | usable config => cases h

end FileState

open FileState

section
variable (decode : Decoder) (files : FileTree) (path : String)

theorem loadIfUsable_eq : loadIfUsable decode files path
    = ⟨(ofPath decode files path).config, (ofPath decode files path).warnings path⟩ := by
  rw [loadIfUsable, ofPath]
  split
  · rw [load]
    cases files.readText path with
    | error reason => rfl
    | ok text =>
        cases hdecode : decode text with
        | none => simp only [Except.mapError, bind, Except.bind, hdecode]; rfl
        | some config => simp only [Except.mapError, bind, Except.bind, hdecode]; rfl
  · rfl

/-- A file that is absent leaves the settings alone, and so would one without settings. -/
theorem withFile_eq (config : Config) : withFile decode files path config
    = ⟨config.merge (ofPath decode files path).config,
        (ofPath decode files path).warnings path⟩ := by
  rw [withFile]
  split
  · rw [loadIfUsable_eq]
    simp only [bind, pure, List.append_nil]
  next habsent =>
    have hstate : ofPath decode files path = absent := if_neg habsent
    rw [hstate]
    exact congrArg (Logged.mk · []) (merge_empty config).symm

theorem loadLayers_eq (userPath projectPath : String) :
    let user := ofPath decode files userPath
    let project := ofPath decode files projectPath
    loadLayers decode files userPath projectPath
      = ⟨user.config.merge project.config,
          user.warnings userPath ++ project.warnings projectPath⟩ := by
  rw [loadLayers, withFile_eq]
  simp only [withFile_eq, bind, empty_merge]

end

section
variable {decode : Decoder} {files : FileTree} {path : String}

/-- A file that can be read is there. -/
theorem contains_of_readText {text : String} (h : files.readText path = .ok text) :
    files.contains path = true := by
  rw [FileTree.contains]
  cases hfind : files.find path with
  | ok node => rfl
  | error reason =>
      rw [FileTree.readText, FileTree.readBytes, hfind] at h
      cases h

theorem load_eq_ok_iff {config : Config} :
    load decode files path = .ok config ↔ ofPath decode files path = .usable config := by
  rw [load, ofPath]
  cases hread : files.readText path with
  | error reason =>
      constructor
      · intro h
        cases h
      · split
        · rintro ⟨⟩
        · rintro ⟨⟩
  | ok text =>
      rw [if_pos (contains_of_readText hread)]
      cases hdecode : decode text with
      | none => simp [Except.mapError, bind, Except.bind, hdecode]
      | some found => simp [Except.mapError, bind, Except.bind, hdecode]

theorem load_of_failing {error : ConfigError} (h : ofPath decode files path = .failing error) :
    load decode files path = .error error := by
  rw [ofPath] at h
  split at h
  · rw [load]
    cases hread : files.readText path with
    | error reason =>
        rw [hread] at h
        cases h
        rfl
    | ok text =>
        rw [hread] at h
        cases hdecode : decode text with
        | none =>
            simp only [hdecode] at h
            cases h
            simp only [Except.mapError, bind, Except.bind, hdecode]
        | some config => simp [hdecode] at h
  · cases h

end

/-- The file that is named is merged over the others when it can be used, and otherwise there is no
configuration. -/
theorem start_configuration_named (host : Host) (named : String) (before : RunState) :
    Run.start (CommandLine.configuration host (some named)) before
      = match host.currentFailure? with
        | some reason => (.error (.file (.currentDirectory reason)), before)
        | none =>
            let loaded := loadLayers host.decode host.files host.userPath host.projectPath
            (((load host.decode host.files named).map loaded.value.merge).mapError .config,
              { before with messages := before.messages ++ loaded.events.map .event }) := by
  have hsteps : CommandLine.configuration host (some named) = (do
      Run.ofExcept .file host.findCurrent
      let config ← Run.ofLogged (loadLayers host.decode host.files host.userPath host.projectPath)
      let found ← Run.ofExcept .config (load host.decode host.files named)
      pure (config.merge found)) := rfl
  rw [hsteps, Host.findCurrent]
  cases host.currentFailure? with
  | some reason => rfl
  | none =>
      cases load host.decode host.files named with
      | error error => rfl
      | ok config => rfl

/-- Of the two configuration files, one that fails counts as absent: the configuration is the one
with each such file absent, so it is that of the other file alone, and each such file is reported
once, that of the user first. A named file that fails or is absent leaves no configuration, whatever
the two others are; they are still reported, unless the current directory is not even known. -/
theorem loadLayers_of_failing (decode : Decoder) (files : FileTree)
    (userPath projectPath : String) :
    let user := ofPath decode files userPath
    let project := ofPath decode files projectPath
    let loaded := loadLayers decode files userPath projectPath
    (∀ other, ofPath decode other userPath = user.withoutFailure →
      ofPath decode other projectPath = project.withoutFailure →
      loadLayers decode other userPath projectPath = { value := loaded.value }) ∧
    (∀ error, user = .failing error → loaded.value = project.config) ∧
    (∀ error, project = .failing error → loaded.value = user.config) ∧
    loaded.events = user.warnings userPath ++ project.warnings projectPath ∧
    (∀ event ∈ loaded.events, event.level = .warn) ∧
    ∀ (host : Host) (named : String), host.decode = decode → host.files = files →
      (∀ config, ofPath decode files named ≠ .usable config) →
      ∃ error, (∀ other, ofPath decode files named = .failing other → error = other) ∧
        ∀ before, Run.start (CommandLine.configuration host (some named)) before
          = match host.currentFailure? with
            | some reason => (.error (.file (.currentDirectory reason)), before)
            | none => (.error (.config error),
                { before with messages := before.messages ++
                    (loadLayers decode files host.userPath host.projectPath).events.map .event }) := by
  intro user project loaded
  have hloaded : loaded = ⟨user.config.merge project.config,
      user.warnings userPath ++ project.warnings projectPath⟩ :=
    loadLayers_eq decode files userPath projectPath
  refine ⟨?_, ?_, ?_, congrArg Logged.events hloaded, ?_, ?_⟩
  · intro other huser hproject
    have hother := loadLayers_eq decode other userPath projectPath
    simp only [huser, hproject, config_withoutFailure, warnings_withoutFailure] at hother
    rw [hother, hloaded]
    rfl
  · intro error hfailing
    rw [hloaded, hfailing]
    exact empty_merge project.config
  · intro error hfailing
    rw [hloaded, hfailing]
    exact merge_empty user.config
  · intro event hmem
    rw [hloaded] at hmem
    rcases List.mem_append.mp hmem with hmem | hmem
    · exact level_of_mem_warnings hmem
    · exact level_of_mem_warnings hmem
  · rintro host named rfl rfl hnamed
    cases hload : load host.decode host.files named with
    | ok config => exact absurd (load_eq_ok_iff.mp hload) (hnamed config)
    | error error =>
        refine ⟨error, fun other hfailing => ?_, fun before => ?_⟩
        · rw [load_of_failing hfailing] at hload
          exact (Except.error.inj hload).symm
        · rw [start_configuration_named, hload]
          rfl

/-- A file of the user that means nothing, one of the project that sets the receiver, and a directory
that is named as a third one. -/
theorem loadLayers_of_failing_user :
    let decode : Decoder := fun text =>
      if text = "it" then some { stubs := { receiver := some "it" } } else none
    let project : List (Place × FileNode) :=
      [(["p"], .file (Text.encodeUtf8 "it") false), (["d"], .directory)]
    let files : FileTree := { nodes := (["u"], .file (Text.encodeUtf8 "[") false) :: project }
    let other : FileTree := { nodes := project }
    let host : Host :=
      { files, tools := { temporaryPath := "/t", run := fun _ => .notStarted .notFound }
        home := "/h", decode, property := fun _ => none }
    let loaded := loadLayers decode files "u" "p"
    ofPath decode files "u" = .failing (.invalid "u") ∧
      ofPath decode other "u" = (ofPath decode files "u").withoutFailure ∧
      ofPath decode other "p" = (ofPath decode files "p").withoutFailure ∧
      loadLayers decode other "u" "p" = { value := loaded.value } ∧
      loaded.value = { stubs := { receiver := some "it" } } ∧
      loaded.events = [.ignoredConfig "u" (ConfigError.invalid "u").message] ∧
      ofPath decode files "d" = .failing (.unreadable "d" .isDirectory) ∧
      (Run.start (CommandLine.configuration host (some "d")) { files }).1
        = .error (.config (.unreadable "d" .isDirectory)) := by
  intro decode project files other host loaded
  have huser : ofPath decode files "u" = .failing (.invalid "u") := by decide +kernel
  have hproject : ofPath decode files "p" = .usable { stubs := { receiver := some "it" } } := by
    decide +kernel
  have hotherUser : ofPath decode other "u" = (ofPath decode files "u").withoutFailure := by
    decide +kernel
  have hotherProject : ofPath decode other "p" = (ofPath decode files "p").withoutFailure := by
    decide +kernel
  have hnamed : ofPath decode files "d" = .failing (.unreadable "d" .isDirectory) := by
    decide +kernel
  obtain ⟨hsame, hvalue, -, hevents, -, hruns⟩ := loadLayers_of_failing decode files "u" "p"
  obtain ⟨error, herror, hrun⟩ := hruns host "d" rfl rfl (by simp [hnamed])
  obtain rfl := herror _ hnamed
  refine ⟨huser, hotherUser, hotherProject, hsame other hotherUser hotherProject, ?_, ?_, hnamed,
    ?_⟩
  · have hconfig := hvalue _ huser
    rwa [hproject] at hconfig
  · rw [huser, hproject] at hevents
    exact hevents
  · rw [hrun { files }]

end HeaderBindings.Config
