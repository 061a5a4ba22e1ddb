import HeaderBindings.Proofs.ToolRuns
import HeaderBindings.Proofs.WrittenFiles
import HeaderBindings.Toolbox

/-!
The small programs. A file that stands for a command does what the command does, and the program
that gives files back as they are leaves a source unexpanded.
-/

namespace HeaderBindings
open Text

theorem FileTree.of_find_eq_ok {tree : FileTree} {path : String} {node : FileNode}
    (h : tree.find path = .ok node) :
    path.isEmpty = false ∧ path.toList.contains '\x00' = false := by
  obtain ⟨place, hplace, -⟩ := find_eq_ok_iff.mp h
  rw [locate, placeOf, guarded_eq_ok_iff, guarded_eq_ok_iff] at hplace
  exact ⟨hplace.1, hplace.2.1⟩

theorem Path.exists_toList_of_isAbsolute {path : String} (h : isAbsolute path) :
    ∃ rest, path.toList = '/' :: rest := by
  rw [isAbsolute, beq_iff_eq] at h
  exact List.head?_eq_some_iff.mp h

namespace Toolbox
variable {files : FileTree} {setting : Setting} {path program temporaryPath source name : String}

theorem runFile_of_mem (hname : name ∈ smallPrograms)
    (hfind : files.find path = .ok (.file (encodeUtf8 (commandMark ++ name)) true))
    (arguments : List String) : runFile files path arguments = runCommand files name arguments := by
  have hread : ∀ name ∈ smallPrograms,
      decodeUtf8Lossy (encodeUtf8 (commandMark ++ name)) = commandMark ++ name ∧
      (commandMark ++ name).startsWith commandMark ∧
      ((commandMark ++ name).drop commandMark.length).toString = name := by
    decide +kernel
  obtain ⟨htext, hmark, hdrop⟩ := hread name hname
  rw [runFile, hfind]
  dsimp only
  rw [htext, if_pos hmark, hdrop]

/-- What is named by an absolute path is no option. -/
theorem cat_of_isAbsolute (h : Path.isAbsolute path) (files : FileTree) :
    Shell.cat files [path] = Shell.concatenate files [path] := by
  obtain ⟨rest, hrest⟩ := Path.exists_toList_of_isAbsolute h
  have hne : ∀ text : String, text.toList.head? = some '-' → path ≠ text := by
    rintro text htext rfl
    rw [hrest] at htext
    cases htext
  have hstart : path.startsWith "-" = false := by
    rw [← Bool.not_eq_true, String.startsWith_string_iff, hrest]
    rintro ⟨others, hothers⟩
    cases hothers
  have hoption : Shell.refusedOption? "cat" [path] = none := by
    rw [Shell.refusedOption?]
    · rw [hrest]
      rfl
    · exact hne "--" rfl
  have hoperand : Shell.operands [path] = [path] := by
    rw [Shell.operands, hstart]
    · rfl
    · exact hne "--" rfl
  rw [Shell.cat, hoption, hoperand]
  rfl

theorem runCommand_cat (habsolute : Path.isAbsolute path) {content : List UInt8}
    (hread : files.readBytes path = .ok content) :
    runCommand files "cat" [path] = .finished (some 0) content [] := by
  have hdash : path ≠ "-" := by
    rintro rfl
    cases habsolute
  have hcat : Shell.cat files [path] = { output := content } := by
    rw [cat_of_isAbsolute habsolute, Shell.concatenate, if_neg hdash, hread]
    simp [Shell.concatenate]
  have hrun : runCommand files "cat" [path]
      = .finished (some (Shell.cat files [path]).status) (Shell.cat files [path]).output
          (Shell.cat files [path]).errors := rfl
  rw [hrun, hcat]

theorem start_of_isAbsolute {node : FileNode} (habsolute : Path.isAbsolute program)
    (hfind : files.find program = .ok node) {arguments : List String}
    (hzero : arguments.any (·.toList.contains '\x00') = false) (searchPath : List String) :
    start files searchPath program arguments = runFile files program arguments := by
  obtain ⟨hempty, hname⟩ := FileTree.of_find_eq_ok hfind
  obtain ⟨rest, hrest⟩ := Path.exists_toList_of_isAbsolute habsolute
  have hslash : program.toList.contains '/' := by
    rw [hrest]
    rfl
  rw [start, List.any_cons, hname, hzero, hempty, hslash]
  rfl

/-! ### Sources that are not expanded -/

section
variable
  (hprogram : setting.files.find program = .ok (.file (encodeUtf8 (commandMark ++ "cat")) true))
  (habsolute : Path.isAbsolute program) (htemporary : Path.isAbsolute temporaryPath)
  (hwrite : setting.files.writeBytes temporaryPath (encodeUtf8 source) = .ok files)
  (hne : setting.files.locate program ≠ setting.files.locate temporaryPath)
  (hfile : ∀ old sink, files.find temporaryPath ≠ .ok (.device old sink))
  (hread : files.MayRead temporaryPath)
include hprogram habsolute htemporary hwrite hne hfile hread

/-- The program for files as they are gives back the source that is in the temporary file. -/
theorem run_cat :
    run setting temporaryPath { program, source } = .finished (some 0) (encodeUtf8 source) [] := by
  obtain ⟨executable, hwritten⟩ : ∃ executable,
      files.find temporaryPath = .ok (.file (encodeUtf8 source) executable) := by
    obtain hwritten | ⟨old, sink, hdevice⟩ := FileTree.find_of_writeBytes hwrite
    · exact hwritten
    · exact absurd hdevice (hfile old sink)
  have hfound := FileTree.find_of_writeBytes_ne hwrite hprogram hne
  have hfiles : filesWith setting.files temporaryPath (some source) = files := by
    rw [filesWith, hwrite]
    rfl
  have hzero : [temporaryPath].any (·.toList.contains '\x00') = false := by
    rw [List.any_cons, (FileTree.of_find_eq_ok hwritten).2]
    rfl
  have hrun : run setting temporaryPath { program, source }
      = start files setting.searchPath program [temporaryPath] := by
    rw [run, hfiles]
    rfl
  rw [hrun, start_of_isAbsolute habsolute hfound hzero, runFile_of_mem (by decide) hfound,
    runCommand_cat htemporary (FileTree.readBytes_of_find hread hwritten)]

/-- A source stays as it is when that program takes the place of the preprocessor. -/
theorem value_expand_cat (packageConfig : String) :
    (Preprocess.expand (tools setting temporaryPath)
        { package := none, preprocessor := program, packageConfig, flags := [] }
        source).outcome.value = .ok { flags := [], expanded := source } := by
  have hwrites : (tools setting temporaryPath).Writes { program, source } source :=
    ⟨encodeUtf8 source, [], run_cat hprogram habsolute htemporary hwrite hne hfile hread, rfl,
      decodeUtf8_encodeUtf8 source⟩
  rw [Preprocess.expand, Attempt.value_bind_eq_ok_iff]
  refine ⟨[], rfl, ?_⟩
  rw [Preprocess.translate, Attempt.value_bind_eq_ok_iff]
  refine ⟨(), rfl, ?_⟩
  rw [Attempt.value_bind_eq_ok_iff]
  refine ⟨source, ?_, rfl⟩
  rw [Attempt.value_mapError, Tools.outcome_output, Tools.outputOf_eq_ok_iff.mpr hwrites]
  rfl

end

/-- All of that holds of what the program has at hand. -/
example :
    run { files := install { nodes := [(["tmp"], .directory)] }, searchPath := [] } "/tmp/source"
      { program := "/bin/cat", source := some "int f(int a);" }
      = .finished (some 0) (encodeUtf8 "int f(int a);") [] := by
  decide +kernel

end Toolbox
end HeaderBindings
