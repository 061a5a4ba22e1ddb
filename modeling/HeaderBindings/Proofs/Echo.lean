import HeaderBindings.Proofs.Batches
import HeaderBindings.Proofs.Lines

/-!
The echo of a source in front of its stubs. Every line of the source becomes a comment line of its
own behind a heading, whatever the source holds, so the text of the stubs goes on behind the comment
as it would stand without it, and nothing else about a run depends on the echo.
-/

namespace HeaderBindings
open Text

namespace Stubs

/-- The lines of an echoed source are a heading and the lines of the source as comments. -/
theorem cutAt_echoComment (source : String) :
    cutAt '\n' (echoComment source).toList
      = "// input: ".toList :: (lines source.toList).map ("// ".toList ++ ·) := by
  have hlines : (echoComment source).toList
      = ['\n'].intercalate ("// input: ".toList :: (lines source.toList).map ("// ".toList ++ ·)) := by
    rw [echoComment, String.toList_intercalate]
    simp [List.map_map, Function.comp_def]
  rw [hlines]
  refine cutAt_intercalate (by simp) (List.forall_mem_cons.mpr ⟨by simp, ?_⟩)
  rw [List.forall_mem_map]
  intro line hmem hnewline
  exact newline_not_mem_lines _ line hmem (by simpa using hnewline)

/-- What stands behind an echo stands on lines of its own. -/
theorem cutAt_behind_echo (source text : String) :
    cutAt '\n' (echoComment source ++ "\n" ++ text).toList
      = cutAt '\n' (echoComment source).toList ++ cutAt '\n' text.toList := by
  have htext : (echoComment source ++ "\n" ++ text).toList
      = (echoComment source).toList ++ '\n' :: text.toList := by simp
  rw [htext, cutAt_append_cons]

/-- The declarations that are read do not depend on the echo. -/
theorem declarations_echo (tools : Tools) (options : StubOptions) (echoInput : Bool)
    (input : String) :
    declarations tools { options with echoInput } input = declarations tools options input := rfl

theorem events_generate_echo (tools : Tools) (options : StubOptions) (echoInput : Bool)
    (input : String) :
    (generate tools { options with echoInput } input).outcome.events
      = (generate tools options input).outcome.events := by
  rw [generate, generate, Attempt.events_bind, Attempt.events_bind, declarations_echo]
  simp only [Attempt.events_mapError, events_render]

/-- With the echo, the comment and a line end stand in front of the text. -/
theorem value_generate_echo (tools : Tools) (options : StubOptions) (input : String) :
    (generate tools { options with echoInput := true } input).outcome.value
      = (generate tools { options with echoInput := false } input).outcome.value.map fun output =>
          { output with text := echoComment output.declarations.source ++ "\n" ++ output.text } := by
  rw [generate, generate, Attempt.value_bind, Attempt.value_bind,
    declarations_echo tools options true, declarations_echo tools options false]
  cases ((declarations tools options input).mapError StubError.preprocess).outcome.value with
  | error error => rfl
  | ok found =>
      simp only [Attempt.value_mapError, value_render]
      cases (Wrapper.renderAll options.style options.keepGoing
          found.header.functions).outcome.value with
      | error error => rfl
      | ok batch =>
          simp only [echo]
          rfl

/-- Echoing the source only puts its comment lines in front. They are a heading and one line for each
line of the source; a run succeeds with the echo exactly if it does without, reports the same, and
gives the same but for the comment in front of the text, which keeps to lines of its own. -/
theorem generate_echoing :
    (∀ source : String,
      let echoed := cutAt '\n' (echoComment source).toList
      echoed.length = 1 + (lines source.toList).length ∧
        (∀ line ∈ echoed, "// ".toList <+: line) ∧
        echoed = "// input: ".toList :: (lines source.toList).map ("// ".toList ++ ·)) ∧
    ∀ (tools : Tools) (options : StubOptions) (input : String),
      let echoing := (generate tools { options with echoInput := true } input).outcome
      let plain := (generate tools { options with echoInput := false } input).outcome
      echoing.events = plain.events ∧
        echoing.value = plain.value.map (fun output =>
          { output with text := echoComment output.declarations.source ++ "\n" ++ output.text }) ∧
        ∀ output echoed, plain.value = .ok output → echoing.value = .ok echoed →
          cutAt '\n' echoed.text.toList
            = cutAt '\n' (echoComment output.declarations.source).toList
              ++ cutAt '\n' output.text.toList := by
  refine ⟨fun source => ?_, fun tools options input => ?_⟩
  · intro echoed
    have hechoed : echoed = _ := cutAt_echoComment source
    refine ⟨?_, fun line hmem => ?_, hechoed⟩
    · rw [hechoed, List.length_cons, List.length_map, Nat.add_comm]
    · rw [hechoed] at hmem
      rcases List.mem_cons.mp hmem with rfl | hmem
      · exact ⟨"input: ".toList, by simp⟩
      · obtain ⟨rest, -, rfl⟩ := List.mem_map.mp hmem
        exact ⟨rest, rfl⟩
  · refine ⟨?_, value_generate_echo tools options input, fun output echoed hplain hechoing => ?_⟩
    · exact (events_generate_echo tools options true input).trans
        (events_generate_echo tools options false input).symm
    · rw [value_generate_echo, hplain] at hechoing
      obtain rfl := Except.ok.inj hechoing
      exact cutAt_behind_echo _ _

end Stubs

end HeaderBindings
