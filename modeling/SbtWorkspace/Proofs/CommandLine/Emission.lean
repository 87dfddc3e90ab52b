import SbtWorkspace.Proofs.CommandLine.Console
import SbtWorkspace.Proofs.Text.JsonArray
import SbtWorkspace.Proofs.Text.ShellWord

/-! The two forms in which a command line is printed, and what is read from them. The array has all of the
arguments; from the line for a shell the control sequences in them are gone, since printing leaves them out.
Main statement: `read_emit`. -/

namespace SbtWorkspace.CommandLine

variable {c : Context} {m : Machine}

/-- Both forms are printed for all arguments. A shell reads from its form the arguments without their control
sequences, and so the arguments themselves if and only if they have none; the array is read as the
arguments. -/
theorem read_emit (args : List String) :
    ∃ line array : Text,
      (emit args false).run c m = (.ok (), m.printed line) ∧
      (emit args true).run c m = (.ok (), m.printed array) ∧
      ShellWord.split line = some (args.map fun arg => Terminal.dropSequences (Text.ofString arg)) ∧
      (ShellWord.split line = some (args.map Text.ofString) ↔
        ∀ arg ∈ args, Terminal.dropSequences (Text.ofString arg) = Text.ofString arg) ∧
      Json.readArray array = some (args.map Text.ofString) := by
  have hsplit := ShellWord.split_join args
  have harray : (emit args true).run c m =
      (.ok (), m.printed (Text.ofString (Json.renderArray args ++ "\n"))) := by
    rw [emit, if_pos rfl, run_printLine, Json.dropSequences_renderArray]
  refine ⟨_, _, run_printLine (ShellWord.join args), harray, hsplit, ?_, Json.readArray_renderArray args⟩
  rw [hsplit, Option.some.injEq]
  exact List.map_inj_left

/-- An argument in colour, which a shell reads without the colour. -/
theorem read_emit_colored :
    ∃ line : Text, (emit ["\x1b[31mred\x1b[0m", "x"] false).run .bare { files := .empty } =
        (.ok (), Machine.printed { files := .empty } line) ∧
      ShellWord.split line = some (["red", "x"].map Text.ofString) ∧
      ShellWord.split line ≠ some (["\x1b[31mred\x1b[0m", "x"].map Text.ofString) :=
  ⟨Text.ofString "'red' x\n", rfl, by decide, by decide⟩

end SbtWorkspace.CommandLine
