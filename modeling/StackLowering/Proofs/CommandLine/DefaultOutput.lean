import StackLowering.CommandLine.Run
import StackLowering.Proofs.Storage.Siblings

/-!
# Where requests write by default

A request that names no output writes to a place beside the one that its path names.
For a directory the extension is put behind the path as it was written, so this holds
for the spellings of the path that end in the directory's name, and the others lead
inside. For a file the extension of its name is exchanged, which leads beside the
file unless nothing but two dots is left of the name. `defaultOutput_beside_iff` says
so for every path that has a file name.
-/

namespace StackLowering.CommandLine.Request

variable {files : FileSystem} {path : Path}

/-- The extension of generated files has no slash and no dot in it. -/
theorem plainExtension_outputExtension : Path.PlainExtension outputExtension := by
  constructor <;> decide

/-- Beside a directory, the extension is appended to its path. -/
theorem defaultOutput_of_directory (several : files.isDirectory path = true) :
    defaultOutput (.ofFiles files) path = path.appendExtension outputExtension :=
  if_pos several

/-- Beside a file, the extension replaces that of its name. -/
theorem defaultOutput_of_file (single : files.isDirectory path = false) :
    defaultOutput (.ofFiles files) path = path.withExtension outputExtension := by
  refine if_neg fun several => ?_
  rw [show files.isDirectory path = true from several] at single
  cases single

/-- The default output of a path with a file name is beside the place that the path names: for a
directory exactly if the path ends in its name, and otherwise unless the stem of the name is a
dot and nothing is behind the name. -/
theorem defaultOutput_beside_iff (files : FileSystem) {path : Path} {name : List Char}
    (named : path.fileName? = some name) :
    ∃ parent, files.destination path = parent ++ [String.ofList name] ∧
      (files.isDirectory path = true →
        (files.destination (defaultOutput (.ofFiles files) path) =
            parent ++ [String.ofList name ++ "." ++ outputExtension] ↔
          name <:+ path.text.toList) ∧
        (¬ name <:+ path.text.toList →
          ∃ last, (last = "" ∨ last = ".") ∧
            files.destination (defaultOutput (.ofFiles files) path) =
              parent ++ [String.ofList name, last ++ "." ++ outputExtension])) ∧
      (files.isDirectory path = false →
        (files.destination (defaultOutput (.ofFiles files) path) =
            parent ++ [path.stem ++ "." ++ outputExtension] ↔
          ¬ (path.stem = "." ∧ name <:+ path.text.toList)) ∧
        (path.stem = "." ∧ name <:+ path.text.toList →
          files.destination (defaultOutput (.ofFiles files) path) = parent.dropLast)) := by
  obtain ⟨tail, split⟩ := Path.split_of_fileName? named
  have extended := plainExtension_outputExtension
  refine ⟨_, files.destination_of_split split, fun several => ?_, fun single => ?_⟩
  · rw [defaultOutput_of_directory several, split.isSuffixOf_iff]
    have inside := files.destination_appendExtension_inside split extended
    refine ⟨⟨fun beside => ?_, ?_⟩, inside⟩
    · by_contra behind
      obtain ⟨last, -, leads⟩ := inside behind
      -- A place beside the directory has one name less than a place inside.
      have lengths := congrArg List.length (beside.symm.trans leads)
      simp at lengths
    · rintro rfl
      have text := split.text
      rw [List.append_nil] at text
      exact files.destination_appendExtension text split.bounded split.proper.solid extended
  · rw [defaultOutput_of_file single, split.isSuffixOf_iff]
    have away : path.stem = "." ∧ tail = [] →
        files.destination (path.withExtension outputExtension) =
          (files.destination ⟨String.ofList path.beforeName⟩).dropLast := by
      rintro ⟨self, rfl⟩
      exact files.destination_withExtension_parent split self _
    refine ⟨⟨fun beside parent => ?_, fun kept => ?_⟩, away⟩
    · have lengths := congrArg List.length (beside.symm.trans (away parent))
      simp at lengths
      omega
    · exact files.destination_withExtension split extended (not_and_or.mp kept)

/-- A directory with a source. -/
def programDirectory : FileSystem where
  nodes := [(["Program"], .directory), (["Program", "Main.vm"], .file "add".toUTF8)]

/-- The output of a directory is next to it. -/
theorem program_beside :
    Path.fileName? ⟨"Program"⟩ = some "Program".toList ∧
      programDirectory.isDirectory ⟨"Program"⟩ = true ∧
      programDirectory.destination ⟨"Program"⟩ = ["Program"] ∧
      programDirectory.destination (defaultOutput (.ofFiles programDirectory) ⟨"Program"⟩) =
        ["Program.asm"] := by
  have named : Path.fileName? ⟨"Program"⟩ = some "Program".toList := by decide +kernel
  have several : programDirectory.isDirectory ⟨"Program"⟩ = true := by decide +kernel
  have reached : programDirectory.destination ⟨"Program"⟩ = ["Program"] := by decide +kernel
  obtain ⟨parent, leads, directory, -⟩ := defaultOutput_beside_iff programDirectory named
  obtain rfl : [] = parent := by
    rw [reached] at leads
    exact List.append_inj_left' leads rfl
  refine ⟨named, several, reached, ?_⟩
  exact (directory several).1.mpr (List.suffix_refl _)

/-- With a slash behind the directory its output is in it, under no name but an extension. -/
theorem program_slash_inside :
    Path.fileName? ⟨"Program/"⟩ = some "Program".toList ∧
      programDirectory.isDirectory ⟨"Program/"⟩ = true ∧
      programDirectory.destination ⟨"Program/"⟩ = ["Program"] ∧
      programDirectory.destination (defaultOutput (.ofFiles programDirectory) ⟨"Program/"⟩) =
        ["Program", ".asm"] ∧
      ["Program", ".asm"] ≠ ["Program.asm"] := by
  decide +kernel

end StackLowering.CommandLine.Request
