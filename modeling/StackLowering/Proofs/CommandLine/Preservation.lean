import StackLowering.Proofs.CommandLine.DefaultOutput
import StackLowering.Proofs.CommandLine.Writing
import StackLowering.Proofs.Job.Admission

/-!
# What becomes of the sources

A request that names no output writes to a path that is derived from the path of its
sources. The sources of a directory have another extension than what is written, so
they are always kept. The path of a single source is taken as it is: if it has the
extension of what is written, it is its own output. `Request.sources_kept_iff` says
that this is the only way in which a source is lost.
-/

namespace StackLowering

namespace CommandLine.Request

variable {request : Request} {files : FileSystem}

/-- A request reads the content of a place as that of a source. -/
structure ReadsAt (request : Request) (files : FileSystem) (place : Place)
    (content : ByteArray) : Prop where
  source : ∃ paths path, request.Sources files paths ∧ path ∈ paths ∧
    files.locate path = .ok place
  file : files.node? place = some (.file content)

/-- A request writes its assembly text over its only source, which is another text. -/
structure Erases (request : Request) (files : FileSystem) : Prop where
  single : files.isDirectory request.path = false
  extension : request.path.extension? = some outputExtension
  stem : request.path.stem ≠ "."
  changed : ∃ job text, request.Asks files job ∧ job.assembly = .ok text ∧
    ¬ files.HasText request.path text

/-- Without an output of its own, a request writes to its default output. -/
theorem outputPath_of_unnamed (unnamed : request.output = none) :
    request.outputPath (.ofFiles files) = defaultOutput (.ofFiles files) request.path := by
  rw [outputPath, unnamed]
  rfl

/-! ## Sources of directories -/

/-- A source of a directory is not where the output of the directory is. -/
theorem destination_ne_of_hasSource {path : Path} (several : files.isDirectory path = true)
    {source : String} (member : files.HasSource path source) :
    files.destination (path.child source) ≠
      files.destination (defaultOutput (.ofFiles files) path) := by
  intro same
  obtain ⟨before, last, text, bounded, solid⟩ := FileSystem.exists_last_part path.text.toList
  have extension := member.extension
  cases named : (path.child source).fileName? with
  | none =>
    rw [Path.extension?, named] at extension
    cases extension
  | some name =>
    obtain ⟨tail, split⟩ := Path.split_of_fileName? named
    rw [defaultOutput_of_directory several, files.destination_of_split split,
      files.destination_appendExtension text bounded solid plainExtension_outputExtension] at same
    have sameName := List.singleton_inj.mp (List.append_inj_right' same rfl)
    rw [split.extension?_of_name plainExtension_outputExtension sameName] at extension
    split_ifs at extension
    exact absurd extension (by decide)

/-! ## Single sources -/

/-- A single source has the name of a unit. -/
theorem exists_name_of_lowered (single : files.isDirectory request.path = false) {job : Job}
    {text : String} (asked : request.Asks files job) (assembled : job.assembly = .ok text) :
    ∃ name, request.path.fileName? = some name := by
  rw [← Option.isSome_iff_exists]
  by_contra nameless
  rw [Option.not_isSome_iff_eq_none] at nameless
  obtain ⟨commands, read⟩ : ∃ commands, job.commands = .ok commands := by
    cases read : job.commands with
    | ok commands => exact ⟨commands, rfl⟩
    | error mishap =>
      rw [Job.assembly, Job.blocks, read] at assembled
      cases assembled
  obtain ⟨paths, sources, units⟩ := asked.units
  cases sources with
  | directory several =>
    rw [several] at single
    cases single
  | file =>
    obtain ⟨unit, others, held, -, split⟩ := List.forall₂_cons_left_iff.mp units
    have member : unit ∈ job.units := by
      rw [split]
      exact List.mem_cons_self
    have symbol := Job.isSymbol_of_commands read member
    rw [held.name, Path.stem, nameless] at symbol
    cases symbol

/-- A path that ends in its name and leads to where its output is has the extension of what is
written. -/
theorem extension?_of_destination_eq {path : Path} {before name : List Char}
    (single : files.isDirectory path = false) (split : path.Split before name [])
    (same : files.destination path = files.destination (defaultOutput (.ofFiles files) path)) :
    path.extension? = some outputExtension ∧ path.stem ≠ "." := by
  rw [defaultOutput_of_file single, files.destination_of_split split] at same
  have other : path.stem ≠ "." := by
    intro self
    rw [files.destination_withExtension_parent split self] at same
    have lengths := congrArg List.length same
    simp at lengths
    omega
  rw [files.destination_withExtension split plainExtension_outputExtension (Or.inl other)] at same
  have sameName := List.singleton_inj.mp (List.append_inj_right' same rfl)
  rw [split.extension?_of_name plainExtension_outputExtension sameName,
    if_neg split.stem_ne_empty]
  exact ⟨rfl, other⟩

/-- A source at the place to which a request writes is its only source, and has the extension of
what is written. -/
theorem single_of_readsAt {place : Place} {content : ByteArray} {text : String}
    (unnamed : request.output = none) (writes : request.Writes files text place)
    (reads : request.ReadsAt files place content) :
    files.isDirectory request.path = false ∧ files.locate request.path = .ok place ∧
      request.path.extension? = some outputExtension ∧ request.path.stem ≠ "." := by
  obtain ⟨⟨paths, path, sources, member, located⟩, file⟩ := reads
  obtain ⟨⟨job, asked, assembled⟩, writable⟩ := writes
  rw [outputPath_of_unnamed unnamed] at writable
  have same : files.destination path =
      files.destination (defaultOutput (.ofFiles files) request.path) := by
    rw [FileSystem.destination_of_locate located, FileSystem.destination_of_writable writable]
  cases sources with
  | directory several _ among =>
    obtain ⟨source, inNames, rfl⟩ := List.mem_map.mp member
    exact absurd same (destination_ne_of_hasSource several ((among source).mp inNames))
  | file single =>
    obtain rfl := List.mem_singleton.mp member
    obtain ⟨name, named⟩ := exists_name_of_lowered single asked assembled
    obtain ⟨tail, split⟩ := Path.split_of_fileName? named
    obtain rfl := FileSystem.tail_eq_nil_of_file located file split
    exact ⟨single, located, extension?_of_destination_eq single split same⟩

/-- A source that is its own output is written over. -/
theorem Erases.exists_writes (erases : request.Erases files) (unnamed : request.output = none) :
    ∃ place content text, request.ReadsAt files place content ∧
      request.Writes files text place ∧ content ≠ text.toUTF8 := by
  obtain ⟨single, extension, stem, job, text, asked, assembled, changed⟩ := erases
  obtain ⟨paths, sources, units⟩ := asked.units
  cases sources with
  | directory several =>
    rw [several] at single
    cases single
  | file =>
    obtain ⟨unit, others, held, -, -⟩ := List.forall₂_cons_left_iff.mp units
    obtain ⟨place, located, file⟩ := FileSystem.find_eq_ok_iff.mp held.text
    obtain ⟨name, named⟩ := exists_name_of_lowered single asked assembled
    obtain ⟨tail, split⟩ := Path.split_of_fileName? named
    obtain rfl := FileSystem.tail_eq_nil_of_file located file split
    refine ⟨place, unit.source.toUTF8, text, ⟨⟨_, _, .file single, List.mem_singleton_self _,
      located⟩, file⟩, ⟨⟨job, asked, assembled⟩, ?_⟩, fun same => changed ?_⟩
    · rw [outputPath_of_unnamed unnamed, defaultOutput_of_file single,
        split.withExtension_self extension stem]
      exact FileSystem.writable_of_file located file
    · rw [FileSystem.HasText, ← same]
      exact held.text

/-! ## All sources -/

/-- A request that names no output leaves every source as it was, unless it has a single source with
the extension of what is written, and writes another text. -/
theorem sources_kept_iff (request : Request) (verbosity : Nat) (files : FileSystem)
    (unnamed : request.output = none) :
    (∀ place content, request.ReadsAt files place content →
        (request.carryOut verbosity files).2.node? place = some (.file content)) ↔
      ¬ request.Erases files := by
  have settles := request.settles_carryOut verbosity files
  constructor
  · intro kept erases
    obtain ⟨place, content, text, reads, writes, changed⟩ := erases.exists_writes unnamed
    have written := (settles.replaces text place writes).written
    rw [kept place content reads] at written
    exact changed (Node.file.inj (Option.some.inj written))
  · intro harmless place content reads
    by_cases succeeds : (request.carryOut verbosity files).1.status = 0
    · obtain ⟨text, other, writes⟩ := settles.written.mp succeeds
      have replaces := settles.replaces text other writes
      by_cases elsewhere : place = other
      · subst elsewhere
        obtain ⟨single, located, extension, stem⟩ := single_of_readsAt unnamed writes reads
        obtain ⟨job, asked, assembled⟩ := writes.lowered
        -- What is written is what has been there.
        have same : files.HasText request.path text := by
          by_contra changed
          exact harmless ⟨single, extension, stem, job, text, asked, assembled, changed⟩
        obtain ⟨here, locatedHere, found⟩ := FileSystem.find_eq_ok_iff.mp same
        rw [located] at locatedHere
        cases locatedHere
        rw [replaces.written, ← found, reads.file]
      · rw [replaces.kept place elsewhere, reads.file]
    · rw [settles.untouched succeeds, reads.file]

/-- A single source under a usual name. -/
def soleSource : FileSystem where
  nodes := [(["x.vm"], .file "add".toUTF8)]

/-- The source is still there after the request. -/
theorem soleSource_kept :
    ReadsAt { path := ⟨"x.vm"⟩ } soleSource ["x.vm"] "add".toUTF8 ∧
      (carryOut { path := ⟨"x.vm"⟩ } 0 soleSource).2.node? ["x.vm"] =
        some (.file "add".toUTF8) := by
  have reads : ReadsAt { path := ⟨"x.vm"⟩ } soleSource ["x.vm"] "add".toUTF8 :=
    { source := ⟨_, _, .file (by decide +kernel), List.mem_singleton_self _, by decide +kernel⟩
      file := rfl }
  have harmless : ¬ Erases { path := ⟨"x.vm"⟩ } soleSource := by
    rintro ⟨-, extension, -, -⟩
    exact absurd extension (by decide +kernel)
  exact ⟨reads, (sources_kept_iff { path := ⟨"x.vm"⟩ } 0 soleSource rfl).mpr harmless _ _ reads⟩

/-- A single source under the name of an output. -/
def soleOutput : FileSystem where
  nodes := [(["x.asm"], .file "add".toUTF8)]

/-- The assembly text of an addition. -/
def additionText : String := "@SP\nAM=M-1\nD=M\nA=A-1\nM=D+M\n"

/-- The source is replaced by its assembly text. -/
theorem soleOutput_erased :
    ReadsAt { path := ⟨"x.asm"⟩ } soleOutput ["x.asm"] "add".toUTF8 ∧
      (carryOut { path := ⟨"x.asm"⟩ } 0 soleOutput).2.node? ["x.asm"] =
        some (.file additionText.toUTF8) ∧
      "add".toUTF8 ≠ additionText.toUTF8 := by
  have single : soleOutput.isDirectory ⟨"x.asm"⟩ = false := by decide +kernel
  have asked : Asks { path := ⟨"x.asm"⟩ } soleOutput { units := [⟨"x", "add"⟩] } :=
    { target := .usual rfl
      units := ⟨_, .file single, .cons ⟨by decide +kernel, rfl⟩ .nil⟩
      bootstrap := rfl
      annotate := rfl }
  have writes : Writes { path := ⟨"x.asm"⟩ } soleOutput additionText ["x.asm"] :=
    { lowered := ⟨_, asked, by decide +kernel⟩
      writable := by decide +kernel }
  have settles := settles_carryOut { path := ⟨"x.asm"⟩ } 0 soleOutput
  exact ⟨⟨⟨_, _, .file single, List.mem_singleton_self _, by decide +kernel⟩, rfl⟩,
    (settles.replaces _ _ writes).written, by decide +kernel⟩

end CommandLine.Request

end StackLowering
