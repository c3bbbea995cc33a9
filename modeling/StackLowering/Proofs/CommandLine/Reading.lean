import StackLowering.CommandLine.Run
import StackLowering.Proofs.Sequencing
import StackLowering.Proofs.Storage.Reordering
import Mathlib.Data.List.Sort
import Mathlib.Data.String.Basic

/-!
# What a request asks for

`Request.Asks` says which job a request asks for, in terms of what is at each
place of a file system and without mention of any order: the target that is
described, and as units the file at the path or the sources of the directory in
ascending order of their names. `Request.comes_assembly` says that a request comes
to the assembly text of that job or to its mishap, and that it fails in another
way exactly if there is no such job.
-/

namespace StackLowering

open CommandLine (SourceFile Failure Request Surroundings sourceExtension)

namespace FileSystem

/-- A path leads to a file with a text. -/
def HasText (files : FileSystem) (path : Path) (text : String) : Prop :=
  files.find path = .ok (.file text.toUTF8)

/-- A path leads to a file with a unit, which has the name of the file without its extension. -/
structure HasUnit (files : FileSystem) (path : Path) (unit : SourceUnit) : Prop where
  name : unit.name = path.stem
  text : files.HasText path unit.source

/-- A source of a directory: an entry whose path leads to a file and has the extension of
sources. -/
structure HasSource (files : FileSystem) (directory : Path) (name : String) : Prop where
  entry : ∃ place, files.locate directory = .ok place ∧
    (files.node? (place ++ [name])).isSome = true
  isFile : files.isFile (directory.child name) = true
  extension : (directory.child name).extension? = some sourceExtension

end FileSystem

namespace CommandLine.Request

variable {request : Request} {files : FileSystem}

/-- The target that a request asks for. -/
inductive Targets (request : Request) (files : FileSystem) : Target → Prop where
  | usual (unnamed : request.target = none) : Targets request files Target.hack
  | described {path : Path} {description : String} {target : Target}
      (named : request.target = some path) (text : files.HasText path description)
      (read : Target.read description = .ok target) : Targets request files target

/-- The files that a request asks for: the one at its path, or the sources of the directory there in
ascending order of their names. -/
inductive Sources (request : Request) (files : FileSystem) : List Path → Prop where
  | file (single : files.isDirectory request.path = false) : Sources request files [request.path]
  | directory {names : List String} (several : files.isDirectory request.path = true)
      (ascending : names.Pairwise (· < ·))
      (sources : ∀ name, name ∈ names ↔ files.HasSource request.path name)
      (nonempty : names ≠ []) : Sources request files (names.map request.path.child)

/-- The job that a request asks for. -/
structure Asks (request : Request) (files : FileSystem) (job : Job) : Prop where
  target : request.Targets files job.target
  units : ∃ paths, request.Sources files paths ∧ List.Forall₂ files.HasUnit paths job.units
  bootstrap : job.bootstrap = request.bootstrap
  annotate : job.annotate = request.annotate

/-! ## Texts and targets -/

/-- A text is read from exactly the bytes that encode it. -/
theorem fromUTF8?_eq_some_iff {content : ByteArray} {text : String} :
    String.fromUTF8? content = some text ↔ content = text.toUTF8 := by
  unfold String.fromUTF8?
  constructor
  · intro decoded
    split at decoded
    · cases decoded
      rfl
    · cases decoded
  · rintro rfl
    exact dif_pos text.isValidUTF8

/-- A text is read exactly if there is a file with that text at the path. -/
theorem readText_eq_ok_iff {path : Path} {text : String} :
    (Surroundings.ofFiles files).readText path = .ok text ↔ files.HasText path text := by
  unfold Surroundings.readText FileSystem.HasText
  rw [← FileSystem.read_eq_ok_iff]
  show (files.read path >>= _) = _ ↔ _
  cases files.read path with
  | error trouble => simp [bind, Except.bind]
  | ok content =>
    simp only [bind, Except.bind, Except.ok.injEq, ← fromUTF8?_eq_some_iff]
    cases String.fromUTF8? content <;> simp

/-- A target is read exactly if the request gets it from the description that it names. -/
theorem readTarget_eq_ok_iff {target : Target} :
    request.readTarget (.ofFiles files) = .ok target ↔ request.Targets files target := by
  unfold readTarget
  constructor
  · intro read
    split at read
    · rename_i unnamed
      cases read
      exact .usual unnamed
    · rename_i path named
      split at read
      · cases read
      · rename_i description text
        split at read
        · rename_i decoded
          cases read
          exact .described named (readText_eq_ok_iff.mp text) decoded
        · cases read
  · rintro (unnamed | ⟨named, text, decoded⟩)
    · rw [unnamed]
    · rw [named]
      simp only [readText_eq_ok_iff.mpr text, decoded]

/-! ## Sources -/

/-- The names of the sources among the entries of a directory, in order. -/
def sourceNames (surroundings : Surroundings) (directory : Path) (names : List String) :
    List String :=
  (names.filter fun name => surroundings.isFile (directory.child name) &&
    (directory.child name).extension? == some sourceExtension).mergeSort
      fun one other => decide (one ≤ other)

/-- The sources of a directory are its children with the names of sources. -/
theorem sourceEntries_eq (surroundings : Surroundings) (directory : Path) (names : List String) :
    sourceEntries surroundings directory names =
      (sourceNames surroundings directory names).map directory.child := rfl

/-- Sources are entries of the directory. -/
theorem mem_sourceNames {directory : Path} {place : Place} {name : String}
    (located : files.locate directory = .ok place) :
    name ∈ sourceNames (.ofFiles files) directory (files.entries place) ↔
      files.HasSource directory name := by
  rw [sourceNames, List.mem_mergeSort, List.mem_filter, FileSystem.mem_entries,
    Bool.and_eq_true, beq_iff_eq]
  constructor
  · rintro ⟨entry, isFile, extension⟩
    exact ⟨⟨place, located, entry⟩, isFile, extension⟩
  · rintro ⟨⟨other, otherLocated, entry⟩, isFile, extension⟩
    rw [located] at otherLocated
    cases otherLocated
    exact ⟨entry, isFile, extension⟩

/-- Sources are in ascending order. -/
theorem pairwise_sourceNames (surroundings : Surroundings) (directory : Path)
    {names : List String} (distinct : names.Nodup) :
    (sourceNames surroundings directory names).Pairwise (· < ·) := by
  have ordered : (sourceNames surroundings directory names).Pairwise (· ≤ ·) :=
    List.pairwise_mergeSort' (· ≤ ·) _
  have apart : (sourceNames surroundings directory names).Nodup :=
    (List.mergeSort_perm _ _).nodup_iff.mpr (distinct.filter _)
  exact (ordered.and apart).imp fun ⟨atMost, different⟩ => lt_of_le_of_ne atMost different

/-- A file is the only source of its request. -/
theorem sourcePaths_of_file (single : files.isDirectory request.path = false) :
    request.sourcePaths (.ofFiles files) = .ok [request.path] := by
  simp only [sourcePaths, Surroundings.ofFiles, single]
  rfl

/-- A directory is as good as the sources in it, and refused if there are none. -/
theorem sourcePaths_of_directory {place : Place} (located : files.locate request.path = .ok place)
    (directory : files.node? place = some .directory) {names : List String}
    (found : sourceNames (.ofFiles files) request.path (files.entries place) = names) :
    request.sourcePaths (.ofFiles files) =
      if names = [] then .error (.noSources request.path)
      else .ok (names.map request.path.child) := by
  subst found
  have several : (Surroundings.ofFiles files).isDirectory request.path = true :=
    FileSystem.isDirectory_iff.mpr ⟨place, located, directory⟩
  have listed : (Surroundings.ofFiles files).list request.path = .ok (files.entries place) :=
    FileSystem.list_of_node? located directory
  simp only [sourcePaths, several, listed, sourceEntries_eq, List.map_eq_nil_iff, if_true]

/-- The paths of the sources are those that a request asks for. -/
theorem sourcePaths_eq_ok_iff {paths : List Path} :
    request.sourcePaths (.ofFiles files) = .ok paths ↔ request.Sources files paths := by
  cases single : files.isDirectory request.path with
  | false =>
    rw [sourcePaths_of_file single]
    constructor
    · rintro ⟨⟩
      exact .file single
    · rintro (_ | ⟨several⟩)
      · rfl
      · rw [several] at single
        cases single
  | true =>
    obtain ⟨place, located, directory⟩ := FileSystem.isDirectory_iff.mp single
    rw [sourcePaths_of_directory located directory rfl]
    have ascending := pairwise_sourceNames (.ofFiles files) request.path
      (files.nodup_entries place)
    constructor
    · intro read
      split at read
      · cases read
      · rename_i nonempty
        cases read
        exact .directory single ascending (fun _ => mem_sourceNames located) nonempty
    · rintro (several | ⟨-, otherAscending, sources, nonempty⟩)
      · rw [several] at single
        cases single
      · -- Ascending lists with the same members are the same list.
        have same := ascending.eq_of_mem_iff otherAscending fun name => by
          rw [mem_sourceNames located, sources]
        rw [same, if_neg nonempty]

/-- A unit stands at a path exactly if the source there is read as that unit. -/
theorem hasUnit_iff {path : Path} {unit : SourceUnit} :
    files.HasUnit path unit ↔
      ∃ file, readSource (.ofFiles files) path = .ok file ∧ file.unit = unit := by
  unfold readSource
  constructor
  · rintro ⟨named, text⟩
    refine ⟨⟨path, unit.source⟩, ?_, ?_⟩
    · simp only [readText_eq_ok_iff.mpr text]
    · rw [SourceFile.unit, ← named]
  · rintro ⟨file, read, rfl⟩
    split at read
    · rename_i source text
      cases read
      exact ⟨rfl, readText_eq_ok_iff.mp text⟩
    · cases read

/-- Reading some files gives their units. -/
theorem forall₂_hasUnit_iff {paths : List Path} {units : List SourceUnit} :
    List.Forall₂ files.HasUnit paths units ↔
      ∃ sources, paths.mapM (readSource (.ofFiles files)) = .ok sources ∧
        sources.map SourceFile.unit = units := by
  simp only [mapM_eq_ok_iff]
  constructor
  · intro held
    induction held with
    | nil => exact ⟨[], .nil, rfl⟩
    | cons first _ inductionHypothesis =>
      obtain ⟨file, read, rfl⟩ := hasUnit_iff.mp first
      obtain ⟨sources, others, rfl⟩ := inductionHypothesis
      exact ⟨file :: sources, .cons read others, rfl⟩
  · rintro ⟨sources, read, rfl⟩
    rw [List.forall₂_map_right_iff]
    exact read.imp fun path file read => hasUnit_iff.mpr ⟨file, read, rfl⟩

/-! ## Jobs -/

/-- A request reads the job that it asks for. -/
theorem asks_iff {job : Job} :
    request.Asks files job ↔
      ∃ target sources, request.readTarget (.ofFiles files) = .ok target ∧
        request.readSources (.ofFiles files) = .ok sources ∧ request.job target sources = job := by
  constructor
  · rintro ⟨asked, ⟨paths, paths_eq, held⟩, bootstrap, annotate⟩
    obtain ⟨sources, read, units⟩ := forall₂_hasUnit_iff.mp held
    refine ⟨job.target, sources, readTarget_eq_ok_iff.mpr asked, ?_, ?_⟩
    · rw [readSources, sourcePaths_eq_ok_iff.mpr paths_eq]
      exact read
    · rw [Request.job, units, ← bootstrap, ← annotate]
  · rintro ⟨target, sources, asked, read, rfl⟩
    refine ⟨readTarget_eq_ok_iff.mp asked, ?_, rfl, rfl⟩
    obtain ⟨paths, found, loaded⟩ := exists_of_bind_eq_ok read
    exact ⟨paths, sourcePaths_eq_ok_iff.mp found,
      forall₂_hasUnit_iff.mpr ⟨sources, loaded, rfl⟩⟩

/-- A request asks for one job at most. -/
theorem Asks.unique {job other : Job} (asked : request.Asks files job)
    (again : request.Asks files other) : job = other := by
  obtain ⟨target, sources, readTarget, readSources, rfl⟩ := asks_iff.mp asked
  obtain ⟨otherTarget, otherSources, otherReadTarget, otherReadSources, rfl⟩ := asks_iff.mp again
  rw [readTarget] at otherReadTarget
  rw [readSources] at otherReadSources
  cases otherReadTarget
  cases otherReadSources
  rfl

/-! ## Assembly texts -/

/-- A target that cannot be read makes the request fail with status two. -/
theorem status_of_readTarget {surroundings : Surroundings} {failure : Failure}
    (failed : request.readTarget surroundings = .error failure) : failure.status = 2 := by
  unfold readTarget at failed
  split at failed
  · cases failed
  · split at failed
    · cases failed
      rfl
    · split at failed
      · cases failed
      · cases failed
        rfl

/-- Sources that cannot be found make the request fail with status two. -/
theorem status_of_sourcePaths {surroundings : Surroundings} {failure : Failure}
    (failed : request.sourcePaths surroundings = .error failure) : failure.status = 2 := by
  unfold sourcePaths at failed
  split at failed
  · split at failed
    · cases failed
      rfl
    · dsimp only at failed
      split at failed
      · cases failed
        rfl
      · cases failed
  · cases failed

/-- A source that cannot be read makes the request fail with status two. -/
theorem status_of_readSource {surroundings : Surroundings} {path : Path} {failure : Failure}
    (failed : readSource surroundings path = .error failure) : failure.status = 2 := by
  unfold readSource at failed
  split at failed
  · cases failed
  · cases failed
    rfl

/-- Sources that cannot all be read make the request fail with status two. -/
theorem status_of_readSources {surroundings : Surroundings} {failure : Failure}
    (failed : request.readSources surroundings = .error failure) : failure.status = 2 := by
  unfold readSources at failed
  cases found : request.sourcePaths surroundings with
  | error trouble =>
    rw [found] at failed
    cases failed
    exact status_of_sourcePaths found
  | ok paths =>
    rw [found] at failed
    obtain ⟨path, -, unread⟩ := exists_of_mapM_eq_error failed
    exact status_of_readSource unread

/-- What comes of a request before anything is written. -/
inductive Comes (request : Request) (files : FileSystem) : Except Failure String → Prop where
  | lowered {job : Job} {text : String} (asked : request.Asks files job)
      (assembled : job.assembly = .ok text) : Comes request files (.ok text)
  | refused {job : Job} {mishap : Mishap} (asked : request.Asks files job)
      (fails : job.assembly = .error mishap) (file : Option SourceFile) :
      Comes request files (.error (.unlowerable mishap file))
  | unread {failure : Failure} (unasked : ∀ job, ¬ request.Asks files job)
      (status : failure.status = 2) : Comes request files (.error failure)

/-- A request comes to the text or the mishap of the job that it asks for, or it asks for none. -/
theorem comes_assembly (request : Request) (files : FileSystem) :
    request.Comes files (request.assembly (.ofFiles files)) := by
  unfold assembly
  cases readTarget : request.readTarget (.ofFiles files) with
  | error failure =>
    refine .unread (fun job asked => ?_) (status_of_readTarget readTarget)
    obtain ⟨target, -, otherwise, -⟩ := asks_iff.mp asked
    rw [readTarget] at otherwise
    cases otherwise
  | ok target =>
    cases readSources : request.readSources (.ofFiles files) with
    | error failure =>
      refine .unread (fun job asked => ?_) (status_of_readSources readSources)
      obtain ⟨-, sources, -, otherwise, -⟩ := asks_iff.mp asked
      rw [readSources] at otherwise
      cases otherwise
    | ok sources =>
      have asked : request.Asks files (request.job target sources) :=
        asks_iff.mpr ⟨target, sources, readTarget, readSources, rfl⟩
      simp only [bind, Except.bind]
      split
      · rename_i text assembled
        exact .lowered asked assembled
      · rename_i mishap fails
        exact .refused asked fails _

end CommandLine.Request

end StackLowering
