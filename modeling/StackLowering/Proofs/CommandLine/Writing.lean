import StackLowering.Proofs.CommandLine.Reading

/-!
# What a request writes

A request writes everything or nothing. `Request.writes_all_or_nothing` gives the
exit status and the files after a request: the assembly text is written to one
place if there is one, and otherwise every place is left as it was. The order in
which directories are listed shows nowhere, neither in what is written nor in what
is told.
-/

namespace StackLowering

/-- One place takes a file with the given content, and all other places are as before. -/
structure FileSystem.Replaces (files : FileSystem) (place : Place) (content : ByteArray)
    (after : FileSystem) : Prop where
  written : after.node? place = some (.file content)
  kept : ∀ other, other ≠ place → after.node? other = files.node? other
  working : after.working = files.working

/-- A place that can be written is not the root. -/
theorem FileSystem.ne_nil_of_writable {files : FileSystem} {path : Path} {place : Place}
    (writable : files.writable path = .ok place) : place ≠ [] := by
  rintro rfl
  unfold FileSystem.writable at writable
  split at writable
  · obtain ⟨-, -, refused⟩ := exists_of_bind_eq_ok writable
    cases refused
  · obtain ⟨place, -, found⟩ := exists_of_bind_eq_ok writable
    split at found
    · cases found
    · rename_i free
      cases found
      exact free rfl

/-- Putting a file at a place that can be written replaces what is there. -/
theorem FileSystem.replaces_put {files : FileSystem} {path : Path} {place : Place}
    (writable : files.writable path = .ok place) (content : ByteArray) :
    files.Replaces place content (files.put place (.file content)) where
  written := files.node?_put_same _ (ne_nil_of_writable writable)
  kept _ different := files.node?_put_other _ different
  working := rfl

namespace CommandLine

/-! ## The order of listings -/

/-- Surroundings with directories listed in another way. -/
def Surroundings.relisted (surroundings : Surroundings)
    (list : Path → Except Trouble (List String)) : Surroundings :=
  { surroundings with list := list }

/-- The order of the nodes shows only in listings. -/
theorem Surroundings.ofFiles_eq {files other : FileSystem} (reorders : files.Reorders other) :
    ofFiles other = (ofFiles files).relisted other.list := by
  simp only [ofFiles, relisted, reorders.isDirectory_eq, reorders.isFile_eq, reorders.read_eq]

namespace Request

/-- Sources come in one order, whatever the order of the entries. -/
theorem sourceNames_perm (surroundings : Surroundings) (directory : Path)
    {names others : List String} (reordered : names.Perm others) :
    sourceNames surroundings directory names = sourceNames surroundings directory others := by
  refine List.Perm.eq_of_pairwise' (r := (· ≤ ·)) (List.pairwise_mergeSort' (· ≤ ·) _)
    (List.pairwise_mergeSort' (· ≤ ·) _) ?_
  exact (List.mergeSort_perm _ _).trans
    ((reordered.filter _).trans (List.mergeSort_perm _ _).symm)

/-- Loading files does not look at how directories list their entries. -/
theorem loaded_relisted (surroundings : Surroundings)
    (list : Path → Except Trouble (List String)) (paths : List Path) :
    loaded (surroundings.relisted list) paths = loaded surroundings paths := by
  induction paths with
  | nil => rfl
  | cons path rest inductionHypothesis =>
    unfold loaded
    rw [inductionHypothesis]
    rfl

section Relisting

variable {surroundings : Surroundings} {list : Path → Except Trouble (List String)}
  (request : Request)
  (same : ∀ path, FileSystem.SameEntries (surroundings.list path) (list path))

include same

/-- The sources of a request do not depend on the order in which entries are listed. -/
theorem sourcePaths_relisted :
    request.sourcePaths (surroundings.relisted list) = request.sourcePaths surroundings := by
  have listed := same request.path
  unfold sourcePaths
  by_cases directory : surroundings.isDirectory request.path = true
  · have relisted : (surroundings.relisted list).isDirectory request.path = true := directory
    rw [if_pos directory, if_pos relisted]
    change FileSystem.SameEntries _ ((surroundings.relisted list).list request.path) at listed
    -- From here on only the two listings matter, not where they come from.
    generalize surroundings.list request.path = before at listed ⊢
    generalize (surroundings.relisted list).list request.path = after at listed ⊢
    cases listed with
    | error trouble => rfl
    | @ok names others reordered =>
      have entries : sourceEntries (surroundings.relisted list) request.path others =
          sourceEntries surroundings request.path names := by
        rw [sourceEntries_eq, sourceEntries_eq, sourceNames_perm surroundings _ reordered]
        rfl
      simp only [entries]
  · have relisted : ¬ (surroundings.relisted list).isDirectory request.path = true := directory
    rw [if_neg directory, if_neg relisted]

/-- The generated text does not depend on the order in which entries are listed. -/
theorem assembly_relisted :
    request.assembly (surroundings.relisted list) = request.assembly surroundings := by
  unfold assembly readSources
  rw [request.sourcePaths_relisted same]
  rfl

/-- What is noted on the way does not depend on the order in which entries are listed. -/
theorem journal_relisted :
    request.journal (surroundings.relisted list) = request.journal surroundings := by
  unfold journal
  simp only [request.sourcePaths_relisted same, loaded_relisted]
  rfl

/-- What is reported does not depend on the order in which entries are listed. -/
theorem outcome_relisted (verbosity : Nat) (result : Except Failure Unit) :
    request.outcome verbosity (surroundings.relisted list) result =
      request.outcome verbosity surroundings result := by
  unfold outcome
  rw [request.journal_relisted same]
  rfl

end Relisting

/-! ## Performing a request -/

section Performing

variable {request : Request} {files : FileSystem}

/-- A request without a text to write changes no file. -/
theorem perform_of_error {failure : Failure}
    (failed : request.assembly (.ofFiles files) = .error failure) :
    request.perform files = (.error failure, files) := by
  simp only [perform, failed]

/-- A request whose output cannot be written changes no file. -/
theorem perform_of_unwritable {text : String} {trouble : Trouble}
    (lowered : request.assembly (.ofFiles files) = .ok text)
    (unwritable : files.writable (request.outputPath (.ofFiles files)) = .error trouble) :
    request.perform files =
      (.error (.unwritable (request.outputPath (.ofFiles files)) trouble), files) := by
  simp only [perform, lowered, FileSystem.write, unwritable]
  rfl

/-- A request with a text and a place for it puts the text there. -/
theorem perform_of_writable {text : String} {place : Place}
    (lowered : request.assembly (.ofFiles files) = .ok text)
    (writable : files.writable (request.outputPath (.ofFiles files)) = .ok place) :
    request.perform files = (.ok (), files.put place (.file text.toUTF8)) := by
  simp only [perform, lowered, FileSystem.write, writable]
  rfl

/-- The order of the nodes shows neither in the result of a request nor at any place. -/
theorem perform_reorders (request : Request) {files other : FileSystem}
    (reorders : files.Reorders other) :
    (request.perform other).1 = (request.perform files).1 ∧
      (request.perform files).2.Reorders (request.perform other).2 := by
  have assembled : request.assembly (.ofFiles other) = request.assembly (.ofFiles files) := by
    rw [Surroundings.ofFiles_eq reorders]
    exact request.assembly_relisted reorders.list
  have output : request.outputPath (.ofFiles other) = request.outputPath (.ofFiles files) := by
    rw [Surroundings.ofFiles_eq reorders]
    rfl
  have writable : other.writable (request.outputPath (.ofFiles other)) =
      files.writable (request.outputPath (.ofFiles files)) := by
    rw [output, reorders.writable_eq]
  cases lowered : request.assembly (.ofFiles files) with
  | error failure =>
    rw [perform_of_error lowered, perform_of_error (assembled.trans lowered)]
    exact ⟨rfl, reorders⟩
  | ok text =>
    cases found : files.writable (request.outputPath (.ofFiles files)) with
    | error trouble =>
      rw [perform_of_unwritable lowered found,
        perform_of_unwritable (assembled.trans lowered) (writable.trans found), output]
      exact ⟨rfl, reorders⟩
    | ok place =>
      rw [perform_of_writable lowered found,
        perform_of_writable (assembled.trans lowered) (writable.trans found)]
      exact ⟨rfl, reorders.put place _⟩

end Performing

/-! ## All or nothing -/

/-- A request writes a text to a place. -/
structure Writes (request : Request) (files : FileSystem) (text : String) (place : Place) :
    Prop where
  lowered : ∃ job, request.Asks files job ∧ job.assembly = .ok text
  writable : files.writable (request.outputPath (.ofFiles files)) = .ok place

/-- The exit status of a request and the files after it: the status is 0 exactly if there is a text
to write and a place for it, and 1 exactly if the job has a mishap. -/
structure Settles (request : Request) (files : FileSystem) (status : Nat) (after : FileSystem) :
    Prop where
  written : status = 0 ↔ ∃ text place, request.Writes files text place
  refused : status = 1 ↔ ∃ job mishap, request.Asks files job ∧ job.assembly = .error mishap
  failed : status ≠ 0 → status ≠ 1 → status = 2
  replaces : ∀ text place, request.Writes files text place →
    files.Replaces place text.toUTF8 after
  untouched : status ≠ 0 → after = files

section Settling

variable {request : Request} {files : FileSystem}

/-- A job with a mishap leaves nothing to write. -/
theorem Writes.no_mishap {text : String} {place : Place} (writes : request.Writes files text place)
    {job : Job} {mishap : Mishap} (asked : request.Asks files job) :
    job.assembly ≠ .error mishap := by
  obtain ⟨lowered, asks, assembled⟩ := writes.lowered
  obtain rfl := asks.unique asked
  rw [assembled]
  rintro ⟨⟩

/-- A request that writes settles with success and with its text at its place. -/
theorem settles_of_writes {text : String} {place : Place}
    (writes : request.Writes files text place) :
    request.Settles files 0 (files.put place (.file text.toUTF8)) where
  written := iff_of_true rfl ⟨text, place, writes⟩
  refused := iff_of_false (by decide) fun ⟨_, _, asked, fails⟩ => writes.no_mishap asked fails
  failed nonzero := absurd rfl nonzero
  replaces := by
    intro other otherPlace otherWrites
    obtain ⟨⟨job, asked, assembled⟩, writable⟩ := otherWrites
    obtain ⟨otherJob, otherAsked, otherAssembled⟩ := writes.lowered
    obtain rfl := asked.unique otherAsked
    rw [assembled] at otherAssembled
    cases otherAssembled
    have samePlace := writes.writable
    rw [writable] at samePlace
    cases samePlace
    exact FileSystem.replaces_put writable _
  untouched nonzero := absurd rfl nonzero

/-- A request refused for a mishap in its sources settles without a change. -/
theorem settles_of_mishap {job : Job} {mishap : Mishap} (asked : request.Asks files job)
    (fails : job.assembly = .error mishap) : request.Settles files 1 files where
  written := iff_of_false (by decide) fun ⟨_, _, writes⟩ => writes.no_mishap asked fails
  refused := iff_of_true rfl ⟨job, mishap, asked, fails⟩
  failed _ notOne := absurd rfl notOne
  replaces _ _ writes := absurd fails (writes.no_mishap asked)
  untouched _ := rfl

/-- A request that neither writes nor meets a mishap fails otherwise, without a change. -/
theorem settles_of_neither (unwritten : ∀ text place, ¬ request.Writes files text place)
    (unrefused : ∀ job mishap, request.Asks files job → job.assembly ≠ .error mishap) :
    request.Settles files 2 files where
  written := iff_of_false (by decide) fun ⟨text, place, writes⟩ => unwritten text place writes
  refused := iff_of_false (by decide) fun ⟨job, mishap, asked, fails⟩ =>
    unrefused job mishap asked fails
  failed _ _ := rfl
  replaces text place writes := absurd writes (unwritten text place)
  untouched _ := rfl

end Settling

/-- Every request settles in one of these ways when it is carried out. -/
theorem settles_carryOut (request : Request) (verbosity : Nat) (files : FileSystem) :
    request.Settles files (request.carryOut verbosity files).1.status
      (request.carryOut verbosity files).2 := by
  unfold carryOut
  have comes := request.comes_assembly files
  cases assembled : request.assembly (.ofFiles files) with
  | ok text =>
    rw [assembled] at comes
    cases comes with
    | @lowered job _ asked lowered =>
      cases writable : files.writable (request.outputPath (.ofFiles files)) with
      | ok place =>
        rw [perform_of_writable assembled writable]
        exact settles_of_writes ⟨⟨job, asked, lowered⟩, writable⟩
      | error trouble =>
        -- There is a text, but no place for it.
        rw [perform_of_unwritable assembled writable]
        refine settles_of_neither ?_ ?_
        · rintro _ _ ⟨-, found⟩
          rw [writable] at found
          cases found
        · intro other mishap otherAsked
          obtain rfl := asked.unique otherAsked
          rw [lowered]
          rintro ⟨⟩
  | error failure =>
    rw [perform_of_error assembled]
    rw [assembled] at comes
    show request.Settles files failure.status files
    cases comes with
    | refused asked fails file => exact settles_of_mishap asked fails
    | unread unasked status =>
      rw [status]
      refine settles_of_neither ?_ fun job _ asked => absurd asked (unasked job)
      rintro text place ⟨⟨job, asked, -⟩, -⟩
      exact unasked job asked

/-- Carrying out a request writes the assembly text of the job that it asks for, or nothing; the
exit status tells which, and nothing depends on the order in which directories are listed. -/
theorem writes_all_or_nothing (request : Request) (verbosity : Nat) (files : FileSystem) :
    ∃ outcome after, request.carryOut verbosity files = (outcome, after) ∧
      request.Settles files outcome.status after ∧
      ∀ other, files.Reorders other → ∃ otherAfter,
        request.carryOut verbosity other = (outcome, otherAfter) ∧ after.Reorders otherAfter := by
  refine ⟨_, _, rfl, request.settles_carryOut verbosity files, fun other reorders => ?_⟩
  obtain ⟨result, after⟩ := request.perform_reorders reorders
  have told : request.outcome verbosity (.ofFiles other) (request.perform other).1 =
      request.outcome verbosity (.ofFiles files) (request.perform files).1 := by
    rw [Surroundings.ofFiles_eq reorders, request.outcome_relisted reorders.list, result]
  exact ⟨_, congrArg (·, (request.perform other).2) told, after⟩

end Request

/-- A directory with two sources and something else. -/
def twoSources : FileSystem where
  nodes := [(["p"], .directory), (["p", "B.vm"], .file "add".toUTF8),
    (["p", "notes.txt"], .file "".toUTF8), (["p", "A.vm"], .file "sub".toUTF8)]

/-- The same directory with its entries the other way round. -/
def twoSourcesReversed : FileSystem where
  nodes := [(["p", "A.vm"], .file "sub".toUTF8), (["p", "notes.txt"], .file "".toUTF8),
    (["p", "B.vm"], .file "add".toUTF8), (["p"], .directory)]

/-- The assembly text of the two sources. -/
def twoSourcesText : String :=
  "@SP\nAM=M-1\nD=M\nA=A-1\nM=M-D\n@SP\nAM=M-1\nD=M\nA=A-1\nM=D+M\n"

/-- The sources are lowered in the order of their names, not in that of the nodes. -/
theorem twoSources_written :
    ∃ outcome after, Request.carryOut { path := ⟨"p"⟩ } 0 twoSources = (outcome, after) ∧
      outcome.status = 0 ∧ after.node? ["p.asm"] = some (.file twoSourcesText.toUTF8) ∧
      ∃ otherAfter,
        Request.carryOut { path := ⟨"p"⟩ } 0 twoSourcesReversed = (outcome, otherAfter) ∧
          after.Reorders otherAfter := by
  obtain ⟨outcome, after, carried, settles, reordered⟩ :=
    Request.writes_all_or_nothing { path := ⟨"p"⟩ } 0 twoSources
  have located : twoSources.locate ⟨"p"⟩ = .ok ["p"] := by decide +kernel
  have entries : twoSources.entries ["p"] = ["B.vm", "notes.txt", "A.vm"] := by decide +kernel
  have sources : ∀ name, name ∈ ["A.vm", "B.vm"] ↔ twoSources.HasSource ⟨"p"⟩ name := by
    intro name
    constructor
    · rintro (_ | ⟨_, _ | ⟨_, ⟨⟩⟩⟩)
      · exact ⟨⟨_, located, rfl⟩, by decide +kernel, by decide +kernel⟩
      · exact ⟨⟨_, located, rfl⟩, by decide +kernel, by decide +kernel⟩
    · rintro ⟨⟨place, reached, entry⟩, -, extension⟩
      rw [located] at reached
      cases reached
      rw [← FileSystem.mem_entries, entries] at entry
      rcases entry with _ | ⟨_, _ | ⟨_, _ | ⟨_, ⟨⟩⟩⟩⟩
      · decide
      · exact absurd extension (by decide +kernel)
      · decide
  have asked : Request.Asks { path := ⟨"p"⟩ } twoSources
      { units := [⟨"A", "sub"⟩, ⟨"B", "add"⟩] } :=
    { target := .usual rfl
      units := ⟨_, .directory (by decide +kernel) (by decide) sources (by decide),
        .cons ⟨rfl, rfl⟩ (.cons ⟨rfl, rfl⟩ .nil)⟩
      bootstrap := rfl
      annotate := rfl }
  have writes : Request.Writes { path := ⟨"p"⟩ } twoSources twoSourcesText ["p.asm"] :=
    { lowered := ⟨_, asked, by decide +kernel⟩
      writable := by decide +kernel }
  exact ⟨outcome, after, carried, settles.written.mpr ⟨_, _, writes⟩,
    (settles.replaces _ _ writes).written,
    reordered twoSourcesReversed ⟨(List.reverse_perm _).symm, rfl⟩⟩

end CommandLine

end StackLowering
