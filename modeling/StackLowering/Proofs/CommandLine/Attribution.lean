import StackLowering.CommandLine.Run
import StackLowering.Proofs.Job.Culprit

/-!
# The file that a mishap is reported against

A mishap is reported against the first file whose unit has the name in the mishap.
If no two units have the same name, that is the file of the unit that makes the job
fail. Startup code has the name of a unit as well, and a mishap of it is reported
against the unit of that name if there is one: `Request.mishap_attributed_iff`.
-/

namespace StackLowering

namespace Job

variable {job : Job} {mishap : Mishap} {culprit : Option Nat}

/-- The index of the first unit with the name in a mishap. -/
def namedUnit (job : Job) (mishap : Mishap) : Option Nat :=
  job.units.findIdx? fun unit => unit.name = mishap.unit

/-- Among units with different names the one that makes a job fail is found by its name. -/
theorem namedUnit_of_failsIn (distinct : (job.units.map SourceUnit.name).Nodup) {index : Nat}
    (fails : job.FailsIn mishap (some index)) : job.namedUnit mishap = some index := by
  obtain ⟨before, unit, after, units, rfl, name⟩ := fails.exists_unit
  rw [units, List.map_append, List.map_cons, List.nodup_append] at distinct
  have missed : before.findIdx? (fun unit => decide (unit.name = mishap.unit)) = none := by
    rw [List.findIdx?_eq_none_iff]
    intro earlier member
    rw [decide_eq_false_iff_not, ← name]
    exact distinct.2.2 _ (List.mem_map_of_mem member) _ List.mem_cons_self
  rw [namedUnit, units, List.findIdx?_append, missed, List.findIdx?_cons,
    if_pos (decide_eq_true name)]
  simp

/-- A mishap of startup code names no unit exactly if no unit has its name. -/
theorem namedUnit_eq_none_iff (fails : job.FailsIn mishap none) :
    job.namedUnit mishap = none ↔ startupUnit ∉ job.units.map SourceUnit.name := by
  rw [namedUnit, fails.unit_eq_startupUnit, List.findIdx?_eq_none_iff]
  simp [eq_comm]

end Job

namespace CommandLine.Request

/-- The file to which a mishap is attributed is at the index of the unit that it names. -/
theorem fileOf_eq {job : Job} {sources : List SourceFile}
    (units : sources.map SourceFile.unit = job.units) (mishap : Mishap) :
    fileOf sources mishap = (job.namedUnit mishap).bind (sources[·]?) := by
  rw [Job.namedUnit, ← units, List.findIdx?_map, fileOf]
  clear units
  induction sources with
  | nil => rfl
  | cons file rest inductionHypothesis =>
    rw [List.find?_cons, List.findIdx?_cons]
    by_cases named : file.unit.name = mishap.unit
    · simp [named]
    · simp [named, inductionHypothesis, Option.bind_map, Function.comp_def]

/-- A mishap is attributed to no file exactly if no file has a unit of its name. -/
theorem fileOf_eq_none_iff {job : Job} {sources : List SourceFile}
    (units : sources.map SourceFile.unit = job.units) {mishap : Mishap} :
    fileOf sources mishap = none ↔ mishap.unit ∉ job.units.map SourceUnit.name := by
  rw [fileOf, List.find?_eq_none, ← units, List.map_map]
  simp

/-- A job has a mishap exactly if one of its units or its startup code makes it fail. If the units
have different names, the mishap names the unit that makes the job fail, or no unit, and it is
attributed to the file of that unit, or to no file, unless the startup code makes the job fail and
there is a unit of its name. -/
theorem mishap_attributed_iff {job : Job} (distinct : (job.units.map SourceUnit.name).Nodup)
    (mishap : Mishap) :
    (job.assembly = .error mishap ↔ ∃ culprit, job.FailsIn mishap culprit) ∧
      ∀ culprit, job.FailsIn mishap culprit →
        (job.namedUnit mishap = culprit ↔
          (culprit = none → Job.startupUnit ∉ job.units.map SourceUnit.name)) ∧
        ∀ sources : List SourceFile, sources.map SourceFile.unit = job.units →
          (fileOf sources mishap = culprit.bind (sources[·]?) ↔
            (culprit = none → Job.startupUnit ∉ job.units.map SourceUnit.name)) := by
  refine ⟨Job.assembly_eq_error_iff, fun culprit fails => ?_⟩
  cases culprit with
  | none =>
    have startup := fails.unit_eq_startupUnit
    refine ⟨by simpa using Job.namedUnit_eq_none_iff fails, fun sources units => ?_⟩
    rw [Option.bind_none, fileOf_eq_none_iff units, startup]
    simp
  | some index =>
    have found := Job.namedUnit_of_failsIn distinct fails
    refine ⟨iff_of_true found (by simp), fun sources units => iff_of_true ?_ (by simp)⟩
    rw [fileOf_eq units, found]

/-- Two sources, of which the second has a line that is no command. -/
def strayLine : List SourceFile := [⟨⟨"d/A.vm"⟩, "add"⟩, ⟨⟨"d/B.vm"⟩, "sub\nadder"⟩]

/-- The job of the two sources. -/
def strayLineJob : Job := job { path := ⟨"d"⟩ } Target.hack strayLine

/-- The mishap of the line. -/
def strayLineMishap : Mishap := ⟨"B", 2, ⟨.unknownCommand "adder", ⟨4, 9⟩⟩⟩

/-- The mishap is reported against the second file. -/
theorem strayLine_attributed :
    (strayLineJob.units.map SourceUnit.name).Nodup ∧
      strayLineJob.assembly = .error strayLineMishap ∧
      strayLineJob.FailsIn strayLineMishap (some 1) ∧
      fileOf strayLine strayLineMishap = some ⟨⟨"d/B.vm"⟩, "sub\nadder"⟩ := by
  have units : strayLineJob.units = [⟨"A", "add"⟩] ++ ⟨"B", "sub\nadder"⟩ :: [] := by
    decide +kernel
  have distinct : (strayLineJob.units.map SourceUnit.name).Nodup := by decide +kernel
  have refused : FailsAt (List.mapM SourceUnit.parse) [⟨"A", "add"⟩] ⟨"B", "sub\nadder"⟩
      strayLineMishap :=
    ⟨⟨[[⟨"A", 1, ⟨.binary .add, ⟨0, 3⟩⟩⟩]], by decide +kernel⟩, by decide +kernel⟩
  have fails : strayLineJob.FailsIn strayLineMishap (some 1) := .reading units refused
  have attributed := mishap_attributed_iff distinct strayLineMishap
  refine ⟨distinct, attributed.1.mpr ⟨_, fails⟩, fails, ?_⟩
  exact ((attributed.2 _ fails).2 strayLine rfl).mpr (by simp)

/-- A source under the name of the startup unit. -/
def startupNamesake : List SourceFile := [⟨⟨"Bootstrap.vm"⟩, "add"⟩]

/-- The job of the source, with startup code for a stack base that no instruction can load. -/
def startupNamesakeJob : Job :=
  job { path := ⟨"Bootstrap.vm"⟩, bootstrap := true }
    { Target.hack with bootstrap := { stackBase := 40000, entry := "Sys.init" } } startupNamesake

/-- The mishap of the startup code. -/
def startupNamesakeMishap : Mishap :=
  ⟨"Bootstrap", 0, ⟨.integerOutOfRange 40000 32767, .origin⟩⟩

/-- The mishap is reported against the source, which did not cause it. -/
theorem startupNamesake_misattributed :
    (startupNamesakeJob.units.map SourceUnit.name).Nodup ∧
      startupNamesakeJob.assembly = .error startupNamesakeMishap ∧
      startupNamesakeJob.FailsIn startupNamesakeMishap none ∧
      fileOf startupNamesake startupNamesakeMishap = some ⟨⟨"Bootstrap.vm"⟩, "add"⟩ := by
  have read : startupNamesakeJob.commands = .ok [⟨"Bootstrap", 1, ⟨.binary .add, ⟨0, 3⟩⟩⟩] := by
    decide +kernel
  have refused : startupNamesakeJob.startup .initial = .error startupNamesakeMishap := by
    decide +kernel
  exact ⟨by decide +kernel, by decide +kernel, .starting read rfl refused, by decide +kernel⟩

end CommandLine.Request

end StackLowering
