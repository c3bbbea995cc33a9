import StackLowering.Job
import StackLowering.Proofs.Lowering.Shape
import Mathlib.Data.List.Nodup

/-!
# Listings

A listing takes a lowered job apart: the startup code, if the job wants any, and
one row for each command, with its code and the labels issued for it. What
registration and the supply of labels achieve together is recorded here once and
for all: issued labels are distinct, none of them is declared anywhere in the
job, and every declared name passed the check against all units.
`exists_listing` finds the listing of every job that can be lowered.
-/

namespace StackLowering

/-- The names that some commands declare, in order. -/
def declaredNames (commands : List PlacedCommand) : List String :=
  commands.filterMap fun placed => placed.command.value.declared?

/-- The declared names are those that the commands declare. -/
theorem mem_declaredNames {commands : List PlacedCommand} {name : String} :
    name ∈ declaredNames commands ↔
      ∃ placed ∈ commands, placed.command.value.declared? = some name := by
  simp [declaredNames]

/-- The commands of two lists declare the names that those of each list declare. -/
@[simp] theorem declaredNames_append (first second : List PlacedCommand) :
    declaredNames (first ++ second) = declaredNames first ++ declaredNames second :=
  List.filterMap_append

/-- A command of a job with its code and the labels issued for it. -/
structure Row (target : Target) where
  placed : PlacedCommand
  issued : List String
  code : Block
  lowers : Lowering.Lowers target placed.unit placed.line placed.command.value issued code

/-- Startup code: it initializes the stack and calls the entry function. -/
structure Opening (target : Target) where
  returnLabel : String
  code : Block
  calls : Lowering.Calls target Job.startupUnit 0 target.bootstrap.entry 0 returnLabel code

/-- The block of a row, with its annotation if that is wanted. -/
def Row.block {target : Target} (annotate : Bool) (row : Row target) : Block :=
  if annotate then row.placed.annotation ++ row.code else row.code

/-- The block of startup code. -/
def Opening.block {target : Target} (opening : Opening target) : Block :=
  Lowering.initializeStack target ++ opening.code

/-- Annotations hold no labels. -/
theorem Row.labels_block {target : Target} (annotate : Bool) (row : Row target) :
    Block.labels (row.block annotate) =
      row.placed.command.value.declared?.toList ++ row.issued := by
  rw [← row.lowers.labels]
  unfold Row.block
  split
  · rfl
  · rfl

/-- The only label of an opening is the one that its call returns to. -/
theorem Opening.labels_block {target : Target} (opening : Opening target) :
    Block.labels opening.block = [opening.returnLabel] := by
  obtain ⟨returnLabel, code, calls⟩ := opening
  cases calls
  simp [Opening.block]

/-- A lowered job, taken apart. -/
structure Listing (job : Job) where
  opening : Option (Opening job.target)
  rows : List (Row job.target)
  opened : opening.isSome = job.bootstrap
  parsed : job.commands = .ok (rows.map Row.placed)
  distinct : (opening.toList.map Opening.returnLabel ++ rows.flatMap Row.issued).Nodup
  apart : ∀ label ∈ opening.toList.map Opening.returnLabel ++ rows.flatMap Row.issued,
    label ∉ declaredNames (rows.map Row.placed)
  allowed : ∀ name ∈ declaredNames (rows.map Row.placed),
    Lowering.checkDeclaration job.target name (job.units.map SourceUnit.name) = .ok ()

namespace Listing

variable {job : Job}

/-- The commands of the job. -/
def commands (listing : Listing job) : List PlacedCommand := listing.rows.map Row.placed

/-- Every label that was issued for the job, in order. -/
def issued (listing : Listing job) : List String :=
  listing.opening.toList.map Opening.returnLabel ++ listing.rows.flatMap Row.issued

/-- The startup block, if there is one. -/
def startup (listing : Listing job) : List Block := listing.opening.toList.map Opening.block

/-- The blocks of the commands. -/
def bodies (listing : Listing job) : List Block := listing.rows.map (Row.block job.annotate)

/-- The blocks of the program. -/
def blocks (listing : Listing job) : List Block := listing.startup ++ listing.bodies

/-- A listing has the commands that were read. -/
theorem commands_eq (listing : Listing job) {commands : List PlacedCommand}
    (parsed : job.commands = .ok commands) : listing.commands = commands := by
  have parsedAgain := listing.parsed
  rw [parsed] at parsedAgain
  exact (Except.ok.inj parsedAgain).symm

end Listing

namespace Job

/-- Registration makes every declared name present, after checking it, and forgets nothing. -/
theorem register_eq_ok {job : Job} {commands : List PlacedCommand} {before after : Context}
    (registered : job.register commands before = .ok after) :
    (∀ name ∈ declaredNames commands,
      after.labels.contains name = true ∧
        Lowering.checkDeclaration job.target name (job.units.map SourceUnit.name) = .ok ()) ∧
      ∀ label, before.labels.contains label = true → after.labels.contains label = true := by
  induction commands generalizing before with
  | nil =>
    cases registered
    simp [declaredNames]
  | cons placed rest inductionHypothesis =>
    obtain ⟨middle, first, later⟩ := exists_of_bind_eq_ok registered
    obtain ⟨restPresent, kept⟩ := inductionHypothesis later
    unfold PlacedCommand.register at first
    split at first
    · rename_i undeclared
      cases first
      have same : declaredNames (placed :: rest) = declaredNames rest := by
        simp [declaredNames, undeclared]
      rw [same]
      exact ⟨restPresent, kept⟩
    · rename_i symbol declared
      split at first
      · rename_i allowed
        cases first
        have more : declaredNames (placed :: rest) = symbol :: declaredNames rest := by
          simp [declaredNames, declared]
        rw [more]
        refine ⟨?_, fun label present => kept label (by simp [present])⟩
        intro name member
        rcases List.mem_cons.mp member with rfl | later
        · exact ⟨kept name (by simp), allowed⟩
        · exact restPresent name later
      · cases first

/-- Lowering some commands gives one row for each; the issued labels are distinct and were
absent before. -/
theorem rows_of_lowerCommands {job : Job} {commands : List PlacedCommand} {before : Context}
    {bodies : List Block} (lowered : job.lowerCommands commands before = .ok bodies) :
    ∃ rows : List (Row job.target),
      rows.map Row.placed = commands ∧ rows.map (Row.block job.annotate) = bodies ∧
        (rows.flatMap Row.issued).Nodup ∧
        ∀ label ∈ rows.flatMap Row.issued, before.labels.contains label = false := by
  induction commands generalizing before bodies with
  | nil =>
    cases lowered
    exact ⟨[], rfl, rfl, List.nodup_nil, by simp⟩
  | cons placed rest inductionHypothesis =>
    obtain ⟨⟨block, middle⟩, first, later⟩ := exists_of_bind_eq_ok lowered
    obtain ⟨others, restLowered, whole⟩ := exists_of_bind_eq_ok later
    cases whole
    obtain ⟨rows, rowsPlaced, rowsBlocks, rowsDistinct, rowsAbsent⟩ :=
      inductionHypothesis restLowered
    unfold PlacedCommand.lower at first
    dsimp only at first
    split at first
    · rename_i code after loweredOne
      cases first
      obtain ⟨issued, lowers, adds⟩ := Lowering.lowers_of_lower loweredOne
      -- The labels of this row are present by the time the other rows are lowered.
      have present : ∀ label ∈ issued, middle.labels.contains label = true := by
        intro label member
        rw [adds.present, lowers.labels]
        exact Or.inl (List.mem_append_right _ member)
      refine ⟨⟨placed, issued, code, lowers⟩ :: rows, ?_, ?_, ?_, ?_⟩
      · rw [List.map_cons, rowsPlaced]
      · rw [List.map_cons, rowsBlocks]
        rfl
      · rw [List.flatMap_cons, List.nodup_append]
        refine ⟨adds.distinct, rowsDistinct, ?_⟩
        rintro label member other otherMember rfl
        have here := present label member
        rw [rowsAbsent label otherMember] at here
        cases here
      · intro label member
        rw [List.flatMap_cons, List.mem_append] at member
        rcases member with member | member
        · exact adds.absent label member
        · have absent := rowsAbsent label member
          rw [Bool.eq_false_iff] at absent ⊢
          exact fun earlier => absent ((adds.present label).mpr (Or.inr earlier))
    · cases first

/-- Startup code, where it is wanted, takes one label that was absent before. -/
theorem opening_of_startup {job : Job} {before after : Context} {startup : List Block}
    (started : job.startup before = .ok (startup, after)) :
    ∃ opening : Option (Opening job.target),
      opening.isSome = job.bootstrap ∧ opening.toList.map Opening.block = startup ∧
        (∀ label ∈ opening.toList.map Opening.returnLabel,
          before.labels.contains label = false) ∧
        ∀ label, after.labels.contains label = true ↔
          label ∈ opening.toList.map Opening.returnLabel ∨
            before.labels.contains label = true := by
  unfold Job.startup at started
  split at started
  · rename_i wanted
    split at started
    · rename_i block middle lowered
      cases started
      obtain ⟨returnLabel, code, calls, rfl, adds⟩ :=
        Lowering.calls_of_lowerBootstrap lowered
      let opening : Opening job.target := ⟨returnLabel, code, calls⟩
      have labels : Block.labels (Lowering.initializeStack job.target ++ code) = [returnLabel] :=
        opening.labels_block
      refine ⟨some opening, by simp [wanted], rfl, adds.absent, fun label => ?_⟩
      rw [adds.present, labels]
      exact Iff.rfl
    · cases started
  · rename_i unwanted
    cases started
    exact ⟨none, by simpa using unwanted, rfl, by simp, by simp⟩

/-- Every job that can be lowered has a listing. -/
theorem exists_listing {job : Job} {blocks : List Block} (lowered : job.blocks = .ok blocks) :
    ∃ listing : Listing job, listing.blocks = blocks := by
  obtain ⟨commands, parsed, registering⟩ := exists_of_bind_eq_ok lowered
  obtain ⟨registered, registration, starting⟩ := exists_of_bind_eq_ok registering
  obtain ⟨⟨startup, started⟩, startupDone, lowering⟩ := exists_of_bind_eq_ok starting
  obtain ⟨bodies, bodiesDone, whole⟩ := exists_of_bind_eq_ok lowering
  cases whole
  obtain ⟨declaredPresent, -⟩ := register_eq_ok registration
  obtain ⟨opening, opened, startupEq, openingAbsent, startedPresent⟩ :=
    opening_of_startup startupDone
  obtain ⟨rows, rfl, rfl, rowsDistinct, rowsAbsent⟩ := rows_of_lowerCommands bodiesDone
  -- A label that is absent after startup is neither declared nor the startup label.
  have rowsNew : ∀ label ∈ rows.flatMap Row.issued,
      label ∉ opening.toList.map Opening.returnLabel ∧
        registered.labels.contains label = false := by
    intro label member
    have absent := rowsAbsent label member
    rw [Bool.eq_false_iff, ne_eq, startedPresent, not_or, ← ne_eq, ← Bool.eq_false_iff] at absent
    exact absent
  have issuedAbsent : ∀ label ∈ opening.toList.map Opening.returnLabel ++ rows.flatMap Row.issued,
      registered.labels.contains label = false := by
    intro label member
    rcases List.mem_append.mp member with member | member
    · exact openingAbsent label member
    · exact (rowsNew label member).2
  have openingDistinct : (opening.toList.map Opening.returnLabel).Nodup := by
    cases opening with
    | none => exact List.nodup_nil
    | some opening => exact List.nodup_singleton _
  refine ⟨⟨opening, rows, opened, parsed, ?_, ?_, fun name declared =>
    (declaredPresent name declared).2⟩, ?_⟩
  · rw [List.nodup_append]
    refine ⟨openingDistinct, rowsDistinct, ?_⟩
    rintro label openingMember other rowMember rfl
    exact (rowsNew label rowMember).1 openingMember
  · intro label member declared
    have present := (declaredPresent label declared).1
    rw [issuedAbsent label member] at present
    cases present
  · show opening.toList.map Opening.block ++ rows.map (Row.block job.annotate) = _
    rw [startupEq]

end Job

end StackLowering
