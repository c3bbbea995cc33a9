import StackLowering.Proofs.Lowering.Listing
import StackLowering.Proofs.Machine.Assembly
import Mathlib.Data.List.Perm.Basic

/-!
# Labels are unique in a whole job

Generated code needs two labels for a comparison, one for a call, and one for the
startup code. `Job.synthesized_labels_unique` says that these labels never
collide, neither with each other nor with a name that any unit declares, before
or after; so a program can only be refused by the assembler for a name that the
units themselves declare twice.
-/

namespace StackLowering

/-- The number of labels that have to be synthesized for a command. -/
def Command.labelDemand : Command → Nat
  | .compare _ => 2
  | .call .. => 1
  | _ => 0

/-- The labels of a command's block that the command does not declare itself. -/
def PlacedCommand.synthesized (placed : PlacedCommand) (block : Block) : List String :=
  (Block.labels block).filter fun label => placed.command.value.declared? ≠ some label

namespace Job

/-- The number of startup blocks. -/
def startupCount (job : Job) : Nat := if job.bootstrap then 1 else 0

/-- The labels synthesized for a program: those of its startup block, and those of every other
block that its command does not declare. -/
def synthesizedLabels (job : Job) (commands : List PlacedCommand) (blocks : List Block) :
    List String :=
  (blocks.take job.startupCount).flatMap Block.labels ++
    (commands.zip (blocks.drop job.startupCount)).flatMap fun entry =>
      entry.1.synthesized entry.2

end Job

/-- Either a command declares its only label or all its labels are issued, as many as it needs. -/
theorem Lowering.Lowers.issued_eq {target : Target} {unit : String} {line : Nat}
    {command : Command} {issued : List String} {block : Block}
    (lowers : Lowering.Lowers target unit line command issued block) :
    (command.declared?.toList ++ issued).filter (fun label => command.declared? ≠ some label) =
        issued ∧
      issued.length = command.labelDemand := by
  cases lowers <;> simp [Command.declared?, Command.labelDemand]

/-- The synthesized labels of a row are the issued ones. -/
theorem Row.synthesized_block {target : Target} (row : Row target) (annotate : Bool) :
    row.placed.synthesized (row.block annotate) = row.issued := by
  unfold PlacedCommand.synthesized
  rw [row.labels_block]
  exact row.lowers.issued_eq.1

namespace Listing

variable {job : Job} (listing : Listing job)

/-- The startup code is as many blocks as the job counts for it. -/
theorem length_startup : listing.startup.length = job.startupCount := by
  have opened := listing.opened
  unfold startup Job.startupCount
  cases opening : listing.opening with
  | none => simp_all
  | some opening => simp_all

/-- The first blocks of a listing are those of the startup code. -/
theorem take_blocks : listing.blocks.take job.startupCount = listing.startup := by
  rw [← listing.length_startup]
  exact List.take_left

/-- Behind the startup code are the bodies of the commands. -/
theorem drop_blocks : listing.blocks.drop job.startupCount = listing.bodies := by
  rw [← listing.length_startup]
  exact List.drop_left

/-- Every command is paired with its block. -/
theorem zip_commands_bodies :
    listing.commands.zip listing.bodies =
      listing.rows.map fun row => (row.placed, row.block job.annotate) :=
  List.zip_map' ..

/-- There is one block for every command besides the startup code. -/
theorem length_blocks :
    listing.blocks.length = job.startupCount + listing.commands.length := by
  rw [blocks, List.length_append, listing.length_startup]
  simp [bodies, commands]

/-- The only label of the startup code is the one to return to from the entry function. -/
theorem flatMap_labels_startup :
    listing.startup.flatMap Block.labels =
      listing.opening.toList.map Opening.returnLabel := by
  unfold startup
  cases listing.opening with
  | none => rfl
  | some opening => simp [opening.labels_block]

/-- What can be read off a program as synthesized is exactly what was issued. -/
theorem synthesizedLabels_eq_issued :
    job.synthesizedLabels listing.commands listing.blocks = listing.issued := by
  unfold Job.synthesizedLabels
  rw [listing.take_blocks, listing.drop_blocks, listing.zip_commands_bodies,
    listing.flatMap_labels_startup, List.flatMap_map]
  simp only [Row.synthesized_block]
  rfl

/-- The declared names of a listing are those of its rows, in order. -/
theorem declaredNames_eq_flatMap :
    declaredNames listing.commands =
      listing.rows.flatMap fun row => row.placed.command.value.declared?.toList := by
  unfold declaredNames commands
  rw [List.filterMap_eq_flatMap_toList, List.flatMap_map]

/-- The labels of a program are the declared names and the issued labels, in some order. -/
theorem labels_perm :
    (Block.labels listing.blocks.flatten).Perm
      (declaredNames listing.commands ++ listing.issued) := by
  have rowLabels : listing.bodies.flatMap Block.labels =
      listing.rows.flatMap fun row =>
        row.placed.command.value.declared?.toList ++ row.issued := by
    unfold bodies
    rw [List.flatMap_map]
    simp only [Row.labels_block]
  rw [Block.labels_flatten, blocks, List.flatMap_append, listing.flatMap_labels_startup,
    rowLabels, listing.declaredNames_eq_flatMap, issued]
  exact ((List.flatMap_append_perm listing.rows _ _).symm.append_left _).trans
    (List.perm_append_comm_assoc ..)

/-- Only names that the units declare twice can repeat a label. -/
theorem nodup_labels_iff :
    (Block.labels listing.blocks.flatten).Nodup ↔
      (declaredNames listing.commands).Nodup := by
  rw [listing.labels_perm.nodup_iff, List.nodup_append]
  constructor
  · exact fun distinct => distinct.1
  · intro distinct
    refine ⟨distinct, listing.distinct, ?_⟩
    rintro name declared label issued rfl
    exact listing.apart name issued declared

end Listing

/-- Synthesized labels are as many as the commands need, distinct, and declared by no unit; hence
the labels of the program are distinct, and the assembler accepts them, exactly when the declared
names of all units together are distinct. -/
theorem Job.synthesized_labels_unique {job : Job} {commands : List PlacedCommand}
    {blocks : List Block} (parsed : job.commands = .ok commands)
    (lowered : job.blocks = .ok blocks) :
    blocks.length = job.startupCount + commands.length ∧
      (∀ block ∈ blocks.take job.startupCount, (Block.labels block).length = 1) ∧
      (∀ entry ∈ commands.zip (blocks.drop job.startupCount),
        (entry.1.synthesized entry.2).length = entry.1.command.value.labelDemand) ∧
      (job.synthesizedLabels commands blocks).Nodup ∧
      (∀ label ∈ job.synthesizedLabels commands blocks, label ∉ declaredNames commands) ∧
      ((Block.labels blocks.flatten).Nodup ↔ (declaredNames commands).Nodup) ∧
      ((∃ program, Program.assemble blocks.flatten = .ok program) ↔
        (declaredNames commands).Nodup) := by
  obtain ⟨listing, rfl⟩ := Job.exists_listing lowered
  obtain rfl := listing.commands_eq parsed
  rw [listing.synthesizedLabels_eq_issued, listing.take_blocks, listing.drop_blocks,
    listing.zip_commands_bodies, Program.exists_assemble_eq_ok_iff, listing.nodup_labels_iff]
  refine ⟨listing.length_blocks, ?_, ?_, listing.distinct, listing.apart, Iff.rfl, Iff.rfl⟩
  · intro block member
    obtain ⟨opening, -, rfl⟩ := List.mem_map.mp member
    rw [opening.labels_block]
    rfl
  · intro entry member
    obtain ⟨row, -, rfl⟩ := List.mem_map.mp member
    rw [row.synthesized_block]
    exact row.lowers.issued_eq.2

/-- A job in which a later unit declares the labels that a comparison would take first. -/
def imitatedLabels : Job where
  units := [⟨"Main", "eq"⟩, ⟨"Other", "label Main_1_eq_0\nlabel Main_1_noteq_1"⟩]

/-- The commands of that job. -/
def imitatedLabelsCommands : List PlacedCommand :=
  [⟨"Main", 1, ⟨.compare .eq, ⟨0, 2⟩⟩⟩, ⟨"Other", 1, ⟨.label "Main_1_eq_0", ⟨0, 17⟩⟩⟩,
    ⟨"Other", 2, ⟨.label "Main_1_noteq_1", ⟨18, 38⟩⟩⟩]

/-- The blocks of that job. -/
def imitatedLabelsBlocks : List Block :=
  [Lowering.compare Target.hack .eq "Main_1_eq_1" "Main_1_noteq_2", [.label "Main_1_eq_0"],
    [.label "Main_1_noteq_1"]]

/-- The comparison passes over the imitated labels, and the program can be assembled. -/
theorem imitatedLabels_labels_unique :
    imitatedLabels.commands = .ok imitatedLabelsCommands ∧
      imitatedLabels.blocks = .ok imitatedLabelsBlocks ∧
      imitatedLabels.synthesizedLabels imitatedLabelsCommands imitatedLabelsBlocks =
        ["Main_1_eq_1", "Main_1_noteq_2"] ∧
      (∀ label ∈ imitatedLabels.synthesizedLabels imitatedLabelsCommands imitatedLabelsBlocks,
        label ∉ declaredNames imitatedLabelsCommands) ∧
      ∃ program, Program.assemble imitatedLabelsBlocks.flatten = .ok program := by
  have parsed : imitatedLabels.commands = .ok imitatedLabelsCommands := by decide +kernel
  have lowered : imitatedLabels.blocks = .ok imitatedLabelsBlocks := by decide +kernel
  obtain ⟨-, -, -, -, apart, -, assembles⟩ := Job.synthesized_labels_unique parsed lowered
  exact ⟨parsed, lowered, by decide, apart, assembles.mpr (by decide)⟩

end StackLowering
