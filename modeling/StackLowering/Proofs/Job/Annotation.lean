import StackLowering.Proofs.Job.Extension

/-!
# Annotated programs

A job can be asked to write each command above its code. The annotated job takes
the same labels and fails for the same reasons as the job without annotations, and
its blocks differ by one comment each (`Job.lowerCommands_annotated`). Assembling skips
comments in every pass, so that both programs are one and the same to the machine.
-/

namespace StackLowering

/-! ## Comments and the machine -/

/-- Whether an instruction is a comment. -/
def Instruction.isComment : Instruction → Bool
  | .comment _ => true
  | _ => false

/-- The instructions of a block that are not comments. -/
def Block.uncommented (block : Block) : Block :=
  block.filter fun instruction => !instruction.isComment

namespace Program

/-- Comments do not move labels. -/
theorem placeLabels_uncommented (address : Nat) (block : Block) :
    placeLabels address block.uncommented = placeLabels address block := by
  unfold Block.uncommented
  induction block generalizing address with
  | nil => rfl
  | cons instruction rest inductionHypothesis =>
    cases instruction with
    | label name => exact congrArg ((name, address) :: ·) (inductionHypothesis address)
    | comment text => exact inductionHypothesis address
    | _ => exact inductionHypothesis (address + 1)

/-- What is made of the instructions one by one, and of no comment, is made without comments. -/
theorem filterMap_uncommented {α : Type} {make : Instruction → Option α}
    (skips : ∀ text, make (.comment text) = none) (block : Block) :
    block.uncommented.filterMap make = block.filterMap make := by
  unfold Block.uncommented
  rw [List.filterMap_filter]
  refine congrArg (block.filterMap ·) (funext fun instruction => ?_)
  cases instruction with
  | comment text => exact (skips text).symm
  | _ => rfl

/-- Instructions are assembled without looking at comments. -/
theorem assemble_uncommented (block : Block) : assemble block.uncommented = assemble block := by
  have loaded : loadedSymbols block.uncommented = loadedSymbols block :=
    filterMap_uncommented (fun _ => rfl) block
  have operations (labels : List (String × Nat)) (variableNames : List String) :
      block.uncommented.filterMap (operation? labels variableNames) =
        block.filterMap (operation? labels variableNames) :=
    filterMap_uncommented (fun _ => rfl) block
  simp only [assemble, variablesOf, placeLabels_uncommented, loaded, operations]

end Program

/-! ## Commands above their code -/

namespace PlacedCommand

/-- The code of a command, below the command. -/
def annotate (placed : PlacedCommand) (code : Block) : Block :=
  .comment placed.command.value.text :: code

/-- An annotated command takes the labels that it takes without annotation. -/
theorem lower_annotated (placed : PlacedCommand) (target : Target) (context : Context) :
    placed.lower target true context =
      (placed.lower target false context).map fun lowered =>
        (placed.annotate lowered.1, lowered.2) := by
  unfold PlacedCommand.lower
  dsimp only
  split
  · rfl
  · rfl

end PlacedCommand

/-- Annotated code is the same code but for its comments. -/
theorem uncommented_flatten_annotate {commands : List PlacedCommand} {bodies : List Block}
    (counted : bodies.length = commands.length) :
    Block.uncommented (List.zipWith PlacedCommand.annotate commands bodies).flatten =
      Block.uncommented bodies.flatten := by
  induction commands generalizing bodies with
  | nil => rw [List.eq_nil_of_length_eq_zero counted, List.zipWith_nil_right]
  | cons placed rest inductionHypothesis =>
    obtain ⟨code, others, rfl⟩ := List.exists_cons_of_length_eq_add_one counted
    have later := inductionHypothesis (Nat.succ.inj counted)
    unfold Block.uncommented at later ⊢
    simp only [List.zipWith_cons_cons, List.flatten_cons, List.filter_append, later]
    rfl

/-- The machine is given the same program with and without annotations. -/
theorem assemble_annotate {startup bodies : List Block} {commands : List PlacedCommand}
    (counted : bodies.length = commands.length) :
    Program.assemble (startup ++ List.zipWith PlacedCommand.annotate commands bodies).flatten =
      Program.assemble (startup ++ bodies).flatten := by
  rw [← Program.assemble_uncommented, ← Program.assemble_uncommented (startup ++ bodies).flatten]
  have same := uncommented_flatten_annotate counted
  unfold Block.uncommented at same ⊢
  rw [List.flatten_append, List.flatten_append, List.filter_append, List.filter_append, same]

namespace Job

/-- The job with each command above its code. -/
def annotated (job : Job) : Job := { job with annotate := true }

/-- The job with nothing but code. -/
def unannotated (job : Job) : Job := { job with annotate := false }

/-- Annotated commands are lowered in step with the same commands without annotations. -/
theorem lowerCommands_annotated (job : Job) (commands : List PlacedCommand) (context : Context) :
    job.annotated.lowerCommands commands context =
      (job.unannotated.lowerCommands commands context).map
        (List.zipWith PlacedCommand.annotate commands) := by
  induction commands generalizing context with
  | nil => rfl
  | cons placed rest inductionHypothesis =>
    simp only [lowerCommands, inductionHypothesis]
    show (placed.lower job.target true context >>= _) =
      Except.map _ (placed.lower job.target false context >>= _)
    rw [PlacedCommand.lower_annotated]
    cases placed.lower job.target false context with
    | error mishap => rfl
    | ok lowered =>
      show (Except.map _ (job.unannotated.lowerCommands rest lowered.2) >>= _) =
        Except.map _ (job.unannotated.lowerCommands rest lowered.2 >>= _)
      cases job.unannotated.lowerCommands rest lowered.2 with
      | error mishap => rfl
      | ok blocks => rfl

/-- Names are registered without looking at whether code is annotated. -/
theorem register_annotate (job : Job) (annotate : Bool) (commands : List PlacedCommand)
    (context : Context) :
    { job with annotate := annotate }.register commands context =
      job.register commands context := by
  induction commands generalizing context with
  | nil => rfl
  | cons placed rest inductionHypothesis =>
    simp only [register, inductionHypothesis]

/-- Whether code is annotated matters only to the lowering of commands. -/
theorem blocks_annotate (job : Job) (annotate : Bool) :
    { job with annotate := annotate }.blocks = (do
      let commands ← job.commands
      let context ← job.register commands .initial
      let (startup, context) ← job.startup context
      let bodies ← { job with annotate := annotate }.lowerCommands commands context
      return startup ++ bodies) := by
  unfold blocks
  simp only [register_annotate]
  rfl

/-- Every command is lowered into one block. -/
theorem length_lowerCommands {job : Job} {commands : List PlacedCommand} {context : Context}
    {bodies : List Block} (lowered : job.lowerCommands commands context = .ok bodies) :
    bodies.length = commands.length := by
  obtain ⟨rows, rfl, rfl, -, -⟩ := rows_of_lowerCommands lowered
  rw [List.length_map, List.length_map]

/-- With and without annotations, a job fails for the same reason, or it has the same startup block
and the same code for each command, which the annotated job writes below the command; and both
programs are assembled into the same program, or refused for the same repeated label. -/
theorem annotation_transparent (job : Job) :
    (∃ mishap, job.unannotated.blocks = .error mishap ∧
        job.annotated.blocks = .error mishap) ∨
      ∃ commands startup bodies annotatedBodies, job.commands = .ok commands ∧
        startup.length = job.startupCount ∧ bodies.length = commands.length ∧
        annotatedBodies = List.zipWith
          (fun placed code => .comment placed.command.value.text :: code) commands bodies ∧
        job.unannotated.blocks = .ok (startup ++ bodies) ∧
        job.annotated.blocks = .ok (startup ++ annotatedBodies) ∧
        Program.assemble (startup ++ annotatedBodies).flatten =
          Program.assemble (startup ++ bodies).flatten := by
  have plain := job.blocks_annotate false
  have commented := job.blocks_annotate true
  have inStep := job.lowerCommands_annotated
  unfold unannotated annotated at inStep ⊢
  simp only [inStep] at commented
  rw [plain, commented]
  cases read : job.commands with
  | error mishap => exact Or.inl ⟨mishap, rfl, rfl⟩
  | ok commands =>
    simp only [bind, Except.bind]
    cases job.register commands .initial with
    | error mishap => exact Or.inl ⟨mishap, rfl, rfl⟩
    | ok context =>
      dsimp only
      cases started : job.startup context with
      | error mishap => exact Or.inl ⟨mishap, rfl, rfl⟩
      | ok opened =>
        obtain ⟨startup, context⟩ := opened
        dsimp only
        cases lowered : { job with annotate := false }.lowerCommands commands context with
        | error mishap => exact Or.inl ⟨mishap, rfl, rfl⟩
        | ok bodies =>
          have counted := length_lowerCommands lowered
          refine Or.inr ⟨commands, startup, bodies, _, rfl, length_startup started, counted, rfl,
            rfl, rfl, assemble_annotate counted⟩

end Job

end StackLowering
