import StackLowering.Job
import StackLowering.Proofs.Command.SameWords
import StackLowering.Proofs.Source.Layout

/-!
# Jobs whose units differ in layout

The characters that a command was read from matter to reports only: units of the
same layout are read as the same commands on the same lines, and every later stage
of a job looks at commands, units and line numbers. `Job.layout_insensitive` follows
stage by stage, for jobs that succeed and for jobs that fail.
-/

namespace StackLowering

/-- Two mishaps have the same fault, in the same unit and line. -/
def Mishap.SameCause (first second : Mishap) : Prop :=
  first.unit = second.unit ∧ first.line = second.line ∧ first.fault.value = second.fault.value

/-- Two commands are the same, in the same unit and line. -/
def PlacedCommand.SameCommand (first second : PlacedCommand) : Prop :=
  first.unit = second.unit ∧ first.line = second.line ∧
    first.command.value = second.command.value

/-- A mishap has the same cause as itself. -/
theorem Mishap.SameCause.refl (mishap : Mishap) : mishap.SameCause mishap := ⟨rfl, rfl, rfl⟩

namespace SourceUnit

/-- Two units have the same name and sources of the same layout. -/
def SameLayout (unit other : SourceUnit) : Prop :=
  unit.name = other.name ∧ Source.SameLayout unit.source.toList other.source.toList

instance (unit other : SourceUnit) : Decidable (SameLayout unit other) :=
  inferInstanceAs (Decidable (_ ∧ _))

/-- Lines of the same words are read as the same command, or refused for the same cause. -/
theorem parseLine_agree {unit other : SourceUnit} {line paired : Source.Line}
    (named : unit.name = other.name) (numbered : line.number = paired.number)
    (words : Text.pieces line.text = Text.pieces paired.text) :
    Agree Mishap.SameCause PlacedCommand.SameCommand (unit.parseLine line)
      (other.parseLine paired) := by
  have agree := Command.parse_agree words line.offset paired.offset
  unfold parseLine
  generalize Command.parse line.text line.offset = first at agree ⊢
  generalize Command.parse paired.text paired.offset = second at agree ⊢
  cases agree with
  | ok values => exact .ok ⟨named, numbered, values⟩
  | error failures => exact .error ⟨named, numbered, failures⟩

/-- Units of the same layout are read as the same commands on the same lines. -/
theorem parse_agree {unit other : SourceUnit} (same : SameLayout unit other) :
    Agree Mishap.SameCause (List.Forall₂ PlacedCommand.SameCommand) unit.parse other.parse := by
  obtain ⟨named, layout⟩ := same
  unfold parse
  rw [← named]
  split
  · refine Agree.mapM (Source.forall₂_lines layout) fun line paired alike => ?_
    exact parseLine_agree named alike.1 alike.2
  · exact .error (.refl _)

end SourceUnit

namespace PlacedCommand

variable {placed other : PlacedCommand} {target : Target}

/-- The same command registers the same name, or is refused for the same cause. -/
theorem register_agree (same : SameCommand placed other) (units : List String)
    (context : Context) :
    Agree Mishap.SameCause Eq (placed.register target units context)
      (other.register target units context) := by
  obtain ⟨unit, line, value⟩ := same
  unfold register
  rw [← value]
  cases placed.command.value.declared? with
  | none => exact .ok rfl
  | some name =>
    dsimp only
    cases Lowering.checkDeclaration target name units with
    | ok done => exact .ok rfl
    | error fault => exact .error ⟨unit, line, rfl⟩

/-- The same command is lowered into the same block, or refused for the same cause. -/
theorem lower_agree (same : SameCommand placed other) (annotate : Bool) (context : Context) :
    Agree Mishap.SameCause Eq (placed.lower target annotate context)
      (other.lower target annotate context) := by
  obtain ⟨unit, line, value⟩ := same
  unfold lower annotation
  dsimp only
  rw [← unit, ← line, ← value]
  split
  · exact .ok rfl
  · exact .error ⟨unit, line, rfl⟩

end PlacedCommand

namespace Job

variable {job : Job} {units : List SourceUnit} {commands others : List PlacedCommand}

/-- Units of the same words are read as the same commands, or refused for the same cause. -/
theorem commands_agree (same : List.Forall₂ SourceUnit.SameLayout job.units units) :
    Agree Mishap.SameCause (List.Forall₂ PlacedCommand.SameCommand) job.commands
      { job with units := units }.commands := by
  refine (Agree.mapM same fun _ _ => SourceUnit.parse_agree).map fun parts others paired => ?_
  exact List.rel_flatten paired

/-- The same commands declare the same names. -/
theorem register_agree (named : units.map SourceUnit.name = job.units.map SourceUnit.name)
    (paired : List.Forall₂ PlacedCommand.SameCommand commands others) (context : Context) :
    Agree Mishap.SameCause Eq (job.register commands context)
      ({ job with units := units }.register others context) := by
  induction paired generalizing context with
  | nil => exact .ok rfl
  | cons head tail inductionHypothesis =>
    unfold register
    rw [named]
    refine (PlacedCommand.register_agree head _ context).bind fun middle same equal => ?_
    rw [← equal]
    exact inductionHypothesis middle

/-- The same commands on the same lines have the same code. -/
theorem lowerCommands_agree (paired : List.Forall₂ PlacedCommand.SameCommand commands others)
    (context : Context) :
    Agree Mishap.SameCause Eq (job.lowerCommands commands context)
      ({ job with units := units }.lowerCommands others context) := by
  induction paired generalizing context with
  | nil => exact .ok rfl
  | cons head tail inductionHypothesis =>
    unfold lowerCommands
    refine (PlacedCommand.lower_agree head job.annotate context).bind fun lowered same equal => ?_
    rw [← equal]
    refine (inductionHypothesis lowered.2).bind fun blocks sameBlocks equalBlocks => ?_
    rw [← equalBlocks]
    exact .ok rfl

/-- Jobs whose units have the same layout have the same code, or fail for the same cause. -/
theorem blocks_agree (same : List.Forall₂ SourceUnit.SameLayout job.units units) :
    Agree Mishap.SameCause Eq job.blocks { job with units := units }.blocks := by
  have named : units.map SourceUnit.name = job.units.map SourceUnit.name := by
    rw [← List.forall₂_eq_eq_eq, List.forall₂_map_left_iff, List.forall₂_map_right_iff]
    exact same.flip.imp fun _ _ alike => alike.1.symm
  refine (commands_agree same).bind fun commands others paired => ?_
  refine (register_agree named paired .initial).bind fun registered sameRegistered equal => ?_
  rw [← equal]
  refine (Agree.refl Mishap.SameCause.refl (job.startup registered)).bind
    fun started sameStarted equalStarted => ?_
  rw [← equalStarted]
  refine (lowerCommands_agree paired started.2).bind fun bodies sameBodies equalBodies => ?_
  rw [← equalBodies]
  exact .ok rfl

/-- If the units of a job are replaced by units of the same names, with the same words on the same
lines, then the job has the same text as before, or it fails with the same fault in the same unit
and line as before. -/
theorem layout_insensitive {job : Job} {units : List SourceUnit}
    (same : List.Forall₂ SourceUnit.SameLayout job.units units) :
    (∃ text, job.assembly = .ok text ∧ { job with units := units }.assembly = .ok text) ∨
      ∃ mishap other, job.assembly = .error mishap ∧
        { job with units := units }.assembly = .error other ∧
        other.fault.value = mishap.fault.value ∧ other.unit = mishap.unit ∧
        other.line = mishap.line := by
  have agree : Agree Mishap.SameCause Eq job.assembly { job with units := units }.assembly :=
    (blocks_agree same).map fun blocks others equal => by rw [equal]
  generalize job.assembly = first at agree ⊢
  generalize { job with units := units }.assembly = second at agree ⊢
  cases agree with
  | ok values => exact Or.inl ⟨_, rfl, by rw [values]⟩
  | error failures =>
    exact Or.inr ⟨_, _, rfl, rfl, failures.2.2.symm, failures.1.symm, failures.2.1.symm⟩

end Job

/-- A job that adds to a number. -/
def plainSum : Job where
  units := [⟨"Main", "push constant 7\nadd"⟩]

/-- The unit of that job with other blanks, with comments, and with lines at the end. -/
def relaidSum : List SourceUnit :=
  [⟨"Main", "\tpush\u3000constant\u00A07//seven\r\n \u2028add // sum\r\n\r\n// end"⟩]

/-- The other layout leaves the text of the job as it is. -/
theorem plainSum_layout_insensitive :
    List.Forall₂ SourceUnit.SameLayout plainSum.units relaidSum ∧
      ∃ text, plainSum.assembly = .ok text ∧
        { plainSum with units := relaidSum }.assembly = .ok text := by
  have same : List.Forall₂ SourceUnit.SameLayout plainSum.units relaidSum := by decide +kernel
  have succeeds : plainSum.assembly.toBool = true := by decide +kernel
  refine ⟨same, ?_⟩
  rcases Job.layout_insensitive same with equal | ⟨mishap, -, failed, -⟩
  · exact equal
  · rw [failed] at succeeds
    cases succeeds

/-- A fault keeps its line, and only the characters to blame are elsewhere. -/
example :
    { plainSum with units := [⟨"Main", "add\npop constant 3"⟩] }.blocks =
        .error ⟨"Main", 2, ⟨.popConstant, ⟨4, 18⟩⟩⟩ ∧
      { plainSum with units := [⟨"Main", "  add // sum\n\tpop  constant 3"⟩] }.blocks =
        .error ⟨"Main", 2, ⟨.popConstant, ⟨14, 29⟩⟩⟩ := by
  decide +kernel

end StackLowering
