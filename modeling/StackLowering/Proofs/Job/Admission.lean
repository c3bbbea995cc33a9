import StackLowering.Proofs.Command.Grammar
import StackLowering.Proofs.Lowering.Refusal
import Mathlib.Algebra.GroupWithZero.Nat

/-!
# Which jobs are refused, and why

`Job.Admissible` says when a job can be lowered: every unit can be read, no
declared name clashes with a memory cell, the startup code, if wanted, fits the
target, and so does every command. `Job.violations` lists what is wrong with a
job, stage after stage, without stopping anywhere.
`Job.first_violation_decides` says that a job is refused exactly for the first
entry of that list, and that the list is empty exactly for admissible jobs, as
long as there are counter values enough for the labels of the job.
-/

namespace StackLowering

/-! ## Everything that is wrong with a job -/

namespace SourceUnit

/-- What is wrong with a unit's name, and then with its lines in order. -/
def misreadings (unit : SourceUnit) : List Mishap :=
  (if Symbol.isSymbol unit.name.toList then []
    else [⟨unit.name, 0, ⟨.invalidUnitName unit.name, .origin⟩⟩]) ++
    (Source.lines unit.source.toList).filterMap fun line => failure? (unit.parseLine line)

/-- The commands of a unit that can be read, in order. -/
def readable (unit : SourceUnit) : List PlacedCommand :=
  (Source.lines unit.source.toList).filterMap fun line => (unit.parseLine line).toOption

end SourceUnit

namespace Job

/-- What is wrong with the names and lines of the units, unit by unit. -/
def misreadings (job : Job) : List Mishap := job.units.flatMap SourceUnit.misreadings

/-- The commands of a job that can be read, in order. -/
def readable (job : Job) : List PlacedCommand := job.units.flatMap SourceUnit.readable

/-- What is wrong with the declared names of a job, command by command. -/
def clashes (job : Job) : List Mishap :=
  job.readable.flatMap fun placed =>
    (placed.command.value.clashes job.target (job.units.map SourceUnit.name)).map placed.mishap

/-- What is wrong with the startup code of a job, if it wants any. -/
def startupViolations (job : Job) : List Mishap :=
  if job.bootstrap then
    job.target.startupFaults.map fun fault => ⟨startupUnit, 0, ⟨fault, .origin⟩⟩
  else []

/-- What keeps the commands of a job from having code, command by command. -/
def commandViolations (job : Job) : List Mishap :=
  job.readable.flatMap fun placed =>
    (placed.command.value.faults job.target).map placed.mishap

/-- Everything that is wrong with a job, in the order in which it is looked for. -/
def violations (job : Job) : List Mishap :=
  job.misreadings ++ (job.clashes ++ (job.startupViolations ++ job.commandViolations))

/-- The number of labels that have to be synthesized for a job with some commands. -/
def labelDemand (job : Job) (commands : List PlacedCommand) : Nat :=
  (commands.map fun placed => placed.command.value.labelDemand).sum + job.startupCount

end Job

/-! ## Jobs that can be lowered -/

/-- A name has the form of a static variable of a unit, with any number as its index. -/
def Location.HasStaticForm (unit name : String) : Prop :=
  ∃ digits, Token.isNumeral digits = true ∧
    name.toList = unit.toList ++ "_static_".toList ++ digits

/-- The target reaches the four segments of a frame through pointers. -/
def Target.FramesReachable (target : Target) : Prop :=
  ∀ segment ∈ [MappedSegment.argument, .locals, .this, .that],
    ∃ pointer, target.addressing segment = .indirect pointer

/-- An element of a segment at a constant address can be loaded as a literal. -/
def Target.InReach (target : Target) (segment : MappedSegment) (index : Word) : Prop :=
  ∀ base, target.addressing segment = .fixed base → base.toNat + index.toNat ≤ 32767

/-- A command has code on a target. -/
def Command.Lowerable (target : Target) : Command → Prop
  | .push segment index =>
    match segment with
    | .mapped segment => target.InReach segment index
    | .constant | .static => True
  | .pop segment index =>
    match segment with
    | .mapped segment => target.InReach segment index
    | .constant => False
    | .static => True
  | .call _ arguments => target.FramesReachable ∧ arguments.toNat ≤ 32762
  | .ret => target.FramesReachable
  | .binary _ | .unary _ | .compare _ | .label _ | .goto _ | .ifGoto _ | .function .. => True

/-- A job that can be lowered. -/
structure Job.Admissible (job : Job) : Prop where
  /-- Every unit has a symbol for its name. -/
  named : ∀ unit ∈ job.units, Symbol.isSymbol unit.name.toList = true
  /-- Every line of every unit is a command. -/
  readLines : ∀ unit ∈ job.units, ∀ line ∈ Source.lines unit.source.toList,
    ∃ command, Command.parse line.text line.offset = .ok command
  /-- No declared name is a cell of the target or has the form of a static of any unit. -/
  declared : ∀ placed ∈ job.readable, ∀ name, placed.command.value.declared? = some name →
    job.target.isReserved name = false ∧
      ∀ unit ∈ job.units, ¬ Location.HasStaticForm unit.name name
  /-- Startup code, if wanted, can load the stack base and call the entry function. -/
  startup : job.bootstrap = true →
    job.target.bootstrap.stackBase.toNat ≤ 32767 ∧ job.target.FramesReachable
  /-- Every command has code. -/
  lowerable : ∀ placed ∈ job.readable, placed.command.value.Lowerable job.target

/-! ## Each stage is decided by its violations -/

namespace SourceUnit

/-- Reading a unit is decided by its misreadings. -/
theorem parse_decided (unit : SourceUnit) : DecidedBy unit.parse unit.misreadings := by
  unfold parse misreadings
  split
  · rw [List.nil_append, List.filterMap_eq_flatMap_toList]
    exact DecidedBy.mapM fun line _ => DecidedBy.failure (unit.parseLine line)
  · rfl

/-- A unit is read as its readable commands. -/
theorem parse_eq_ok {unit : SourceUnit} {commands : List PlacedCommand}
    (read : unit.parse = .ok commands) : commands = unit.readable := by
  unfold parse at read
  split at read
  · exact (filterMap_of_mapM_eq_ok read).symm
  · cases read

/-- A command that can be read comes from a line of its unit, and spans it. -/
theorem exists_line_of_mem_readable {unit : SourceUnit} {placed : PlacedCommand}
    (member : placed ∈ unit.readable) :
    ∃ line ∈ Source.lines unit.source.toList, placed.unit = unit.name ∧
      placed.line = line.number ∧
      Command.parse line.text line.offset = .ok placed.command := by
  obtain ⟨line, inUnit, read⟩ := List.mem_filterMap.mp member
  refine ⟨line, inUnit, ?_⟩
  unfold parseLine at read
  split at read
  · rename_i command parsed
    cases read
    exact ⟨rfl, rfl, parsed⟩
  · cases read

end SourceUnit

/-- A command that is lowered in its place is lowered as such. -/
theorem PlacedCommand.lower_eq_ok {placed : PlacedCommand} {target : Target} {annotate : Bool}
    {context after : Context} {block : Block}
    (lowered : placed.lower target annotate context = .ok (block, after)) :
    ∃ code, Lowering.lower target placed.command.value
      ((context.beginUnit placed.unit).atLine placed.line) = (.ok code, after) := by
  unfold PlacedCommand.lower at lowered
  dsimp only at lowered
  split at lowered
  · rename_i code middle loweredOne
    cases lowered
    exact ⟨code, loweredOne⟩
  · cases lowered

namespace Job

variable {job : Job}

/-- Reading a job is decided by the misreadings of its units. -/
theorem commands_decided (job : Job) : DecidedBy job.commands job.misreadings :=
  (DecidedBy.mapM fun unit _ => unit.parse_decided).map List.flatten

/-- A job that can be read has the commands that can be read. -/
theorem commands_eq_ok {commands : List PlacedCommand} (read : job.commands = .ok commands) :
    commands = job.readable := by
  unfold Job.commands at read
  cases units : job.units.mapM SourceUnit.parse with
  | error mishap =>
    rw [units] at read
    cases read
  | ok parts =>
    rw [units] at read
    cases read
    have each : ∀ unit ∈ job.units, SourceUnit.parse unit = .ok unit.readable := by
      intro unit member
      have none := (DecidedBy.mapM fun unit _ => unit.parse_decided).exists_eq_ok_iff.mp
        ⟨parts, units⟩
      obtain ⟨commands, parsed⟩ := unit.parse_decided.exists_eq_ok_iff.mpr
        (List.flatMap_eq_nil_iff.mp none unit member)
      rw [parsed, SourceUnit.parse_eq_ok parsed]
    rw [mapM_eq_ok each] at units
    cases units
    rfl

/-- Registering names fails for the first one that clashes. -/
theorem register_decided (job : Job) (commands : List PlacedCommand) (context : Context) :
    DecidedBy (job.register commands context) (commands.flatMap fun placed =>
      (placed.command.value.clashes job.target (job.units.map SourceUnit.name)).map
        placed.mishap) := by
  induction commands generalizing context with
  | nil => rfl
  | cons placed rest inductionHypothesis =>
    rw [List.flatMap_cons]
    refine DecidedBy.bind ?_ fun middle _ => inductionHypothesis middle
    unfold PlacedCommand.register
    cases declared : placed.command.value.declared? with
    | none => simp [Command.clashes, declared, DecidedBy]
    | some name =>
      have decided := Lowering.checkDeclaration_decided job.target
        placed.command.value (job.units.map SourceUnit.name) declared
      dsimp only
      cases checked : Lowering.checkDeclaration job.target name (job.units.map SourceUnit.name) with
      | ok value =>
        rw [checked] at decided
        exact decided.mapError placed.mishap
      | error fault =>
        rw [checked] at decided
        exact decided.mapError placed.mishap

/-- Registering names adds them to the labels, and nothing else. -/
theorem labels_of_register {commands : List PlacedCommand} {before after : Context}
    (registered : job.register commands before = .ok after) :
    after.labels.next = before.labels.next ∧
      after.labels.present.toFinset ⊆
        (declaredNames commands).toFinset ∪ before.labels.present.toFinset := by
  induction commands generalizing before with
  | nil =>
    cases registered
    exact ⟨rfl, Finset.subset_union_right⟩
  | cons placed rest inductionHypothesis =>
    obtain ⟨middle, first, later⟩ := exists_of_bind_eq_ok registered
    obtain ⟨sameNext, present⟩ := inductionHypothesis later
    unfold PlacedCommand.register at first
    split at first
    · rename_i undeclared
      cases first
      have same : declaredNames (placed :: rest) = declaredNames rest := by
        simp [declaredNames, undeclared]
      rw [same]
      exact ⟨sameNext, present⟩
    · rename_i symbol declared
      split at first
      · cases first
        have more : declaredNames (placed :: rest) = symbol :: declaredNames rest := by
          simp [declaredNames, declared]
        rw [more]
        refine ⟨sameNext, fun label member => ?_⟩
        have found := present member
        simp only [Context.declare, LabelSupply.declare, Finset.mem_union, List.mem_toFinset,
          List.mem_insert_iff, List.mem_cons] at found ⊢
        tauto
      · cases first

/-- After registration exactly the declared names have become present. -/
theorem contains_of_register {commands : List PlacedCommand} {before after : Context}
    (registered : job.register commands before = .ok after) (label : String) :
    after.labels.contains label = true ↔
      label ∈ declaredNames commands ∨ before.labels.contains label = true := by
  obtain ⟨declaredPresent, kept⟩ := register_eq_ok registered
  constructor
  · intro present
    have member : label ∈ after.labels.present.toFinset := by
      simpa [LabelSupply.contains] using present
    simpa [LabelSupply.contains] using (labels_of_register registered).2 member
  · rintro (declared | present)
    · exact (declaredPresent label declared).1
    · exact kept label present

/-- After registration there is room for as many labels as counter values and names leave. -/
theorem hasRoom_of_register {commands : List PlacedCommand} {after : Context} {count : Nat}
    (registered : job.register commands .initial = .ok after)
    (enough : (declaredNames commands).dedup.length + count ≤ LabelSupply.limit) :
    after.labels.HasRoom count := by
  obtain ⟨sameNext, present⟩ := labels_of_register registered
  have start : after.labels.next = 0 := sameNext
  have fewer : after.labels.pending.card ≤ (declaredNames commands).dedup.length := by
    rw [← List.card_toFinset]
    refine Finset.card_le_card fun label member => ?_
    have found := present (Finset.mem_filter.mp member).1
    simpa [Context.initial] using found
  unfold LabelSupply.HasRoom LabelSupply.spent
  omega

/-- Startup code fails for the first thing that is wrong with it. -/
theorem startup_decided {context : Context} (room : context.labels.HasRoom job.startupCount) :
    DecidedBy (job.startup context) job.startupViolations := by
  unfold Job.startup startupViolations
  split
  · rename_i wanted
    obtain ⟨lack, -, enough, decided⟩ :=
      Lowering.lowerBootstrap_decided job.target (context.beginUnit startupUnit)
    rw [startupCount, if_pos wanted] at room
    rw [enough room, List.append_nil] at decided
    cases lowered : Lowering.lowerBootstrap job.target (context.beginUnit startupUnit) with
    | mk outcome after =>
      rw [lowered] at decided
      have located := decided.mapError fun fault => (⟨startupUnit, 0, ⟨fault, .origin⟩⟩ : Mishap)
      cases outcome <;> exact located
  · rfl

/-- Startup code takes up no more room for labels than it counts. -/
theorem hasRoom_of_startup {context after : Context} {blocks : List Block} {count : Nat}
    (started : job.startup context = .ok (blocks, after))
    (room : context.labels.HasRoom (count + job.startupCount)) :
    after.labels.HasRoom count := by
  unfold Job.startup at started
  split at started
  · rename_i wanted
    split at started
    · rename_i block middle lowered
      cases started
      rw [startupCount, if_pos wanted] at room
      exact Lowering.hasRoom_of_lowerBootstrap lowered room
    · cases started
  · cases started
    exact room.mono (Nat.le_add_right _ _)

/-- Commands whose names are registered fail for the first thing that is wrong with them. -/
theorem lowerCommands_decided {commands : List PlacedCommand} {context : Context}
    (room : context.labels.HasRoom
      (commands.map fun placed => placed.command.value.labelDemand).sum)
    (present : ∀ name ∈ declaredNames commands, context.labels.contains name = true)
    (allowed : ∀ placed ∈ commands,
      placed.command.value.clashes job.target [placed.unit] = []) :
    DecidedBy (job.lowerCommands commands context) (commands.flatMap fun placed =>
      (placed.command.value.faults job.target).map placed.mishap) := by
  induction commands generalizing context with
  | nil => rfl
  | cons placed rest inductionHypothesis =>
    rw [List.map_cons, List.sum_cons] at room
    obtain ⟨lack, -, enough, decided⟩ := Lowering.lower_decided job.target
      placed.command.value ((context.beginUnit placed.unit).atLine placed.line)
    have supplied : lack = [] := enough (room.mono (Nat.le_add_right _ _))
    have unclashing : placed.command.value.clashes job.target
        [((context.beginUnit placed.unit).atLine placed.line).unit] = [] :=
      allowed placed List.mem_cons_self
    rw [supplied, unclashing, List.append_nil, List.nil_append] at decided
    rw [List.flatMap_cons]
    refine DecidedBy.bind ?_ fun lowered succeeded => ?_
    · unfold PlacedCommand.lower
      dsimp only
      have located := decided.mapError placed.mishap
      cases lowered : Lowering.lower job.target placed.command.value
          ((context.beginUnit placed.unit).atLine placed.line) with
      | mk outcome after =>
        rw [lowered] at located
        cases outcome <;> exact located
    · obtain ⟨block, after⟩ := lowered
      obtain ⟨code, loweredOne⟩ := PlacedCommand.lower_eq_ok succeeded
      obtain ⟨issued, -, adds⟩ := Lowering.lowers_of_lower loweredOne
      have names : ∀ name, placed.command.value.declared? = some name →
          context.labels.contains name = true := fun name declared =>
        present name (mem_declaredNames.mpr ⟨placed, List.mem_cons_self, declared⟩)
      have later := inductionHypothesis
        (Lowering.hasRoom_of_lower loweredOne names room)
        (fun name declared => (adds.present name).mpr (Or.inr (present name ?_)))
        (fun other member => allowed other (List.mem_cons_of_mem _ member))
      · rw [← List.append_nil (rest.flatMap _)]
        exact later.bind fun _ _ => DecidedBy.ok _
      · obtain ⟨other, member, declares⟩ := mem_declaredNames.mp declared
        exact mem_declaredNames.mpr ⟨other, List.mem_cons_of_mem _ member, declares⟩

/-- What clashes with nothing in some units clashes with nothing in fewer of them. -/
theorem clashes_of_subset {target : Target} {units fewer : List String} {command : Command}
    (subset : fewer ⊆ units) (free : command.clashes target units = []) :
    command.clashes target fewer = [] := by
  unfold Command.clashes at free ⊢
  cases declared : command.declared? with
  | none => rfl
  | some name =>
    simp only [ite_eq_right_iff, List.cons_ne_nil, imp_false, Bool.not_eq_true,
      Bool.or_eq_false_iff, List.any_eq_false, declared] at free ⊢
    exact ⟨free.1, fun unit member => free.2 unit (subset member)⟩

/-- With counter values enough, a job is decided by the list of its violations. -/
theorem blocks_decided (enough : ∀ commands, job.commands = .ok commands →
      (declaredNames commands).dedup.length + job.labelDemand commands ≤ LabelSupply.limit) :
    DecidedBy job.blocks job.violations := by
  refine job.commands_decided.bind fun commands read => ?_
  have room := enough commands read
  obtain rfl := commands_eq_ok read
  refine (job.register_decided job.readable .initial).bind fun registered registration => ?_
  have registeredRoom := hasRoom_of_register registration room
  refine (startup_decided (registeredRoom.mono (Nat.le_add_left _ _))).bind
    fun ⟨startup, started⟩ startupDone => ?_
  obtain ⟨opening, -, -, -, startedPresent⟩ := opening_of_startup startupDone
  have lowered : DecidedBy (job.lowerCommands job.readable started) job.commandViolations := by
    refine lowerCommands_decided (hasRoom_of_startup startupDone registeredRoom) ?_ ?_
    · intro name declared
      have present := (register_eq_ok registration).1 name declared
      exact (startedPresent name).mpr (Or.inr present.1)
    · intro placed member
      have none := (job.register_decided job.readable .initial).exists_eq_ok_iff.mp
        ⟨registered, registration⟩
      have unclashing := List.map_eq_nil_iff.mp (List.flatMap_eq_nil_iff.mp none placed member)
      obtain ⟨unit, inJob, inUnit⟩ := List.mem_flatMap.mp member
      obtain ⟨line, -, sameUnit, -⟩ := SourceUnit.exists_line_of_mem_readable inUnit
      refine clashes_of_subset (fun name same => ?_) unclashing
      rw [List.mem_singleton.mp same, sameUnit]
      exact List.mem_map_of_mem inJob
  rw [← List.append_nil job.commandViolations]
  exact lowered.bind fun _ _ => DecidedBy.ok _

end Job

/-! ## Admissible jobs have no violations -/

/-- The check for static symbols finds exactly those of their form. -/
theorem Location.isStaticSymbol_iff {name unit : String} :
    Location.isStaticSymbol name unit = true ↔ Location.HasStaticForm unit name := by
  unfold Location.isStaticSymbol Location.HasStaticForm
  have front : (unit ++ Location.staticMark).toList = unit.toList ++ "_static_".toList :=
    String.toList_append
  rw [front]
  constructor
  · intro formed
    split at formed
    · cases formed
    · rename_i digits found
      exact ⟨digits, formed, (List.isPrefixOf?_eq_some_iff_append_eq.mp found).symm⟩
  · rintro ⟨digits, numeral, spelled⟩
    rw [List.isPrefixOf?_eq_some_iff_append_eq.mpr spelled.symm]
    exact numeral

/-- A command has no clashes exactly when its name, if it declares one, is free. -/
theorem Command.clashes_eq_nil_iff {target : Target} {units : List SourceUnit}
    {command : Command} :
    command.clashes target (units.map SourceUnit.name) = [] ↔
      ∀ name, command.declared? = some name → target.isReserved name = false ∧
        ∀ unit ∈ units, ¬ Location.HasStaticForm unit.name name := by
  unfold Command.clashes
  cases command.declared? with
  | none => simp
  | some name => simp [← Location.isStaticSymbol_iff]

/-- No pointer is at fault exactly if every segment is addressed through one. -/
theorem Target.pointerFaults_eq_nil_iff {target : Target} {segments : List MappedSegment} :
    target.pointerFaults segments = [] ↔
      ∀ segment ∈ segments, ∃ pointer, target.addressing segment = .indirect pointer := by
  unfold Target.pointerFaults
  rw [List.filterMap_eq_nil_iff]
  refine forall_congr' fun segment => forall_congr' fun _ => ?_
  cases target.addressing segment <;> simp

/-- In either order of the pointers, none is at fault exactly if frames can be reached. -/
theorem Target.pointerFaults_frame_eq_nil_iff {target : Target} :
    (target.pointerFaults [.locals, .argument, .this, .that] = [] ↔ target.FramesReachable) ∧
      (target.pointerFaults [.locals, .argument, .that, .this] = [] ↔
        target.FramesReachable) := by
  constructor
  · rw [Target.pointerFaults_eq_nil_iff]
    simp only [Target.FramesReachable, List.mem_cons, List.not_mem_nil, or_false,
      forall_eq_or_imp, forall_eq]
    tauto
  · rw [Target.pointerFaults_eq_nil_iff]
    simp only [Target.FramesReachable, List.mem_cons, List.not_mem_nil, or_false,
      forall_eq_or_imp, forall_eq]
    tauto

/-- No address is at fault exactly if the element is in reach. -/
theorem Target.addressFaults_eq_nil_iff {target : Target} {segment : MappedSegment}
    {index : Word} :
    target.addressFaults segment index = [] ↔ target.InReach segment index := by
  unfold Target.addressFaults Target.InReach
  cases target.addressing segment <;> simp

/-- A command has no faults exactly when it has code. -/
theorem Command.faults_eq_nil_iff {target : Target} {command : Command} :
    command.faults target = [] ↔ command.Lowerable target := by
  cases command with
  | push segment index =>
    cases segment with
    | mapped segment => exact Target.addressFaults_eq_nil_iff
    | constant => simp [Command.faults, Command.Lowerable]
    | static => simp [Command.faults, Command.Lowerable]
  | pop segment index =>
    cases segment with
    | mapped segment => exact Target.addressFaults_eq_nil_iff
    | constant => simp [Command.faults, Command.Lowerable]
    | static => simp [Command.faults, Command.Lowerable]
  | call name arguments =>
    simp only [Command.faults, Command.Lowerable, Target.callFaults, List.append_eq_nil_iff,
      Target.pointerFaults_frame_eq_nil_iff.1, ite_eq_left_iff, List.cons_ne_nil, imp_false,
      Decidable.not_not]
  | ret => exact Target.pointerFaults_frame_eq_nil_iff.2
  | _ => simp [Command.faults, Command.Lowerable]

namespace SourceUnit

/-- A unit has no misreadings exactly when its name is a symbol and its lines are commands. -/
theorem misreadings_eq_nil_iff {unit : SourceUnit} :
    unit.misreadings = [] ↔ Symbol.isSymbol unit.name.toList = true ∧
      ∀ line ∈ Source.lines unit.source.toList,
        ∃ command, Command.parse line.text line.offset = .ok command := by
  unfold misreadings
  rw [List.append_eq_nil_iff, List.filterMap_eq_nil_iff]
  refine and_congr (by simp) (forall_congr' fun line => forall_congr' fun _ => ?_)
  unfold parseLine
  cases Command.parse line.text line.offset <;> simp [failure?]

end SourceUnit

/-- The units of a job that was read have symbols for their names. -/
theorem Job.isSymbol_of_commands {job : Job} {commands : List PlacedCommand}
    (read : job.commands = .ok commands) {unit : SourceUnit} (member : unit ∈ job.units) :
    Symbol.isSymbol unit.name.toList = true := by
  have none := job.commands_decided.exists_eq_ok_iff.mp ⟨commands, read⟩
  exact (SourceUnit.misreadings_eq_nil_iff.mp (List.flatMap_eq_nil_iff.mp none unit member)).1

/-- Startup code has no fault exactly if the stack base can be loaded and frames can be reached. -/
theorem Target.startupFaults_eq_nil_iff {target : Target} :
    target.startupFaults = [] ↔
      target.bootstrap.stackBase.toNat ≤ 32767 ∧ target.FramesReachable := by
  rw [Target.startupFaults, List.append_eq_nil_iff, Target.pointerFaults_frame_eq_nil_iff.1]
  simp

/-- A job has no violations exactly when it is admissible. -/
theorem Job.violations_eq_nil_iff {job : Job} : job.violations = [] ↔ job.Admissible := by
  have read : job.misreadings = [] ↔
      (∀ unit ∈ job.units, Symbol.isSymbol unit.name.toList = true) ∧
        ∀ unit ∈ job.units, ∀ line ∈ Source.lines unit.source.toList,
          ∃ command, Command.parse line.text line.offset = .ok command := by
    simp only [Job.misreadings, List.flatMap_eq_nil_iff, SourceUnit.misreadings_eq_nil_iff,
      forall_and]
  have declared : job.clashes = [] ↔ ∀ placed ∈ job.readable, ∀ name,
      placed.command.value.declared? = some name → job.target.isReserved name = false ∧
        ∀ unit ∈ job.units, ¬ Location.HasStaticForm unit.name name := by
    simp only [Job.clashes, List.flatMap_eq_nil_iff, List.map_eq_nil_iff,
      Command.clashes_eq_nil_iff]
  have startup : job.startupViolations = [] ↔ (job.bootstrap = true →
      job.target.bootstrap.stackBase.toNat ≤ 32767 ∧ job.target.FramesReachable) := by
    simp only [Job.startupViolations, ite_eq_right_iff, List.map_eq_nil_iff,
      Target.startupFaults_eq_nil_iff]
  have lowerable : job.commandViolations = [] ↔
      ∀ placed ∈ job.readable, placed.command.value.Lowerable job.target := by
    simp only [Job.commandViolations, List.flatMap_eq_nil_iff, List.map_eq_nil_iff,
      Command.faults_eq_nil_iff]
  rw [Job.violations, List.append_eq_nil_iff, List.append_eq_nil_iff, List.append_eq_nil_iff,
    read, declared, startup, lowerable]
  constructor
  · rintro ⟨⟨named, readLines⟩, declared, startup, lowerable⟩
    exact ⟨named, readLines, declared, startup, lowerable⟩
  · rintro ⟨named, readLines, declared, startup, lowerable⟩
    exact ⟨⟨named, readLines⟩, declared, startup, lowerable⟩

/-- As long as the declared names and the labels needed are fewer than the counter values, a job is
lowered exactly when it is admissible, and otherwise it is refused for the first of its
violations. -/
theorem Job.first_violation_decides {job : Job}
    (enough : ∀ commands, job.commands = .ok commands →
      (declaredNames commands).dedup.length + job.labelDemand commands < 2 ^ 32 - 1) :
    ((∃ blocks, job.blocks = .ok blocks) ↔ job.Admissible) ∧
      ∀ mishap, job.blocks = .error mishap ↔ job.violations.head? = some mishap := by
  have decided : DecidedBy job.blocks job.violations :=
    Job.blocks_decided fun commands read => Nat.le_of_lt (enough commands read)
  exact ⟨decided.exists_eq_ok_iff.trans Job.violations_eq_nil_iff, decided.eq_error_iff⟩

/-- A job with a fault in its first unit and a clash in its second one: the second unit declares a
name in the form of a static of the first. -/
def clashingUnits : Job where
  units := [⟨"Main", "call f 1\npop constant 0"⟩, ⟨"Other", "function Main_static_07 2"⟩]
  bootstrap := true

/-- The commands of that job. -/
def clashingUnitsCommands : List PlacedCommand :=
  [⟨"Main", 1, ⟨.call "f" 1, ⟨0, 8⟩⟩⟩, ⟨"Main", 2, ⟨.pop .constant 0, ⟨9, 23⟩⟩⟩,
    ⟨"Other", 1, ⟨.function "Main_static_07" 2, ⟨0, 25⟩⟩⟩]

/-- That job is refused for the clash, because names are checked before commands are lowered. -/
theorem clashingUnits_refused :
    clashingUnits.commands = .ok clashingUnitsCommands ∧
      (declaredNames clashingUnitsCommands).dedup.length +
        clashingUnits.labelDemand clashingUnitsCommands < 2 ^ 32 - 1 ∧
      clashingUnits.violations =
        [⟨"Other", 1, ⟨.reservedSymbol "Main_static_07", ⟨0, 25⟩⟩⟩,
          ⟨"Main", 2, ⟨.popConstant, ⟨9, 23⟩⟩⟩] ∧
      clashingUnits.blocks =
        .error ⟨"Other", 1, ⟨.reservedSymbol "Main_static_07", ⟨0, 25⟩⟩⟩ ∧
      ¬ clashingUnits.Admissible := by
  have parsed : clashingUnits.commands = .ok clashingUnitsCommands := by decide +kernel
  have room : (declaredNames clashingUnitsCommands).dedup.length +
      clashingUnits.labelDemand clashingUnitsCommands < 2 ^ 32 - 1 := by decide +kernel
  have violations : clashingUnits.violations =
      [⟨"Other", 1, ⟨.reservedSymbol "Main_static_07", ⟨0, 25⟩⟩⟩,
        ⟨"Main", 2, ⟨.popConstant, ⟨9, 23⟩⟩⟩] := by decide +kernel
  have enough : ∀ commands, clashingUnits.commands = .ok commands →
      (declaredNames commands).dedup.length + clashingUnits.labelDemand commands <
        2 ^ 32 - 1 := by
    intro commands read
    rw [parsed] at read
    cases read
    exact room
  obtain ⟨admitted, refused⟩ := Job.first_violation_decides enough
  have failed := (refused _).mpr (by rw [violations]; rfl)
  refine ⟨parsed, room, violations, failed, fun admissible => ?_⟩
  obtain ⟨blocks, lowered⟩ := admitted.mpr admissible
  rw [failed] at lowered
  cases lowered

end StackLowering
