import StackLowering.Proofs.Job.Blame

/-!
# What makes a job fail

The stages of a job go through its units or its commands in order, and stop at the
first one that they refuse. `Job.FailsIn` says which unit that is, without mention of
the name in the mishap: the unit that cannot be read, or whose command is refused
with all commands before it accepted, and no unit if the startup code is refused.
`Job.assembly_eq_error_iff` says that a job has a mishap exactly if it fails so, and
`Job.FailsIn.exists_unit` that the mishap has the name of that unit.
-/

namespace StackLowering

/-! ## Stages that go through a list -/

section Stages

variable {α β ε : Type}

/-- A mapped result fails exactly if the result does. -/
theorem map_eq_error_iff {first : Except ε α} {make : α → β} {failure : ε} :
    first.map make = .error failure ↔ first = .error failure := by
  cases first with
  | ok value => exact iff_of_false (by rintro ⟨⟩) (by rintro ⟨⟩)
  | error other =>
    constructor
    all_goals
      rintro ⟨⟩
      rfl

/-- A stage succeeds on some entries, and fails with the next one. -/
structure FailsAt (stage : List α → Except ε β) (front : List α) (value : α) (failure : ε) :
    Prop where
  before : ∃ result, stage front = .ok result
  here : stage (front ++ [value]) = .error failure

/-- A stage that goes through a list in order: it does not look behind a failure. -/
structure InOrder (stage : List α → Except ε β) : Prop where
  starts : ∃ result, stage [] = .ok result
  persists : ∀ {front : List α} {failure : ε}, stage front = .error failure →
    ∀ rest, stage (front ++ rest) = .error failure

variable {stage : List α → Except ε β} {values front rest : List α} {value : α} {failure : ε}

/-- A stage that goes through a list fails at one of the entries. -/
theorem InOrder.exists_failsAt (inOrder : InOrder stage)
    (fails : stage values = .error failure) :
    ∃ front value rest, values = front ++ value :: rest ∧ FailsAt stage front value failure := by
  induction values using List.reverseRecOn with
  | nil =>
    obtain ⟨result, starts⟩ := inOrder.starts
    rw [starts] at fails
    cases fails
  | append_singleton front value inductionHypothesis =>
    cases before : stage front with
    | ok result => exact ⟨front, value, [], rfl, ⟨result, before⟩, fails⟩
    | error other =>
      have same := inOrder.persists before [value]
      rw [fails] at same
      cases same
      obtain ⟨earlier, culprit, rest, rfl, failsAt⟩ := inductionHypothesis before
      exact ⟨earlier, culprit, rest ++ [value], by simp, failsAt⟩

/-- A stage that goes in order fails at the first value that fails, whatever follows. -/
theorem FailsAt.fails (failsAt : FailsAt stage front value failure) (inOrder : InOrder stage)
    (rest : List α) : stage (front ++ value :: rest) = .error failure := by
  have failed := inOrder.persists failsAt.here rest
  rwa [List.append_assoc, List.singleton_append] at failed

/-- Reading the entries of a list goes through it in order. -/
theorem inOrder_mapM (read : α → Except ε β) : InOrder (List.mapM read) where
  starts := ⟨[], rfl⟩
  persists failed rest := by
    rw [List.mapM_append, failed]
    rfl

/-- The entry at which reading fails cannot be read. -/
theorem FailsAt.read_eq_error {read : α → Except ε β}
    (failsAt : FailsAt (List.mapM read) front value failure) : read value = .error failure := by
  obtain ⟨⟨results, before⟩, here⟩ := failsAt
  rw [List.mapM_append, before, List.mapM_cons] at here
  cases outcome : read value with
  | error other =>
    rw [outcome] at here
    cases here
    rfl
  | ok result =>
    rw [outcome] at here
    cases here

/-- An entry of a flattened list is an entry of one of the lists. -/
theorem exists_of_flatMap_eq_append {parts : List α} {entries : α → List β}
    {front rest : List β} {entry : β} (split : parts.flatMap entries = front ++ entry :: rest) :
    ∃ before part after earlier later, parts = before ++ part :: after ∧
      entries part = earlier ++ entry :: later ∧ front = before.flatMap entries ++ earlier ∧
        rest = later ++ after.flatMap entries := by
  induction parts generalizing front with
  | nil => simp at split
  | cons part parts inductionHypothesis =>
    rw [List.flatMap_cons] at split
    rcases List.append_eq_append_iff.mp split with
      ⟨middle, rfl, others⟩ | ⟨middle, first, remaining⟩
    · obtain ⟨before, other, after, earlier, later, rfl, part_eq, rfl, rest_eq⟩ :=
        inductionHypothesis others
      exact ⟨part :: before, other, after, earlier, later, rfl, part_eq, by simp, rest_eq⟩
    · cases middle with
      | nil =>
        -- The entry is the first one of a later part.
        have others : parts.flatMap entries = [] ++ entry :: rest := remaining.symm
        obtain ⟨before, other, after, earlier, later, rfl, part_eq, none, rest_eq⟩ :=
          inductionHypothesis others
        refine ⟨part :: before, other, after, earlier, later, rfl, part_eq, ?_, rest_eq⟩
        rw [List.flatMap_cons, List.append_assoc, ← none, first, List.append_nil,
          List.append_nil]
      | cons next later =>
        obtain ⟨rfl, rfl⟩ := List.cons.inj remaining
        exact ⟨[], part, parts, front, later, rfl, first, rfl, rfl⟩

end Stages

/-! ## The stages of a job -/

namespace SourceUnit

/-- A mishap in reading a unit is blamed on that unit. -/
theorem unit_of_parse_eq_error {unit : SourceUnit} {mishap : Mishap}
    (refused : unit.parse = .error mishap) : mishap.unit = unit.name := by
  unfold parse at refused
  split at refused
  · obtain ⟨line, -, failed⟩ := exists_of_mapM_eq_error refused
    unfold parseLine at failed
    split at failed
    · cases failed
    · cases failed
      rfl
  · cases refused
    rfl

/-- The readable commands of a unit belong to it. -/
theorem unit_of_mem_readable {unit : SourceUnit} {placed : PlacedCommand}
    (member : placed ∈ unit.readable) : placed.unit = unit.name := by
  obtain ⟨line, -, same, -, -⟩ := exists_line_of_mem_readable member
  exact same

end SourceUnit

namespace Job

variable {job : Job} {mishap : Mishap}

/-- Commands are registered in order. -/
theorem register_append (job : Job) (front rest : List PlacedCommand) (context : Context) :
    job.register (front ++ rest) context =
      job.register front context >>= job.register rest := by
  induction front generalizing context with
  | nil => rfl
  | cons placed front inductionHypothesis =>
    rw [List.cons_append, register, register]
    cases placed.register job.target (job.units.map SourceUnit.name) context with
    | error other => rfl
    | ok registered => exact inductionHypothesis registered

/-- Commands are registered one after the other, up to the first one that is refused. -/
theorem inOrder_register (job : Job) (context : Context) :
    InOrder (job.register · context) where
  starts := ⟨context, rfl⟩
  persists failed rest := by
    rw [register_append, failed]
    rfl

/-- Commands are lowered one after the other, up to the first one that is refused. -/
theorem inOrder_lowerCommands (job : Job) (context : Context) :
    InOrder (job.lowerCommands · context) where
  starts := ⟨[], rfl⟩
  persists := by
    intro front failure failed rest
    induction front generalizing context with
    | nil => cases failed
    | cons placed front inductionHypothesis =>
      rw [List.cons_append, lowerCommands]
      rcases cases_of_bind_eq_error failed with here | ⟨⟨block, after⟩, lowered, later⟩
      · rw [here]
        rfl
      · rcases cases_of_bind_eq_error later with later | ⟨blocks, -, impossible⟩
        · rw [lowered]
          show job.lowerCommands (front ++ rest) after >>= _ = _
          rw [inductionHypothesis after later]
          rfl
        · cases impossible

/-- The command at which registering names fails is the one in the mishap. -/
theorem unit_of_register_failsAt {front : List PlacedCommand} {placed : PlacedCommand}
    {context : Context} (failsAt : FailsAt (job.register · context) front placed mishap) :
    mishap.unit = placed.unit := by
  obtain ⟨⟨registered, before⟩, here⟩ := failsAt
  rw [register_append, before] at here
  have last : job.register [placed] registered = .error mishap := here
  rcases cases_of_bind_eq_error last with failed | ⟨after, -, impossible⟩
  · unfold PlacedCommand.register at failed
    split at failed
    · cases failed
    · split at failed
      · cases failed
      · cases failed
        rfl
  · cases impossible

/-- The command at which lowering fails is the one in the mishap. -/
theorem unit_of_lowerCommands_failsAt {front : List PlacedCommand} {placed : PlacedCommand}
    {context : Context} (failsAt : FailsAt (job.lowerCommands · context) front placed mishap) :
    mishap.unit = placed.unit := by
  obtain ⟨⟨bodies, before⟩, here⟩ := failsAt
  induction front generalizing context bodies with
  | nil =>
    rcases cases_of_bind_eq_error here with failed | ⟨lowered, -, impossible⟩
    · obtain ⟨fault, -, rfl⟩ := PlacedCommand.lower_eq_error failed
      rfl
    · cases impossible
  | cons first front inductionHypothesis =>
    obtain ⟨⟨block, after⟩, lowered, before⟩ := exists_of_bind_eq_ok before
    obtain ⟨blocks, before, -⟩ := exists_of_bind_eq_ok before
    rcases cases_of_bind_eq_error here with failed | ⟨other, again, later⟩
    · rw [lowered] at failed
      cases failed
    · rw [lowered] at again
      cases again
      rcases cases_of_bind_eq_error later with failed | ⟨others, -, impossible⟩
      · exact inductionHypothesis failed blocks before
      · cases impossible

/-! ## Units that make a job fail -/

/-- A stage fails at a command of the unit at an index, and at no command before it. -/
inductive StopsIn {β : Type} (job : Job) (stage : List PlacedCommand → Except Mishap β)
    (mishap : Mishap) : Nat → Prop where
  | intro {before after : List SourceUnit} {unit : SourceUnit}
      {earlier later : List PlacedCommand} {placed : PlacedCommand}
      (units : job.units = before ++ unit :: after)
      (commands : unit.readable = earlier ++ placed :: later)
      (refused : FailsAt stage (before.flatMap SourceUnit.readable ++ earlier) placed mishap) :
      StopsIn job stage mishap before.length

/-- A job fails because of the unit at an index, or because of its startup code and not because of
any unit. -/
inductive FailsIn (job : Job) (mishap : Mishap) : Option Nat → Prop where
  /-- The first unit that cannot be read. -/
  | reading {before after : List SourceUnit} {unit : SourceUnit}
      (units : job.units = before ++ unit :: after)
      (refused : FailsAt (List.mapM SourceUnit.parse) before unit mishap) :
      FailsIn job mishap (some before.length)
  /-- The unit with the first command that declares a name in vain. -/
  | declaring {commands : List PlacedCommand} {index : Nat}
      (read : job.commands = .ok commands)
      (stops : job.StopsIn (job.register · .initial) mishap index) :
      FailsIn job mishap (some index)
  | starting {commands : List PlacedCommand} {registered : Context}
      (read : job.commands = .ok commands)
      (declared : job.register commands .initial = .ok registered)
      (refused : job.startup registered = .error mishap) :
      FailsIn job mishap none
  /-- The unit with the first command that has no code. -/
  | lowering {commands : List PlacedCommand} {registered started : Context}
      {startup : List Block} {index : Nat}
      (read : job.commands = .ok commands)
      (declared : job.register commands .initial = .ok registered)
      (prepared : job.startup registered = .ok (startup, started))
      (stops : job.StopsIn (job.lowerCommands · started) mishap index) :
      FailsIn job mishap (some index)

section StopsIn

variable {β : Type} {stage : List PlacedCommand → Except Mishap β} {index : Nat}

/-- A stage that goes through the commands in order stops in a unit if it fails. -/
theorem exists_stopsIn (inOrder : InOrder stage) (failed : stage job.readable = .error mishap) :
    ∃ index, job.StopsIn stage mishap index := by
  obtain ⟨front, placed, rest, split, failsAt⟩ := inOrder.exists_failsAt failed
  obtain ⟨before, unit, after, earlier, later, units, commands, rfl, -⟩ :=
    exists_of_flatMap_eq_append split
  exact ⟨_, .intro units commands failsAt⟩

/-- A stage that goes in order and stops in a unit fails with the mishap at which it stops. -/
theorem StopsIn.fails (stops : job.StopsIn stage mishap index) (inOrder : InOrder stage) :
    stage job.readable = .error mishap := by
  cases stops with
  | @intro before after unit earlier later placed units commands refused =>
    have split : job.readable = (before.flatMap SourceUnit.readable ++ earlier) ++
        placed :: (later ++ after.flatMap SourceUnit.readable) := by
      rw [readable, units, List.flatMap_append, List.flatMap_cons, commands]
      simp only [List.append_assoc, List.cons_append]
    rw [split]
    exact refused.fails inOrder _

/-- If the mishaps of a stage name the unit of the command, they name the unit in which it stops. -/
theorem StopsIn.exists_unit (stops : job.StopsIn stage mishap index)
    (named : ∀ {front placed}, FailsAt stage front placed mishap → mishap.unit = placed.unit) :
    ∃ before unit after, job.units = before ++ unit :: after ∧ before.length = index ∧
      unit.name = mishap.unit := by
  cases stops with
  | @intro before after unit earlier later placed units commands refused =>
    have member : placed ∈ unit.readable := by
      rw [commands]
      simp
    exact ⟨before, unit, after, units, rfl,
      (SourceUnit.unit_of_mem_readable member).symm.trans (named refused).symm⟩

end StopsIn

/-- A job has a mishap exactly if one of its units or its startup code makes it fail. -/
theorem assembly_eq_error_iff :
    job.assembly = .error mishap ↔ ∃ culprit, job.FailsIn mishap culprit := by
  rw [assembly, map_eq_error_iff]
  constructor
  · intro failed
    rcases cases_of_bind_eq_error failed with unread | ⟨commands, read, failed⟩
    · obtain ⟨before, unit, after, units, refused⟩ :=
        (inOrder_mapM SourceUnit.parse).exists_failsAt (map_eq_error_iff.mp unread)
      exact ⟨_, .reading units refused⟩
    have all := commands_eq_ok read
    rcases cases_of_bind_eq_error failed with undeclared | ⟨registered, declared, failed⟩
    · rw [all] at undeclared
      obtain ⟨index, stops⟩ := exists_stopsIn (job.inOrder_register .initial) undeclared
      exact ⟨_, .declaring read stops⟩
    rcases cases_of_bind_eq_error failed with unstarted | ⟨⟨startup, started⟩, prepared, failed⟩
    · exact ⟨_, .starting read declared unstarted⟩
    rcases cases_of_bind_eq_error failed with unlowered | ⟨bodies, -, impossible⟩
    · rw [all] at unlowered
      obtain ⟨index, stops⟩ := exists_stopsIn (job.inOrder_lowerCommands started) unlowered
      exact ⟨_, .lowering read declared prepared stops⟩
    · cases impossible
  · rintro ⟨culprit, fails⟩
    unfold blocks
    cases fails with
    | @reading before after unit units refused =>
      have unread := refused.fails (inOrder_mapM SourceUnit.parse) after
      rw [← units] at unread
      have unreadable : job.commands = .error mishap := map_eq_error_iff.mpr unread
      simp only [unreadable, bind, Except.bind]
    | declaring read stops =>
      have undeclared := stops.fails (job.inOrder_register .initial)
      rw [← commands_eq_ok read] at undeclared
      simp only [read, undeclared, bind, Except.bind]
    | starting read declared refused =>
      simp only [read, declared, refused, bind, Except.bind]
    | @lowering _ _ started _ _ read declared prepared stops =>
      have unlowered := stops.fails (job.inOrder_lowerCommands started)
      rw [← commands_eq_ok read] at unlowered
      simp only [read, declared, prepared, unlowered, bind, Except.bind]

/-- The mishap names the unit that makes a job fail. -/
theorem FailsIn.exists_unit {index : Nat} (fails : job.FailsIn mishap (some index)) :
    ∃ before unit after, job.units = before ++ unit :: after ∧ before.length = index ∧
      unit.name = mishap.unit := by
  cases fails with
  | @reading before after unit units refused =>
    exact ⟨before, unit, after, units, rfl,
      (SourceUnit.unit_of_parse_eq_error refused.read_eq_error).symm⟩
  | declaring read stops => exact stops.exists_unit unit_of_register_failsAt
  | lowering read declared prepared stops =>
    exact stops.exists_unit unit_of_lowerCommands_failsAt

/-- The mishap names the startup unit if no unit makes a job fail. -/
theorem FailsIn.unit_eq_startupUnit (fails : job.FailsIn mishap none) :
    mishap.unit = startupUnit := by
  cases fails with
  | starting read declared refused => exact (startup_eq_error refused).1

end Job

end StackLowering
