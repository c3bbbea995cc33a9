import StackLowering.Proofs.Job.Admission
import StackLowering.Proofs.Labels.Following

/-!
# More units behind the units of a job

The names that a unit declares are registered before anything is lowered, so units
that are added at the end of a job can change the labels in front of them.
`Job.earlier_units_stable` says that they can do no more than that: a job can be
lowered whenever it can be lowered with more units behind it, and its program then
begins the longer one exactly when no name that the added units declare is a label
synthesized for it.
-/

namespace StackLowering

/-! ## Commands in contexts that follow each other -/

/-- A command is lowered in its place by following its plan there. -/
theorem PlacedCommand.lower_eq_ok_iff {placed : PlacedCommand} {target : Target}
    {annotate : Bool} {context after : Context} {block : Block} :
    placed.lower target annotate context = .ok (block, after) ↔
      ∃ code, Plan.follow ((context.beginUnit placed.unit).atLine placed.line)
          (Lowering.plan target placed.unit placed.command.value) = (.ok code, after) ∧
        block = if annotate then placed.annotation ++ code else code := by
  have planned : Lowering.lower target placed.command.value
      ((context.beginUnit placed.unit).atLine placed.line) =
        Plan.follow ((context.beginUnit placed.unit).atLine placed.line)
          (Lowering.plan target placed.unit placed.command.value) :=
    Lowering.lower_eq_follow target placed.command.value _
  unfold PlacedCommand.lower
  dsimp only
  rw [planned]
  cases Plan.follow ((context.beginUnit placed.unit).atLine placed.line)
      (Lowering.plan target placed.unit placed.command.value) with
  | mk outcome last => cases outcome <;> simp [eq_comm, and_comm]

namespace Job

variable {job : Job} {context middle : Context}

/-- Commands are lowered one after the other. -/
theorem lowerCommands_cons {placed : PlacedCommand} {rest : List PlacedCommand} {block : Block}
    {bodies : List Block}
    (here : placed.lower job.target job.annotate context = .ok (block, middle))
    (later : job.lowerCommands rest middle = .ok bodies) :
    job.lowerCommands (placed :: rest) context = .ok (block :: bodies) := by
  simp only [lowerCommands, here, later, bind, Except.bind]
  rfl

/-- The startup block, if wanted, and the blocks of some commands. -/
def generate (job : Job) (commands : List PlacedCommand) (context : Context) :
    Except Mishap (List Block) := do
  let (startup, context) ← job.startup context
  let bodies ← job.lowerCommands commands context
  return startup ++ bodies

/-- Generated code is the startup code with the bodies behind it. -/
theorem generate_eq_ok {commands : List PlacedCommand} {startup bodies : List Block}
    (started : job.startup context = .ok (startup, middle))
    (lowered : job.lowerCommands commands middle = .ok bodies) :
    job.generate commands context = .ok (startup ++ bodies) := by
  simp only [generate, started, lowered, bind, Except.bind]
  rfl

/-- A job is read and registered as a whole before any code is generated. -/
theorem blocks_eq_generate (job : Job) :
    job.blocks = (do
      let commands ← job.commands
      let context ← job.register commands .initial
      job.generate commands context) := rfl

/-- There is one block of startup code, or none. -/
theorem length_startup {startup : List Block}
    (started : job.startup context = .ok (startup, middle)) :
    startup.length = job.startupCount := by
  obtain ⟨opening, opened, rfl, -, -⟩ := opening_of_startup started
  unfold startupCount
  rw [← opened]
  cases opening <;> rfl

end Job

section Lockstep

variable {related : LabelSupply → LabelSupply → Prop} {passes : String → Prop} {verbatim : Prop}

/-- A command that is lowered in one context is lowered in every context that follows it. -/
theorem PlacedCommand.lower_follows (follows : LabelSupply.Follows related passes verbatim)
    {placed : PlacedCommand} {target : Target} {annotate : Bool} {first second after : Context}
    {block : Block} (begins : related first.labels second.labels)
    (lowered : placed.lower target annotate first = .ok (block, after))
    (pass : ∀ label ∈ placed.synthesized block, passes label) :
    ∃ other next, placed.lower target annotate second = .ok (other, next) ∧
      (verbatim → other = block) ∧ related after.labels next.labels := by
  obtain ⟨code, followed, rfl⟩ := PlacedCommand.lower_eq_ok_iff.mp lowered
  have labels : Block.labels (if annotate then placed.annotation ++ code else code) =
      Block.labels code := by
    split <;> rfl
  obtain ⟨other, next, otherFollowed, same, ends⟩ := Plan.follow_follows follows
    (Context.beside_atLine begins placed.unit placed.line) followed
    (fun plan planned => (Lowering.isSound_of_plan planned).2) (by
      intro plan planned undeclared label member
      rw [(Lowering.isSound_of_plan planned).1] at undeclared
      refine pass label (List.mem_filter.mpr ⟨labels.symm ▸ member, ?_⟩)
      simp [undeclared])
  exact ⟨_, next, PlacedCommand.lower_eq_ok_iff.mpr ⟨other, otherFollowed, rfl⟩,
    fun equal => by rw [same equal], ends⟩

namespace Job

variable {job : Job}

/-- Commands that are lowered in one context are lowered in every context that follows it. -/
theorem lowerCommands_follows (follows : LabelSupply.Follows related passes verbatim)
    {commands : List PlacedCommand} {first second : Context} {bodies : List Block}
    (begins : related first.labels second.labels)
    (lowered : job.lowerCommands commands first = .ok bodies)
    (pass : ∀ entry ∈ commands.zip bodies, ∀ label ∈ entry.1.synthesized entry.2,
      passes label) :
    ∃ others, job.lowerCommands commands second = .ok others ∧
      (verbatim → others = bodies) := by
  induction commands generalizing first second bodies with
  | nil =>
    cases lowered
    exact ⟨[], rfl, fun _ => rfl⟩
  | cons placed rest inductionHypothesis =>
    obtain ⟨⟨block, middle⟩, here, lowered⟩ := exists_of_bind_eq_ok lowered
    obtain ⟨later, loweredLater, whole⟩ := exists_of_bind_eq_ok lowered
    cases whole
    rw [List.zip_cons_cons, List.forall_mem_cons] at pass
    obtain ⟨other, otherMiddle, otherHere, same, goesOn⟩ :=
      PlacedCommand.lower_follows follows begins here pass.1
    obtain ⟨others, otherLater, sameLater⟩ := inductionHypothesis goesOn loweredLater pass.2
    exact ⟨other :: others, lowerCommands_cons otherHere otherLater,
      fun equal => by rw [same equal, sameLater equal]⟩

/-- Startup code that is made in one context is made in every context that follows it. -/
theorem startup_follows (follows : LabelSupply.Follows related passes verbatim)
    {first second after : Context} {startup : List Block}
    (begins : related first.labels second.labels)
    (started : job.startup first = .ok (startup, after))
    (pass : ∀ label ∈ startup.flatMap Block.labels, passes label) :
    ∃ other next, job.startup second = .ok (other, next) ∧ (verbatim → other = startup) ∧
      related after.labels next.labels := by
  unfold Job.startup at started ⊢
  split at started
  · rename_i wanted
    rw [if_pos wanted]
    rw [Lowering.lowerBootstrap_eq_follow] at started ⊢
    split at started
    · rename_i block last followed
      cases started
      obtain ⟨other, next, otherFollowed, same, ends⟩ := Plan.follow_follows follows
        (Context.beside_beginUnit begins startupUnit) followed
        (fun plan planned => (Lowering.isSound_of_startupPlan planned).2)
        (fun plan planned undeclared label member => pass label (by simpa using member))
      rw [otherFollowed]
      exact ⟨[other], next, rfl, fun equal => by rw [same equal], ends⟩
    · cases started
  · rename_i unwanted
    cases started
    rw [if_neg unwanted]
    exact ⟨[], second, rfl, fun _ => rfl, begins⟩

/-- Blocks that are generated in one context are generated in every context that follows it. -/
theorem generate_follows (follows : LabelSupply.Follows related passes verbatim)
    {commands : List PlacedCommand} {first second : Context} {blocks : List Block}
    (begins : related first.labels second.labels)
    (generated : job.generate commands first = .ok blocks)
    (pass : ∀ label ∈ job.synthesizedLabels commands blocks, passes label) :
    ∃ others, job.generate commands second = .ok others ∧ (verbatim → others = blocks) := by
  obtain ⟨⟨startup, middle⟩, started, generated⟩ := exists_of_bind_eq_ok generated
  obtain ⟨bodies, lowered, whole⟩ := exists_of_bind_eq_ok generated
  cases whole
  unfold synthesizedLabels at pass
  rw [← length_startup started, List.take_left, List.drop_left] at pass
  obtain ⟨other, otherMiddle, otherStarted, same, goesOn⟩ :=
    startup_follows follows begins started
      fun label member => pass label (List.mem_append_left _ member)
  obtain ⟨others, otherLowered, sameBodies⟩ :=
    lowerCommands_follows follows goesOn lowered fun entry inZip label member =>
      pass label (List.mem_append_right _ (List.mem_flatMap.mpr ⟨entry, inZip, member⟩))
  exact ⟨other ++ others, generate_eq_ok otherStarted otherLowered,
    fun equal => by rw [same equal, sameBodies equal]⟩

end Job

end Lockstep

/-! ## Jobs with more units -/

namespace Job

variable {job : Job} {later : List SourceUnit}

/-- The job with some units behind its own. -/
def followedBy (job : Job) (later : List SourceUnit) : Job :=
  { job with units := job.units ++ later }

/-- The commands of a longer job are those of its two parts. -/
theorem commands_of_followedBy {all : List PlacedCommand}
    (read : (job.followedBy later).commands = .ok all) :
    ∃ commands more, job.commands = .ok commands ∧
      { job with units := later }.commands = .ok more ∧ all = commands ++ more := by
  have split : (job.units ++ later).mapM SourceUnit.parse = (do
      let parts ← job.units.mapM SourceUnit.parse
      let others ← later.mapM SourceUnit.parse
      return parts ++ others) := List.mapM_append
  simp only [Job.commands, followedBy, split] at read ⊢
  cases first : job.units.mapM SourceUnit.parse with
  | error mishap =>
    rw [first] at read
    cases read
  | ok parts =>
    cases second : later.mapM SourceUnit.parse with
    | error mishap =>
      rw [first, second] at read
      cases read
    | ok others =>
      rw [first, second] at read
      cases read
      exact ⟨parts.flatten, others.flatten, rfl, rfl, List.flatten_append⟩

/-- Registering the names of a longer job registers those of the shorter one, which are the same
but for the names that the added units declare. -/
theorem register_of_followedBy {commands more : List PlacedCommand} {large : Context}
    (registered : (job.followedBy later).register (commands ++ more) .initial = .ok large) :
    ∃ small, job.register commands .initial = .ok small ∧
      LabelSupply.AlikeBut (declaredNames more) small.labels large.labels := by
  -- A name that is free among all units is free among the first ones.
  have unclashing : ∀ placed ∈ commands,
      placed.command.value.clashes job.target (job.units.map SourceUnit.name) = [] := by
    intro placed member
    have none := ((job.followedBy later).register_decided (commands ++ more)
      .initial).exists_eq_ok_iff.mp ⟨large, registered⟩
    have free := List.flatMap_eq_nil_iff.mp none placed (List.mem_append_left _ member)
    refine clashes_of_subset ?_ (List.map_eq_nil_iff.mp free)
    exact List.map_subset _ (List.subset_append_left _ _)
  obtain ⟨small, registeredSmall⟩ := (job.register_decided commands .initial).exists_eq_ok_iff.mpr
    (List.flatMap_eq_nil_iff.mpr fun placed member =>
      List.map_eq_nil_iff.mpr (unclashing placed member))
  refine ⟨small, registeredSmall, ?_, fun label => ?_⟩
  · rw [(labels_of_register registered).1, (labels_of_register registeredSmall).1]
  · rw [contains_of_register registered, contains_of_register registeredSmall,
      declaredNames_append, List.mem_append]
    tauto

/-- The blocks of the first commands of a longer job are generated without looking at the others. -/
theorem lowerCommands_append {first second : List PlacedCommand} {context : Context}
    {bodies : List Block} (lowered : job.lowerCommands (first ++ second) context = .ok bodies) :
    ∃ front back, job.lowerCommands first context = .ok front ∧ bodies = front ++ back ∧
      front.length = first.length := by
  induction first generalizing context bodies with
  | nil => exact ⟨[], bodies, rfl, rfl, rfl⟩
  | cons placed rest inductionHypothesis =>
    obtain ⟨⟨block, middle⟩, here, lowered⟩ := exists_of_bind_eq_ok lowered
    obtain ⟨others, loweredLater, whole⟩ := exists_of_bind_eq_ok lowered
    cases whole
    obtain ⟨front, back, loweredRest, rfl, counted⟩ := inductionHypothesis loweredLater
    exact ⟨block :: front, back, lowerCommands_cons here loweredRest, rfl,
      by rw [List.length_cons, List.length_cons, counted]⟩

/-- The units of a job are of no importance to the code of its commands. -/
theorem lowerCommands_followedBy (commands : List PlacedCommand) (context : Context) :
    (job.followedBy later).lowerCommands commands context =
      job.lowerCommands commands context := by
  induction commands generalizing context with
  | nil => rfl
  | cons placed rest inductionHypothesis =>
    simp only [lowerCommands, inductionHypothesis]
    rfl

/-- Code for more commands begins with the code for the commands in front. -/
theorem generate_of_followedBy {commands more : List PlacedCommand} {context : Context}
    {blocks : List Block}
    (generated : (job.followedBy later).generate (commands ++ more) context = .ok blocks) :
    ∃ front back, job.generate commands context = .ok front ∧ blocks = front ++ back ∧
      front.length = job.startupCount + commands.length := by
  obtain ⟨⟨startup, middle⟩, started, generated⟩ := exists_of_bind_eq_ok generated
  obtain ⟨bodies, lowered, whole⟩ := exists_of_bind_eq_ok generated
  cases whole
  have startedHere : job.startup context = .ok (startup, middle) := started
  rw [lowerCommands_followedBy] at lowered
  obtain ⟨front, back, loweredFront, rfl, counted⟩ := lowerCommands_append lowered
  refine ⟨startup ++ front, back, generate_eq_ok startedHere loweredFront,
    (List.append_assoc ..).symm, ?_⟩
  rw [List.length_append, length_startup startedHere, counted]

/-- The labels synthesized for the first blocks of a program are synthesized for the program. -/
theorem synthesizedLabels_append {commands more : List PlacedCommand} {front back : List Block}
    (counted : front.length = job.startupCount + commands.length) :
    job.synthesizedLabels (commands ++ more) (front ++ back) =
      job.synthesizedLabels commands front ++
        (more.zip back).flatMap fun entry => entry.1.synthesized entry.2 := by
  unfold synthesizedLabels
  rw [List.take_append_of_le_length (by omega), List.drop_append_of_le_length (by omega),
    List.zip_append (by rw [List.length_drop]; omega), List.flatMap_append, List.append_assoc]

/-- The text of two lists of blocks is that of the first one and then that of the second one. -/
theorem programText_append (front back : List Block) :
    programText (front ++ back) = programText front ++ programText back := by
  simp [programText, String.join_append]

/-- A program that begins a longer one has no label that the added units declare: these labels are
synthesized for the longer one as well. -/
theorem apart_of_prefix {commands more : List PlacedCommand} {front blocks : List Block}
    (readFirst : job.commands = .ok commands)
    (read : (job.followedBy later).commands = .ok (commands ++ more))
    (loweredFront : job.blocks = .ok front) (lowered : (job.followedBy later).blocks = .ok blocks)
    (begins : front <+: blocks) :
    ∀ name ∈ declaredNames more, name ∉ job.synthesizedLabels commands front := by
  intro name declared issued
  obtain ⟨rest, rfl⟩ := begins
  obtain ⟨listing, listed⟩ := exists_listing lowered
  obtain ⟨short, rfl⟩ := exists_listing loweredFront
  have counted := short.length_blocks
  rw [short.commands_eq readFirst] at counted
  have all : listing.issued = job.synthesizedLabels (commands ++ more) (short.blocks ++ rest) := by
    rw [← listed, ← listing.commands_eq read]
    exact listing.synthesizedLabels_eq_issued.symm
  have issuedThere : name ∈ listing.issued := by
    rw [all, synthesizedLabels_append counted]
    exact List.mem_append_left _ issued
  have declaredThere : name ∈ declaredNames listing.commands := by
    rw [listing.commands_eq read, declaredNames_append]
    exact List.mem_append_right _ declared
  exact listing.apart name issuedThere declaredThere

/-- If a job can be lowered with more units behind its own, then it can be lowered without them.
Its blocks begin those of the longer job exactly when no name that the added units declare is a
label synthesized for it; and then its text begins the longer text. -/
theorem earlier_units_stable {job : Job} {later : List SourceUnit} {blocks : List Block}
    (lowered : (job.followedBy later).blocks = .ok blocks) :
    ∃ commands more front, job.commands = .ok commands ∧
      { job with units := later }.commands = .ok more ∧ job.blocks = .ok front ∧
      (front <+: blocks ↔
        ∀ name ∈ declaredNames more, name ∉ job.synthesizedLabels commands front) ∧
      ((∀ name ∈ declaredNames more, name ∉ job.synthesizedLabels commands front) →
        ∃ text rest, job.assembly = .ok text ∧
          (job.followedBy later).assembly = .ok (text ++ rest)) := by
  obtain ⟨all, read, registering⟩ := exists_of_bind_eq_ok lowered
  obtain ⟨large, registered, generated⟩ := exists_of_bind_eq_ok registering
  obtain ⟨commands, more, readFirst, readLater, rfl⟩ := commands_of_followedBy read
  obtain ⟨small, registeredSmall, alike⟩ := register_of_followedBy registered
  obtain ⟨begun, back, generatedLarge, rfl, counted⟩ := generate_of_followedBy generated
  -- The shorter job needs no counter value that the longer one does not need.
  have behind : small.labels.Behind large.labels :=
    ⟨Nat.le_of_eq alike.next_eq.symm,
      fun label present _ => (alike.present label).mpr (Or.inl present)⟩
  obtain ⟨front, generatedSmall, -⟩ := generate_follows LabelSupply.follows_behind behind
    generatedLarge fun _ _ => trivial
  have loweredFront : job.blocks = .ok front := by
    rw [blocks_eq_generate, readFirst]
    show (job.register commands .initial >>= fun context => _) = _
    rw [registeredSmall]
    exact generatedSmall
  have begins : (∀ name ∈ declaredNames more, name ∉ job.synthesizedLabels commands front) →
      begun = front := by
    intro apart
    obtain ⟨others, generatedAgain, same⟩ := generate_follows
      (LabelSupply.follows_alikeBut (declaredNames more)) alike generatedSmall
      fun label issued declared => apart label declared issued
    rw [generatedLarge] at generatedAgain
    rw [Except.ok.inj generatedAgain, same trivial]
  refine ⟨commands, more, front, readFirst, readLater, loweredFront, ⟨?_, ?_⟩, ?_⟩
  · exact apart_of_prefix readFirst read loweredFront lowered
  · intro apart
    rw [begins apart]
    exact List.prefix_append front back
  · intro apart
    refine ⟨programText front, programText back, ?_, ?_⟩
    · rw [assembly, loweredFront]
      rfl
    · rw [assembly, lowered, begins apart, ← programText_append]
      rfl

end Job

/-- A job that compares two numbers. -/
def soleComparison : Job where
  units := [⟨"Main", "lt"⟩]

/-- A unit that declares a label in the style of those that the comparison takes. -/
def imitator : SourceUnit := ⟨"Other", "label Main_1_lt_1"⟩

/-- The code of the comparison. -/
def soleComparisonBlocks : List Block :=
  [Lowering.compare Target.hack .lt "Main_1_lt_0" "Main_1_notlt_1"]

/-- The imitation misses the labels of the comparison, whose code stays the same. -/
theorem soleComparison_stable :
    (soleComparison.followedBy [imitator]).blocks =
        .ok (soleComparisonBlocks ++ [[.label "Main_1_lt_1"]]) ∧
      soleComparison.blocks = .ok soleComparisonBlocks ∧
      soleComparisonBlocks <+: soleComparisonBlocks ++ [[.label "Main_1_lt_1"]] ∧
      ∃ text rest, soleComparison.assembly = .ok text ∧
        (soleComparison.followedBy [imitator]).assembly = .ok (text ++ rest) := by
  have lowered : (soleComparison.followedBy [imitator]).blocks =
      .ok (soleComparisonBlocks ++ [[.label "Main_1_lt_1"]]) := by decide +kernel
  obtain ⟨commands, more, front, read, readLater, loweredFront, begins, text⟩ :=
    Job.earlier_units_stable lowered
  have commandsEq : soleComparison.commands =
      .ok [⟨"Main", 1, ⟨.compare .lt, ⟨0, 2⟩⟩⟩] := by decide +kernel
  have moreEq : { soleComparison with units := [imitator] }.commands =
      .ok [⟨"Other", 1, ⟨.label "Main_1_lt_1", ⟨0, 17⟩⟩⟩] := by decide +kernel
  have frontEq : soleComparison.blocks = .ok soleComparisonBlocks := by decide +kernel
  cases commandsEq.symm.trans read
  cases moreEq.symm.trans readLater
  cases frontEq.symm.trans loweredFront
  have apart : ∀ name ∈ declaredNames
      [⟨"Other", 1, ⟨.label "Main_1_lt_1", ⟨0, 17⟩⟩⟩], name ∉ soleComparison.synthesizedLabels
        [⟨"Main", 1, ⟨.compare .lt, ⟨0, 2⟩⟩⟩] soleComparisonBlocks := by decide +kernel
  exact ⟨lowered, loweredFront, begins.mpr apart, text apart⟩

/-- An added unit that declares the first label of the comparison moves both of its labels. -/
example : (soleComparison.followedBy [⟨"Other", "label Main_1_lt_0"⟩]).blocks =
    .ok [Lowering.compare Target.hack .lt "Main_1_lt_1" "Main_1_notlt_2",
      [.label "Main_1_lt_0"]] := by
  decide +kernel

end StackLowering
