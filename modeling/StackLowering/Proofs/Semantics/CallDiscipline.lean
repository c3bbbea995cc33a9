import StackLowering.Proofs.Semantics.FrameChain
import StackLowering.Proofs.Semantics.Placement

/-!
# Calls return to their callers

A call and its matching return are at the two ends of an activity that may call
and return any number of times itself, to any depth. As long as the commands of
the activity respect the open frames, `Job.call_returns_to_caller` says that the
caller finds its frame again, with the result on top.

Every disciplined command preserves the chain of open frames (`Active.perform`),
and therefore every activity does (`Running.of_activity`).
-/

namespace StackLowering

namespace Active

variable {stack : StackProgram} {program : Program} {origin : Memory} {outermost top : Frame}
  {popped : List Word} {rest : List Frame} {placed : PlacedCommand} {moment : Moment}

/-- The values that a disciplined command takes are above the local pointer. -/
theorem taken_le (active : Active stack origin outermost popped moment.memory top rest)
    (disciplined : stack.Disciplined placed moment) :
    top.start + 5 + placed.command.value.popCount ≤ (moment.memory.read 0).toNat := by
  have locals := active.locals
  rcases Nat.eq_zero_or_pos placed.command.value.popCount with none | some
  · rw [none]
    exact active.inside
  · have last := disciplined.pops (placed.command.value.popCount - 1) (by omega)
    omega

/-- Disciplined commands are guarded: what they take from the stack is above all frames, and the
frames are above the scratch cells. -/
theorem guarded (active : Active stack origin outermost popped moment.memory top rest)
    (installed : stack.InstalledIn program)
    (found : stack.commands[moment.position]? = some placed)
    (disciplined : stack.Disciplined placed moment) :
    placed.command.value.Guarded moment.memory := by
  have bounds := active.linked.bounds
  have locals := active.locals
  have argument := active.argument
  have distant : ∀ {word distance : Word}, distance.toNat + 16 ≤ word.toNat →
      word - distance ∉ scratchCells := by
    intro word distance above
    refine not_mem_scratchCells ?_
    rw [BitVec.toNat_sub_of_le (show distance.toNat ≤ word.toNat by omega)]
    omega
  have saved : ∀ {distance : Word}, distance.toNat ≤ 5 →
      moment.memory.read 1 - distance ∉ scratchCells := fun near => distant (by omega)
  have values : ∀ {distance : Word}, distance.toNat ≤ placed.command.value.popCount →
      moment.memory.read 0 - distance ∉ scratchCells := by
    intro distance near
    have taken := active.taken_le disciplined
    exact distant (by omega)
  refine ⟨?_, fun count pushes => ?_⟩
  · generalize placed.command.value = command at values
    cases command with
    | pop segment index => exact List.forall_mem_singleton.mpr (values (Nat.le_refl 1))
    | unary operator => exact List.forall_mem_singleton.mpr (values (Nat.le_refl 1))
    | ifGoto name => exact List.forall_mem_singleton.mpr (values (Nat.le_refl 1))
    | binary operator =>
      simp only [Command.workCells, List.forall_mem_cons]
      exact ⟨values (Nat.le_succ 1), values (Nat.le_refl 2), by simp⟩
    | compare comparison =>
      simp only [Command.workCells, List.forall_mem_cons]
      exact ⟨values (Nat.le_succ 1), values (Nat.le_refl 2), by simp⟩
    | ret =>
      simp only [Command.workCells, List.forall_mem_cons]
      exact ⟨values (Nat.le_refl 1), not_mem_scratchCells (by omega), saved (by decide),
        saved (by decide), saved (by decide), saved (by decide), saved (by decide), by simp⟩
    | _ => exact fun _ member => (List.not_mem_nil member).elim
  · have bounded := disciplined.bounded
    have inside := active.inside
    have few := installed.pushCount_le found
    unfold Word.maxLiteral at few
    exact add_ofNat_ne_zero (by omega) (by omega)

/-- A disciplined command that leaves a frame open goes on at some position and preserves the
invariant. -/
theorem perform (active : Active stack origin outermost popped moment.memory top rest)
    (installed : stack.InstalledIn program)
    (found : stack.commands[moment.position]? = some placed)
    (disciplined : stack.Disciplined placed moment)
    (frames : moment.frames = (top :: rest).map Frame.start)
    (stays : placed.command.value.openFrames (moment.memory.read 0).toNat moment.frames ≠ [])
    {after : Memory} {control : Control}
    (performed : stack.perform ⟨moment.position, moment.memory⟩ placed = some (after, control)) :
    ∃ destination newTop newRest, stack.Arrives moment.position control destination ∧
      Active stack origin outermost
        (popped ++ (placed.command.value.popTarget? (stack.statics placed.unit)
          moment.memory).toList) after newTop newRest ∧
      placed.command.value.openFrames (moment.memory.read 0).toNat moment.frames =
        (newTop :: newRest).map Frame.start := by
  have inside := active.inside
  have taken := active.taken_le disciplined
  have bounded := disciplined.bounded
  have few := installed.pushCount_le found
  obtain ⟨bound, -⟩ := List.getElem?_eq_some_iff.mp found
  unfold StackProgram.perform at performed
  dsimp only at performed
  unfold Word.maxLiteral at few
  by_cases returns : placed.command.value = .ret
  · rw [returns] at stays performed ⊢
    obtain ⟨rfl, rfl⟩ := Prod.mk.inj (Option.some.inj performed)
    rw [frames] at stays ⊢
    cases rest with
    | nil => exact absurd rfl stays
    | cons outer rest =>
      refine ⟨top.resume, outer, rest, active.arrives_resume installed _, ?_, rfl⟩
      change Active stack origin outermost (popped ++ []) _ _ _
      rw [List.append_nil]
      exact active.ret active.left
  by_cases calls : ∃ name arguments, placed.command.value = .call name arguments
  · obtain ⟨name, arguments, calls⟩ := calls
    have declared := disciplined.declared name (by rw [calls]; rfl)
    rw [calls] at performed taken ⊢
    obtain ⟨rfl, rfl⟩ := Prod.mk.inj (Option.some.inj performed)
    obtain ⟨destination, arrives⟩ := StackProgram.arrives_declaration declared moment.position
    refine ⟨destination, Frame.opened moment.memory arguments (moment.position + 1), top :: rest,
      arrives, ?_, ?_⟩
    · change Active stack origin outermost (popped ++ []) _ _ _
      rw [List.append_nil]
      exact active.call (Memory.entered_enter (by omega) (by omega) _ _) bound taken
    · rw [frames]
      rfl
  · have noCall : ∀ name arguments, placed.command.value ≠ .call name arguments :=
      fun name arguments same => calls ⟨name, arguments, same⟩
    have plain := plain_of_perform performed noCall returns (Nat.succ_pos _) taken (by omega)
      fun cell target zero =>
        (disciplined.spares cell target).1 (by rw [zero]; exact List.mem_cons_self)
    have destination : ∃ destination, stack.Arrives moment.position control destination := by
      rcases StackProgram.control_of_perform performed returns active.below_ne_zero with
        rfl | ⟨name, rfl, jumps⟩
      · exact ⟨_, rfl⟩
      · exact StackProgram.arrives_declaration (disciplined.declared name jumps) _
    obtain ⟨destination, arrives⟩ := destination
    rw [Command.openFrames_of_plain noCall returns]
    refine ⟨destination, top, rest, arrives, active.plain plain ?_, frames⟩
    intro cell target
    have spares := disciplined.spares cell target
    rw [frames] at spares
    exact ⟨spares.1, fun frame member => spares.2 _ (List.mem_map_of_mem member)⟩

end Active

/-! ## Activities -/

/-- An activity that started at some moment has come to another one, in which the invariant
holds. -/
structure Running (stack : StackProgram) (program : Program) (first : Moment) (origin : Memory)
    (outermost : Frame) (popped : List Word) (moment : Moment) (top : Frame) (rest : List Frame) :
    Prop where
  activity : stack.Activity program first popped moment
  counter : moment.machine.counter = stack.address moment.position
  active : Active stack origin outermost popped moment.memory top rest
  frames : moment.frames = (top :: rest).map Frame.start

namespace Running

variable {stack : StackProgram} {program : Program} {first moment : Moment} {origin : Memory}
  {outermost top : Frame} {popped : List Word} {rest : List Frame} {placed : PlacedCommand}

/-- An activity goes on with the block of a disciplined command. -/
theorem step (running : Running stack program first origin outermost popped moment top rest)
    (installed : stack.InstalledIn program) (disciplined : stack.Disciplined placed moment)
    {after : Moment} (proceeds : stack.Proceeds program placed moment after)
    (stays : after.frames ≠ []) :
    ∃ newTop newRest, Running stack program first origin outermost
      (popped ++ (placed.command.value.popTarget? (stack.statics placed.unit)
        moment.memory).toList) after newTop newRest := by
  have active := running.active
  have guarded := active.guarded installed proceeds.found disciplined
  have remain := stays
  rw [proceeds.frames] at remain
  obtain ⟨memory, control, performed⟩ := installed.exists_perform proceeds.found moment.memory
  obtain ⟨destination, newTop, newRest, arrives, continues, opened⟩ :=
    active.perform installed proceeds.found disciplined running.frames remain performed
  obtain ⟨-, agrees⟩ := proceeds.outcome installed guarded performed arrives
  exact ⟨newTop, newRest, running.activity.step disciplined proceeds stays, proceeds.arrives,
    continues.of_agrees agrees, proceeds.frames.trans opened⟩

/-- Activities preserve the invariant. -/
theorem of_activity {last : Moment} (activity : stack.Activity program first popped last)
    (installed : stack.InstalledIn program)
    (running : Running stack program first origin outermost [] first outermost []) :
    ∃ top rest, Running stack program first origin outermost popped last top rest := by
  induction activity with
  | refl => exact ⟨outermost, [], running⟩
  | step _ disciplined proceeds stays inductionHypothesis =>
    obtain ⟨top, rest, runningHere⟩ := inductionHypothesis
    exact runningHere.step installed disciplined proceeds stays

/-- Every disciplined command that leaves a frame open lets an activity go on. -/
theorem advance (running : Running stack program first origin outermost popped moment top rest)
    (installed : stack.InstalledIn program)
    (found : stack.commands[moment.position]? = some placed)
    (disciplined : stack.Disciplined placed moment) {memory : Memory} {control : Control}
    (performed : stack.perform ⟨moment.position, moment.memory⟩ placed = some (memory, control))
    {destination : Nat} (arrives : stack.Arrives moment.position control destination)
    {newTop : Frame} {newRest : List Frame}
    (continues : Active stack origin outermost
      (popped ++ (placed.command.value.popTarget? (stack.statics placed.unit)
        moment.memory).toList) memory newTop newRest)
    (opened : placed.command.value.openFrames (moment.memory.read 0).toNat moment.frames =
      (newTop :: newRest).map Frame.start) :
    ∃ after : Moment, after.position = destination ∧ after.memory.Agrees memory ∧
      Running stack program first origin outermost
        (popped ++ (placed.command.value.popTarget? (stack.statics placed.unit)
          moment.memory).toList) after newTop newRest := by
  obtain ⟨after, proceeds, position, agrees⟩ := installed.exists_proceeds found running.counter
    (running.active.guarded installed found disciplined) performed arrives
  have frames := proceeds.frames.trans opened
  exact ⟨after, position, agrees, running.activity.step disciplined proceeds (by simp [frames]),
    proceeds.arrives, continues.of_agrees agrees, frames⟩

end Running

/-! ## A call and its return -/

namespace StackProgram

/-- A call and the return that matches it: the call opens the only frame, the activity between the
two leaves it open, and the return closes it. -/
structure MatchedCall (stack : StackProgram) (program : Program) (arguments : Word)
    (popped : List Word) (calling returning : Moment) : Prop where
  outside : calling.frames = []
  room : arguments.toNat + 16 ≤ (calling.memory.read 0).toNat
  bounded : (calling.memory.read 0).toNat < 32768
  between : ∃ caller name opened, caller.command.value = .call name arguments ∧
    name ∈ declaredNames stack.commands ∧ stack.Proceeds program caller calling opened ∧
    stack.Activity program opened popped returning
  returns : ∃ returner, stack.commands[returning.position]? = some returner ∧
    returner.command.value = .ret ∧ stack.Disciplined returner returning
  matched : returning.frames.length = 1

/-- What a call leaves to its caller: the result in place of the arguments, the pointers, and the
cells below the arguments as far as nothing was popped to them. -/
structure Returned (stack : StackProgram) (arguments : Word) (popped : List Word)
    (calling returning : Moment) (final : Machine) : Prop where
  counter : final.counter = stack.address (calling.position + 1)
  pointer : final.memory.read 0 = calling.memory.read 0 - arguments + 1
  result : final.memory.read (calling.memory.read 0 - arguments) =
    returning.memory.read (returning.memory.read 0 - 1)
  pointers : ∀ cell ∈ ([1, 2, 3, 4] : List Word),
    final.memory.read cell = calling.memory.read cell
  below : ∀ cell : Word, 16 ≤ cell.toNat →
    cell.toNat < (calling.memory.read 0).toNat - arguments.toNat → cell ∉ popped →
    final.memory.read cell = calling.memory.read cell

variable {stack : StackProgram} {program : Program} {arguments : Word} {popped : List Word}
  {calling returning : Moment}

/-- The return that closes the only frame leads to the caller of the frame. -/
theorem Returned.of_active {frame : Frame}
    (active : Active stack calling.memory frame popped returning.memory frame [])
    (opened : frame = Frame.opened calling.memory arguments (calling.position + 1))
    (room : arguments.toNat + 16 ≤ (calling.memory.read 0).toNat) {final : Machine}
    (counter : final.counter = stack.address frame.resume)
    (agrees : final.memory.Agrees returning.memory.leave) :
    stack.Returned arguments popped calling returning final := by
  have left := active.left
  have argument := active.argument
  have base : calling.memory.read 0 - arguments = returning.memory.read 2 := by
    refine BitVec.eq_of_toNat_eq ?_
    rw [argument, opened]
    exact BitVec.toNat_sub_of_le (show arguments.toNat ≤ (calling.memory.read 0).toNat by omega)
  have low : frame.base = (calling.memory.read 0).toNat - arguments.toNat := by
    rw [opened, Frame.opened]
  refine ⟨?_, ?_, ?_, ?_, ?_⟩
  · rw [counter, opened, Frame.opened]
  · rw [agrees.stackPointer, left.pointer, base]
  · rw [base, agrees _ (not_mem_scratchCells (by omega)), left.result]
  · intro cell pointer
    simp only [List.mem_cons, List.not_mem_nil, or_false] at pointer
    rcases pointer with rfl | rfl | rfl | rfl
    · rw [agrees.locals, left.locals, active.read_saved 1 rfl rfl, opened, Frame.opened]
    · rw [agrees.argument, left.argument, active.read_saved 2 rfl rfl, opened, Frame.opened]
    · rw [agrees.this, left.this, active.read_saved 3 rfl rfl, opened, Frame.opened]
    · rw [agrees.that, left.that, active.read_saved 4 rfl rfl, opened, Frame.opened]
  · intro cell above below apart
    rw [agrees cell (not_mem_scratchCells above),
      left.other cell (Memory.not_mem_pointers (by omega)),
      active.kept cell above (by omega) apart]
    rintro rfl
    omega

/-- The machine crosses the block of a matching return, and the caller has its frame again. -/
theorem MatchedCall.crosses
    (matched : stack.MatchedCall program arguments popped calling returning)
    (installed : stack.InstalledIn program) :
    ∃ final, Machine.Crosses program (stack.address returning.position)
        (stack.address (returning.position + 1)) returning.machine final ∧
      stack.Returned arguments popped calling returning final := by
  have room := matched.room
  have bounded := matched.bounded
  obtain ⟨caller, name, first, calls, declared, proceeds, activity⟩ := matched.between
  obtain ⟨returner, found, returns, disciplined⟩ := matched.returns
  obtain ⟨bound, -⟩ := List.getElem?_eq_some_iff.mp proceeds.found
  have entered := Memory.entered_enter (show 5 ≤ (calling.memory.read 0).toNat by omega) (by omega)
    (BitVec.ofNat 16 (stack.address (calling.position + 1))) arguments
  have started := (Active.opened entered bound room).of_agrees
    (proceeds.entered installed calls declared (by omega) bounded)
  have frames : first.frames = [(calling.memory.read 0).toNat] := by
    rw [proceeds.frames, calls, matched.outside]
    rfl
  obtain ⟨top, rest, running⟩ :=
    Running.of_activity activity installed ⟨.refl, proceeds.arrives, started, frames⟩
  have active := running.active
  have single := matched.matched
  rw [running.frames, List.length_map, List.length_cons, Nat.succ_inj,
    List.length_eq_zero_iff] at single
  subst single
  cases active.linked with
  | last low ordered =>
    obtain ⟨final, crosses, counter, agrees⟩ := installed.crosses found running.counter
      (active.guarded installed found disciplined) (by rw [perform, returns]; rfl)
      (active.arrives_resume installed returning.position)
    exact ⟨final, crosses, .of_active active rfl room counter agrees⟩

end StackProgram

/-- Calls return to their callers. If the declared names of a job for the usual target are distinct
and its code fits, then for every call and the return that matches it, with any number of nested
calls and returns between them, the machine crosses the block of the return and has come back to the
caller. -/
theorem Job.call_returns_to_caller {job : Job} {commands : List PlacedCommand}
    {blocks : List Block} (usual : job.target = Target.hack)
    (parsed : job.commands = .ok commands) (lowered : job.blocks = .ok blocks)
    (distinct : (declaredNames commands).Nodup)
    (small : Block.size blocks.flatten ≤ Word.maxLiteral) :
    ∃ program, Program.assemble blocks.flatten = .ok program ∧
      ∀ arguments popped calling returning,
        (job.stackProgram commands blocks program).MatchedCall program arguments popped calling
          returning →
        ∃ final, Machine.Crosses program (job.blockAddress blocks returning.position)
            (job.blockAddress blocks (returning.position + 1)) returning.machine final ∧
          (job.stackProgram commands blocks program).Returned arguments popped calling returning
            final := by
  obtain ⟨listing, rfl⟩ := Job.exists_listing lowered
  obtain rfl := listing.commands_eq parsed
  obtain ⟨program, assembled⟩ :=
    Program.exists_assemble_eq_ok_iff.mpr (listing.nodup_labels_iff.mpr distinct)
  refine ⟨program, assembled, fun arguments popped calling returning matched => ?_⟩
  exact matched.crosses (listing.installed usual assembled small)

/-- A job in which a called function calls one of another unit. -/
def nestedCalls : Job where
  units := [⟨"Main", "call outer 1\nfunction outer 0\ncall inner 0\nreturn"⟩,
    ⟨"Other", "function inner 0\npush constant 7\nreturn"⟩]

/-- The commands of that job. -/
def nestedCallsCommands : List PlacedCommand :=
  [⟨"Main", 1, ⟨.call "outer" 1, ⟨0, 12⟩⟩⟩, ⟨"Main", 2, ⟨.function "outer" 0, ⟨13, 29⟩⟩⟩,
    ⟨"Main", 3, ⟨.call "inner" 0, ⟨30, 42⟩⟩⟩, ⟨"Main", 4, ⟨.ret, ⟨43, 49⟩⟩⟩,
    ⟨"Other", 1, ⟨.function "inner" 0, ⟨0, 16⟩⟩⟩, ⟨"Other", 2, ⟨.push .constant 7, ⟨17, 32⟩⟩⟩,
    ⟨"Other", 3, ⟨.ret, ⟨33, 39⟩⟩⟩]

/-- The pointers of the usual target. -/
def usualPointers : Lowering.FramePointers := ⟨"LCL", "ARG", "THIS", "THAT"⟩

/-- The blocks of that job. -/
def nestedCallsBlocks : List Block :=
  [Lowering.call Target.hack usualPointers "outer" 6 "Main_1_return_0",
    Lowering.function Target.hack "outer" 0,
    Lowering.call Target.hack usualPointers "inner" 5 "Main_3_return_1",
    Lowering.ret Target.hack usualPointers, Lowering.function Target.hack "inner" 0,
    Lowering.fetch (.literal 7) ++ Lowering.pushData Target.hack,
    Lowering.ret Target.hack usualPointers]

/-- In that job, the outer function calls the inner one and gets its result. -/
theorem nestedCalls_body {stack : StackProgram} {program : Program} {origin : Memory}
    {outermost : Frame} {first body : Moment} (commands : stack.commands = nestedCallsCommands)
    (installed : stack.InstalledIn program)
    (running : Running stack program first origin outermost [] body outermost [])
    (position : body.position = 2)
    (pointer : (body.memory.read 0).toNat = outermost.start + 5) (low : outermost.start < 32000) :
    ∃ returning, Running stack program first origin outermost [] returning outermost [] ∧
      returning.position = 3 ∧ (returning.memory.read 0).toNat = outermost.start + 6 ∧
      returning.memory.read (returning.memory.read 0 - 1) = 7 := by
  have bounds := running.active.linked.bounds
  have declared : "inner" ∈ declaredNames stack.commands := by
    rw [commands]
    decide
  have arrives : stack.Arrives body.position (.declaration "inner") 4 :=
    ⟨⟨"Other", 1, ⟨.function "inner" 0, ⟨0, 16⟩⟩⟩, by rw [commands]; rfl, rfl⟩
  have entered := Memory.entered_enter (show 5 ≤ (body.memory.read 0).toNat by omega) (by omega)
    (BitVec.ofNat 16 (stack.address (body.position + 1))) 0
  obtain ⟨called, atCalled, calledAgrees, running⟩ := running.advance installed
    (show _ = some ⟨"Main", 3, ⟨.call "inner" 0, ⟨30, 42⟩⟩⟩ by rw [position, commands]; rfl)
    (.of_idle (by omega) rfl rfl (by rintro name ⟨⟩; exact declared)) rfl arrives
    (running.active.call entered (by rw [position, commands]; decide)
      (by rw [pointer]; exact Nat.le_refl _)) (by rw [running.frames]; rfl)
  have calledPointer : (called.memory.read 0).toNat = outermost.start + 10 := by
    rw [calledAgrees.stackPointer, entered.pointer, pointer]
  obtain ⟨started, atStarted, startedAgrees, running⟩ := running.advance installed
    (show _ = some ⟨"Other", 1, ⟨.function "inner" 0, ⟨0, 16⟩⟩⟩ by rw [atCalled, commands]; rfl)
    (.of_idle (by omega) rfl rfl (by rintro name ⟨⟩)) rfl rfl running.active
    (by rw [running.frames]; rfl)
  have startedPointer : (started.memory.read 0).toNat = outermost.start + 10 := by
    rw [startedAgrees.stackPointer]
    exact calledPointer
  have pushes := Memory.pushed_pushAll [7] (show 0 < (started.memory.read 0).toNat by omega)
    (by rw [startedPointer, List.length_singleton]; omega)
  have plain : Plain _ none started.memory (started.memory.pushAll [7]) :=
    .pushAll [7] (Nat.succ_pos _) running.active.inside
      (by rw [startedPointer, List.length_singleton]; omega)
  obtain ⟨pushed, atPushed, pushedAgrees, running⟩ := running.advance installed
    (show _ = some ⟨"Other", 2, ⟨.push .constant 7, ⟨17, 32⟩⟩⟩ by
      rw [atStarted, atCalled, commands]; rfl)
    (.of_idle (by omega) rfl rfl (by rintro name ⟨⟩)) rfl rfl
    (running.active.plain plain (by rintro cell ⟨⟩)) (by rw [running.frames]; rfl)
  have pushedPointer : (pushed.memory.read 0).toNat = outermost.start + 11 := by
    rw [pushedAgrees.stackPointer]
    exact pushes.pointer.trans (by rw [startedPointer, List.length_singleton])
  have locals : (pushed.memory.read 1).toNat = (body.memory.read 0).toNat + 5 :=
    running.active.locals
  have argument : (pushed.memory.read 2).toNat = (body.memory.read 0).toNat :=
    running.active.argument
  have left := running.active.left
  have returns : stack.Disciplined ⟨"Other", 3, ⟨.ret, ⟨33, 39⟩⟩⟩ pushed := by
    refine ⟨by omega, fun count few => ?_, by rintro cell ⟨⟩, by rintro name ⟨⟩⟩
    change count < 1 at few
    omega
  obtain ⟨returning, atReturning, returningAgrees, running⟩ := running.advance installed
    (show _ = some _ by rw [atPushed, atStarted, atCalled, commands]; rfl) returns rfl
    (running.active.arrives_resume installed _) (running.active.ret left)
    (by rw [running.frames]; rfl)
  have result : pushed.memory.read (pushed.memory.read 0 - 1) = 7 := by
    have top := toNat_sub_one (show 0 < (pushed.memory.read 0).toNat by omega)
    rw [pushedAgrees _ (not_mem_scratchCells (by omega))]
    exact pushes.values _ 0 7 (by omega) rfl
  have returningPointer : returning.memory.read 0 = pushed.memory.read 2 + 1 := by
    rw [returningAgrees.stackPointer, left.pointer]
  refine ⟨returning, running, ?_, ?_, ?_⟩
  · rw [atReturning, Frame.opened, position]
  · rw [returningPointer, BitVec.toNat_add]
    change (_ + 1) % 65536 = _
    omega
  · rw [returningPointer, BitVec.add_sub_cancel,
      returningAgrees _ (not_mem_scratchCells (by omega)), left.result, result]

/-- In that job, the call of the outer function has a matching return. -/
theorem nestedCalls_matched {stack : StackProgram} {program : Program} {calling : Moment}
    (commands : stack.commands = nestedCallsCommands) (installed : stack.InstalledIn program)
    (position : calling.position = 0)
    (starts : calling.machine.counter = stack.address calling.position)
    (outside : calling.frames = []) (pointer : (calling.memory.read 0).toNat = 257) :
    ∃ returning, stack.MatchedCall program 1 [] calling returning ∧
      returning.memory.read (returning.memory.read 0 - 1) = 7 := by
  have arrives : stack.Arrives calling.position (.declaration "outer") 1 :=
    ⟨⟨"Main", 2, ⟨.function "outer" 0, ⟨13, 29⟩⟩⟩, by rw [commands]; rfl, rfl⟩
  have room : (1 : Word).toNat + 16 ≤ (calling.memory.read 0).toNat := by
    rw [pointer]
    decide
  have entered := Memory.entered_enter (show 5 ≤ (calling.memory.read 0).toNat by omega)
    (by omega) (BitVec.ofNat 16 (stack.address (calling.position + 1))) 1
  obtain ⟨opened, called, atOpened, openedAgrees⟩ := installed.exists_proceeds
    (show _ = some ⟨"Main", 1, ⟨.call "outer" 1, ⟨0, 12⟩⟩⟩ by rw [position, commands]; rfl) starts
    (StackProgram.guarded_call (by omega) (by omega) _ _) rfl arrives
  have active := (Active.opened entered (by rw [position, commands]; decide) room).of_agrees
    openedAgrees
  have openedPointer : (opened.memory.read 0).toNat = 262 := by
    rw [openedAgrees.stackPointer, entered.pointer, pointer]
  have running : Running stack program opened calling.memory _ [] opened _ [] :=
    ⟨.refl, called.arrives, active, by rw [called.frames, outside]; rfl⟩
  obtain ⟨body, atBody, bodyAgrees, running⟩ := running.advance installed
    (show _ = some ⟨"Main", 2, ⟨.function "outer" 0, ⟨13, 29⟩⟩⟩ by rw [atOpened, commands]; rfl)
    (.of_idle (by omega) rfl rfl (by rintro name ⟨⟩)) rfl rfl running.active
    (by rw [running.frames]; rfl)
  have bodyPointer : (body.memory.read 0).toNat = (calling.memory.read 0).toNat + 5 := by
    rw [bodyAgrees.stackPointer, pointer]
    exact openedPointer
  have start : (Frame.opened calling.memory 1 (calling.position + 1)).start = 257 := pointer
  obtain ⟨returning, running, atReturning, returningPointer, result⟩ := nestedCalls_body commands
    installed running (atBody.trans (congrArg Nat.succ atOpened)) bodyPointer (by omega)
  have locals := running.active.locals
  refine ⟨returning, ⟨outside, room, by omega, ?_, ?_, ?_⟩, result⟩
  · exact ⟨_, "outer", opened, rfl, by rw [commands]; decide, called, running.activity⟩
  · refine ⟨⟨"Main", 4, ⟨.ret, ⟨43, 49⟩⟩⟩, by rw [atReturning, commands]; rfl, rfl, by omega, ?_,
      by rintro cell ⟨⟩, by rintro name ⟨⟩⟩
    intro count few
    change count < 1 at few
    omega
  · rw [running.frames]
    rfl

/-- Called on a stack with one argument at 256, the outer function comes back to the command behind
the call and leaves the result of the inner one in place of its argument. -/
theorem nestedCalls_return_to_caller :
    nestedCalls.target = Target.hack ∧ nestedCalls.commands = .ok nestedCallsCommands ∧
      nestedCalls.blocks = .ok nestedCallsBlocks ∧ (declaredNames nestedCallsCommands).Nodup ∧
      Block.size nestedCallsBlocks.flatten ≤ Word.maxLiteral ∧
      ∃ program returning final, Program.assemble nestedCallsBlocks.flatten = .ok program ∧
        (nestedCalls.stackProgram nestedCallsCommands nestedCallsBlocks program).MatchedCall program
          1 [] ⟨0, { memory := Memory.zeros.write 0 257 }, []⟩ returning ∧
        Machine.Reaches program returning.machine final ∧ final.counter = 42 ∧
        final.memory.read 0 = 257 ∧ final.memory.read 256 = 7 := by
  have parsed : nestedCalls.commands = .ok nestedCallsCommands := by decide +kernel
  have lowered : nestedCalls.blocks = .ok nestedCallsBlocks := by decide +kernel
  have distinct : (declaredNames nestedCallsCommands).Nodup := by decide
  have small : Block.size nestedCallsBlocks.flatten ≤ Word.maxLiteral := by decide +kernel
  obtain ⟨program, assembled, comesBack⟩ :=
    Job.call_returns_to_caller rfl parsed lowered distinct small
  have pointer : (Memory.zeros.write 0 257).read 0 = 257 := Memory.read_write_same ..
  generalize Memory.zeros.write 0 257 = memory at pointer
  obtain ⟨returning, matched, result⟩ := nestedCalls_matched rfl
    (Job.installed rfl parsed lowered assembled small)
    (show Moment.position ⟨0, { memory := memory }, []⟩ = 0 from rfl) rfl rfl
    (congrArg BitVec.toNat pointer)
  obtain ⟨final, crosses, returned⟩ := comesBack _ _ _ _ matched
  have base : memory.read 0 - 1 = 256 := by
    rw [pointer]
    rfl
  have behind : nestedCalls.blockAddress nestedCallsBlocks 1 = 42 := by decide +kernel
  refine ⟨rfl, parsed, lowered, distinct, small, program, returning, final, assembled, matched,
    crosses.reaches, returned.counter.trans behind, ?_, ?_⟩
  · rw [returned.pointer]
    change memory.read 0 - 1 + 1 = 257
    rw [base]
    rfl
  · rw [← result, ← returned.result]
    change _ = final.memory.read (memory.read 0 - 1)
    rw [base]

end StackLowering
