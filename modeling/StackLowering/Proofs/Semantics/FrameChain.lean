import StackLowering.Proofs.Semantics.Activity

/-!
# Chains of open frames

The invariant of an activity that has open frames. The frames form a chain: the
five cells that each call saved are intact, each frame saved the pointers of the
frame around it, and the stack is above all of them. This is `Active`, and it is
preserved by commands that neither call nor return (`Active.plain`), by calls
(`Active.call`) and by returns (`Active.ret`).
-/

namespace StackLowering

/-! ## Commands that neither call nor return -/

/-- What a command that neither calls nor returns leaves alone: the stack stays above a floor, and
below the floor only the cell changes to which it pops. -/
structure Plain (floor : Nat) (target : Option Word) (memory after : Memory) : Prop where
  inside : floor ≤ (after.read 0).toNat
  other : ∀ cell : Word, cell ≠ 0 → cell.toNat < floor → target ≠ some cell →
    after.read cell = memory.read cell

namespace Plain

variable {floor : Nat} {memory : Memory}

/-- Pushing stays above the floor. -/
theorem pushAll (values : List Word) (low : 0 < floor) (inside : floor ≤ (memory.read 0).toNat)
    (fits : (memory.read 0).toNat + values.length < 65536) :
    Plain floor none memory (memory.pushAll values) := by
  have pushed := Memory.pushed_pushAll values (by omega) fits
  refine ⟨by rw [pushed.pointer]; omega, fun cell other below _ => ?_⟩
  exact pushed.other cell other (Or.inl (by omega))

/-- Taking a value from above the floor. -/
theorem drop (top : floor < (memory.read 0).toNat) : Plain floor none memory memory.drop := by
  refine ⟨?_, fun cell other _ _ => Memory.read_drop_other _ other⟩
  rw [Memory.read_drop_zero, toNat_sub_one (by omega)]
  omega

/-- Storing the value taken in a cell that is not the stack pointer. -/
theorem pop (top : floor < (memory.read 0).toNat) {cell : Word} (other : cell ≠ 0)
    (value : Word) : Plain floor (some cell) memory (memory.drop.write cell value) := by
  have dropped := drop top
  refine ⟨?_, ?_⟩
  · rw [Memory.read_write_other _ _ other.symm]
    exact dropped.inside
  · intro kept nonzero below apart
    rw [Memory.read_write_other, Memory.read_drop_other _ nonzero]
    rintro rfl
    exact apart rfl

/-- Replacing the topmost value, which is above the floor. -/
theorem mapTop (top : floor < (memory.read 0).toNat) (low : 0 < floor)
    (operation : Word → Word) : Plain floor none memory (memory.mapTop operation) := by
  have located : (memory.read 0 - 1).toNat = (memory.read 0).toNat - 1 :=
    toNat_sub_one (by omega)
  have stays : ∀ cell : Word, cell.toNat < floor →
      (memory.mapTop operation).read cell = memory.read cell := by
    intro cell below
    refine Memory.read_write_other _ _ ?_
    rintro rfl
    omega
  refine ⟨?_, fun cell _ below _ => stays cell below⟩
  rw [stays 0 low]
  omega

/-- Replacing the two topmost values, which are above the floor. -/
theorem combine (top : floor + 1 < (memory.read 0).toNat) (low : 0 < floor)
    (operation : Word → Word → Word) : Plain floor none memory (memory.combine operation) := by
  have dropped : Plain floor none memory memory.drop := drop (by omega)
  have pointer : (memory.drop.read 0).toNat = (memory.read 0).toNat - 1 := by
    rw [Memory.read_drop_zero, toNat_sub_one (by omega)]
  have mapped : Plain floor none memory.drop (memory.combine operation) :=
    mapTop (by omega) low _
  refine ⟨mapped.inside, fun cell other below apart => ?_⟩
  rw [mapped.other cell other below apart, dropped.other cell other below apart]

end Plain

/-- A command that neither calls nor returns, and takes values from above the floor only, is
plain. -/
theorem plain_of_perform {statics : Word → Word} {following : Word} {command : Command}
    {memory after : Memory} {control : Control} {floor : Nat}
    (performed : command.perform statics following memory = some (after, control))
    (noCall : ∀ name arguments, command ≠ .call name arguments) (noReturn : command ≠ .ret)
    (low : 0 < floor) (taken : floor + command.popCount ≤ (memory.read 0).toNat)
    (fits : (memory.read 0).toNat + command.pushCount < 65536)
    (spares : ∀ cell, command.popTarget? statics memory = some cell → cell ≠ 0) :
    Plain floor (command.popTarget? statics memory) memory after := by
  have inside : floor ≤ (memory.read 0).toNat := by omega
  cases command with
  | push segment index =>
    have pushed : ∀ value, Plain floor none memory (memory.push value) := fun value =>
      Plain.pushAll [value] low inside fits
    simp only [Command.perform] at performed
    split at performed
    · cases performed
      exact pushed _
    · cases performed
      exact pushed _
  | pop segment index =>
    simp only [Command.perform] at performed
    split at performed
    · cases performed
    · rename_i cell found
      cases performed
      have target : (Command.pop segment index).popTarget? statics memory = some cell := found
      rw [target]
      exact .pop taken (spares cell target) _
  | binary operator =>
    cases performed
    exact .combine taken low _
  | unary operator =>
    cases performed
    exact .mapTop taken low _
  | compare comparison =>
    cases performed
    exact .combine taken low _
  | label name =>
    cases performed
    exact ⟨inside, fun _ _ _ _ => rfl⟩
  | goto name =>
    cases performed
    exact ⟨inside, fun _ _ _ _ => rfl⟩
  | ifGoto name =>
    cases performed
    exact .drop taken
  | function name locals =>
    cases performed
    rw [Memory.pushZeros_eq_pushAll]
    exact .pushAll _ low inside (by rw [List.length_replicate]; exact fits)
  | call name arguments => exact absurd rfl (noCall name arguments)
  | ret => exact absurd rfl noReturn

/-! ## Open frames -/

/-- An open frame: its first saved cell, its first argument, the position at which the caller goes
on, and the pointers of the caller. -/
structure Frame where
  start : Nat
  base : Nat
  resume : Nat
  locals : Word
  argument : Word
  this : Word
  that : Word

/-- The values that the call of a frame saved. -/
def Frame.saved (stack : StackProgram) (frame : Frame) : List Word :=
  [BitVec.ofNat 16 (stack.address frame.resume), frame.locals, frame.argument, frame.this,
    frame.that]

/-- The saved values are in the saved cells of a frame. -/
structure Frame.Intact (stack : StackProgram) (memory : Memory) (frame : Frame) : Prop where
  cells : ∀ (cell : Word) (index : Nat) (value : Word), cell.toNat = frame.start + index →
    (frame.saved stack)[index]? = some value → memory.read cell = value
  resumes : frame.resume ≤ stack.commands.length

/-- A frame stays intact as long as its saved cells are left alone. -/
theorem Frame.Intact.of_kept {stack : StackProgram} {memory after : Memory} {frame : Frame}
    (intact : frame.Intact stack memory)
    (kept : ∀ cell : Word, frame.start ≤ cell.toNat → cell.toNat < frame.start + 5 →
      after.read cell = memory.read cell) : frame.Intact stack after := by
  refine ⟨fun cell index value located found => ?_, intact.resumes⟩
  have few : index < 5 := (List.getElem?_eq_some_iff.mp found).1
  rw [kept cell (by omega) (by omega)]
  exact intact.cells cell index value located found

/-- The cells below the local pointer of a frame are the saved ones. -/
theorem Frame.Intact.read_saved {stack : StackProgram} {memory : Memory} {frame : Frame}
    (intact : frame.Intact stack memory) (locals : (memory.read 1).toNat = frame.start + 5)
    (index : Nat) {value distance : Word} (found : (frame.saved stack)[index]? = some value)
    (located : distance.toNat + index = 5) : memory.read (memory.read 1 - distance) = value := by
  refine intact.cells _ index value ?_ found
  have distant : (memory.read 1 - distance).toNat = (memory.read 1).toNat - distance.toNat :=
    BitVec.toNat_sub_of_le (show distance.toNat ≤ (memory.read 1).toNat by omega)
  omega

/-- A return goes on at the position that an intact frame saved. -/
theorem Frame.Intact.arrives_resume {stack : StackProgram} {memory : Memory} {frame : Frame}
    (intact : frame.Intact stack memory) (locals : (memory.read 1).toNat = frame.start + 5)
    {program : Program} (installed : stack.InstalledIn program) (position : Nat) :
    stack.Arrives position (.resume (memory.read (memory.read 1 - 5))) frame.resume := by
  have small := installed.small frame.resume intact.resumes
  unfold Word.maxLiteral at small
  refine ⟨intact.resumes, ?_⟩
  rw [intact.read_saved locals 0 rfl rfl, BitVec.toNat_ofNat]
  omega

/-- The frame that a call with some arguments opens. -/
def Frame.opened (memory : Memory) (arguments : Word) (resume : Nat) : Frame where
  start := (memory.read 0).toNat
  base := (memory.read 0).toNat - arguments.toNat
  resume := resume
  locals := memory.read 1
  argument := memory.read 2
  this := memory.read 3
  that := memory.read 4

/-- A call saves the values of the frame that it opens. -/
theorem Frame.intact_opened {stack : StackProgram} {memory after : Memory} {resume : Nat}
    {arguments : Word}
    (entered : memory.Entered (BitVec.ofNat 16 (stack.address resume)) arguments after)
    (resumes : resume ≤ stack.commands.length) :
    (Frame.opened memory arguments resume).Intact stack after :=
  ⟨fun cell index value located found => entered.saved cell index value located found, resumes⟩

/-- Frames on top of an outermost one: each saved the pointers of the next one, and has its
arguments above the cells that the next one saved. -/
inductive Linked (outermost : Frame) : Frame → List Frame → Prop where
  | last (low : 16 ≤ outermost.base) (ordered : outermost.base ≤ outermost.start) :
      Linked outermost outermost []
  | link {frame outer : Frame} {rest : List Frame}
      (locals : frame.locals.toNat = outer.start + 5)
      (argument : frame.argument.toNat = outer.base)
      (above : outer.start + 5 ≤ frame.base) (ordered : frame.base ≤ frame.start)
      (linked : Linked outermost outer rest) : Linked outermost frame (outer :: rest)

namespace Linked

variable {outermost frame : Frame} {rest : List Frame}

/-- The outermost frame has the lowest arguments. -/
theorem bounds (linked : Linked outermost frame rest) :
    16 ≤ outermost.base ∧ outermost.base ≤ frame.base ∧ frame.base ≤ frame.start := by
  induction linked with
  | last low ordered => exact ⟨low, Nat.le_refl _, ordered⟩
  | link _ _ above ordered _ inductionHypothesis => omega

/-- The frames below are below the arguments, and no frame reaches into the pointers. -/
theorem bounds_rest (linked : Linked outermost frame rest) :
    ∀ other ∈ rest, 16 ≤ other.start ∧ other.start + 5 ≤ frame.base := by
  induction linked with
  | last => simp
  | @link frame outer rest _ _ above ordered linked inductionHypothesis =>
    have bounds := linked.bounds
    intro other member
    rcases List.mem_cons.mp member with rfl | later
    · omega
    · have below := inductionHypothesis other later
      omega

/-- The saved cells of a frame are above the pointers and not above those of the first frame. -/
theorem saved_bounds (linked : Linked outermost frame rest) {other : Frame}
    (member : other ∈ frame :: rest) : 16 ≤ other.start ∧ other.start ≤ frame.start := by
  have bounds := linked.bounds
  rcases List.mem_cons.mp member with rfl | later
  · omega
  · have below := linked.bounds_rest other later
    omega

end Linked

/-- The invariant of an activity: the open frames are linked and intact, the pointers are those of
the last frame opened, the stack is above it, and the cells below the arguments of the outermost
frame have the values of the memory in which its call started, if no command popped to them. -/
structure Active (stack : StackProgram) (origin : Memory) (outermost : Frame)
    (popped : List Word) (memory : Memory) (top : Frame) (rest : List Frame) : Prop where
  linked : Linked outermost top rest
  intact : ∀ frame ∈ top :: rest, frame.Intact stack memory
  locals : (memory.read 1).toNat = top.start + 5
  argument : (memory.read 2).toNat = top.base
  inside : top.start + 5 ≤ (memory.read 0).toNat
  kept : ∀ cell : Word, 16 ≤ cell.toNat → cell.toNat < outermost.base → cell ∉ popped →
    memory.read cell = origin.read cell

namespace Active

variable {stack : StackProgram} {origin memory after : Memory} {outermost top : Frame}
  {popped : List Word} {rest : List Frame}

/-- The invariant does not depend on scratch cells. -/
theorem of_agrees (active : Active stack origin outermost popped after top rest)
    (agrees : memory.Agrees after) : Active stack origin outermost popped memory top rest where
  linked := active.linked
  intact := by
    intro frame member
    have bounds := active.linked.saved_bounds member
    refine (active.intact frame member).of_kept fun cell low _ => ?_
    exact agrees cell (not_mem_scratchCells (by omega))
  locals := by rw [agrees.locals, active.locals]
  argument := by rw [agrees.argument, active.argument]
  inside := by
    rw [agrees.stackPointer]
    exact active.inside
  kept := by
    intro cell low below apart
    rw [agrees cell (not_mem_scratchCells low)]
    exact active.kept cell low below apart

/-- Plain commands preserve the invariant. -/
theorem plain (active : Active stack origin outermost popped memory top rest)
    {target : Option Word} (plain : Plain (top.start + 5) target memory after)
    (spares : ∀ cell, target = some cell → cell ∉ ([0, 1, 2] : List Word) ∧
      ∀ frame ∈ top :: rest, cell.toNat < frame.start ∨ frame.start + 5 ≤ cell.toNat) :
    Active stack origin outermost (popped ++ target.toList) after top rest := by
  have bounds := active.linked.bounds
  have pointer : ∀ cell : Word, cell ∈ ([1, 2] : List Word) →
      after.read cell = memory.read cell := by
    intro cell member
    refine plain.other cell ?_ ?_ ?_
    · rintro rfl
      exact absurd member (by decide)
    · simp only [List.mem_cons, List.not_mem_nil, or_false] at member
      rcases member with rfl | rfl
      · change 1 < _
        omega
      · change 2 < _
        omega
    · intro popsHere
      exact (spares cell popsHere).1 (List.mem_cons_of_mem _ member)
  refine ⟨active.linked, ?_, ?_, ?_, plain.inside, ?_⟩
  · intro frame member
    have saved := active.linked.saved_bounds member
    refine (active.intact frame member).of_kept fun cell low high => plain.other cell ?_ ?_ ?_
    · rintro rfl
      change _ ≤ 0 at low
      omega
    · omega
    · intro popsHere
      have apart := (spares cell popsHere).2 frame member
      omega
  · rw [pointer 1 (by decide), active.locals]
  · rw [pointer 2 (by decide), active.argument]
  · intro cell low below apart
    rw [List.mem_append, not_or, Option.mem_toList] at apart
    rw [plain.other cell]
    · exact active.kept cell low below apart.1
    · rintro rfl
      exact absurd low (by decide)
    · omega
    · exact apart.2

/-- A call opens the outermost frame. -/
theorem opened {arguments : Word} {resume : Nat}
    (entered : origin.Entered (BitVec.ofNat 16 (stack.address resume)) arguments after)
    (resumes : resume ≤ stack.commands.length)
    (room : arguments.toNat + 16 ≤ (origin.read 0).toNat) :
    Active stack origin (Frame.opened origin arguments resume) [] after
      (Frame.opened origin arguments resume) [] where
  linked := by
    refine .last ?_ ?_
    · dsimp only [Frame.opened]
      omega
    · dsimp only [Frame.opened]
      omega
  intact := by
    intro frame member
    obtain rfl := List.mem_singleton.mp member
    exact Frame.intact_opened entered resumes
  locals := by rw [entered.locals, entered.pointer, Frame.opened]
  argument := by
    rw [entered.argument]
    exact BitVec.toNat_sub_of_le (show arguments.toNat ≤ (origin.read 0).toNat by omega)
  inside := by
    rw [entered.pointer]
    exact Nat.le_refl _
  kept := by
    intro cell low below _
    dsimp only [Frame.opened] at below
    exact entered.kept low (by omega)

/-- A call opens a frame on top of the others. -/
theorem call (active : Active stack origin outermost popped memory top rest)
    {arguments : Word} {resume : Nat}
    (entered : memory.Entered (BitVec.ofNat 16 (stack.address resume)) arguments after)
    (resumes : resume ≤ stack.commands.length)
    (taken : top.start + 5 + arguments.toNat ≤ (memory.read 0).toNat) :
    Active stack origin outermost popped after (Frame.opened memory arguments resume)
      (top :: rest) := by
  have bounds := active.linked.bounds
  have inside := active.inside
  have room : arguments.toNat + 16 ≤ (memory.read 0).toNat := by omega
  -- Seen from itself, the new frame is an outermost one.
  have inner := opened entered resumes room
  refine ⟨.link active.locals active.argument ?_ ?_ active.linked, ?_, inner.locals,
    inner.argument, inner.inside, ?_⟩
  · dsimp only [Frame.opened]
    omega
  · dsimp only [Frame.opened]
    omega
  · intro frame member
    rcases List.mem_cons.mp member with rfl | older
    · exact Frame.intact_opened entered resumes
    · have saved := active.linked.saved_bounds older
      refine (active.intact frame older).of_kept fun cell low high => ?_
      exact entered.kept (by omega) (by omega)
  · intro cell low below apart
    rw [entered.kept low (by omega)]
    exact active.kept cell low below apart

/-- The cells below the local pointer are the saved ones. -/
theorem read_saved (active : Active stack origin outermost popped memory top rest) (index : Nat)
    {value distance : Word} (found : (top.saved stack)[index]? = some value)
    (located : distance.toNat + index = 5) : memory.read (memory.read 1 - distance) = value :=
  (active.intact top List.mem_cons_self).read_saved active.locals index found located

/-- A return restores the frame around the one that it closes. -/
theorem ret {outer : Frame}
    (active : Active stack origin outermost popped memory top (outer :: rest))
    (left : memory.Left after) : Active stack origin outermost popped after outer rest := by
  cases active.linked with
  | link locals argument above ordered linked =>
    have bounds := linked.bounds
    have fits := (memory.read 1).isLt
    have base := active.argument
    have top := active.locals
    have kept : ∀ cell : Word, 16 ≤ cell.toNat → cell.toNat < outer.start + 5 →
        after.read cell = memory.read cell := by
      intro cell low below
      refine left.other cell (Memory.not_mem_pointers (by omega)) ?_
      rintro rfl
      omega
    refine ⟨linked, ?_, ?_, ?_, ?_, ?_⟩
    · intro frame member
      have intact := active.intact frame (List.mem_cons_of_mem _ member)
      have saved := linked.saved_bounds member
      exact intact.of_kept fun cell low high => kept cell (by omega) (by omega)
    · rw [left.locals, active.read_saved 1 rfl rfl, locals]
    · rw [left.argument, active.read_saved 2 rfl rfl, argument]
    · rw [left.pointer, BitVec.toNat_add]
      change _ ≤ ((memory.read 2).toNat + 1) % 65536
      omega
    · intro cell low below apart
      rw [kept cell low (by omega)]
      exact active.kept cell low below apart

/-- Below the stack pointer there is a cell that is not the stack pointer. -/
theorem below_ne_zero (active : Active stack origin outermost popped memory top rest) :
    memory.read 0 - 1 ≠ 0 := by
  have inside := active.inside
  intro zero
  have below := toNat_sub_one (show 0 < (memory.read 0).toNat by omega)
  rw [zero] at below
  change 0 = _ at below
  omega

/-- A return can restore the frame of the caller. -/
theorem left (active : Active stack origin outermost popped memory top rest) :
    memory.Left memory.leave := by
  have bounds := active.linked.bounds
  have locals := active.locals
  have argument := active.argument
  exact Memory.left_leave active.below_ne_zero (by omega) (by omega)

/-- A return goes on at the position that the last frame saved. -/
theorem arrives_resume (active : Active stack origin outermost popped memory top rest)
    {program : Program} (installed : stack.InstalledIn program) (position : Nat) :
    stack.Arrives position (.resume (memory.read (memory.read 1 - 5))) top.resume :=
  (active.intact top List.mem_cons_self).arrives_resume active.locals installed position

end Active

end StackLowering
