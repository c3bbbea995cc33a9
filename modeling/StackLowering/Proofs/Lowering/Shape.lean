import StackLowering.Lowering.Code
import StackLowering.Proofs.Labels.Supply
import StackLowering.Proofs.Sequencing
import Mathlib.Tactic.Tauto

/-!
# The shape of lowered code

`Lowers` lists, one constructor for each shape of code, every block that a
command can become, together with the labels that were issued for it.
`lowers_of_lower` says that lowering produces nothing else, and what it does to
the labels of the context; later modules take commands apart with `Lowers` and
do not open the lowering functions.
-/

namespace StackLowering

/-- Two blocks declare the labels that each of them declares. -/
@[simp] theorem Block.labels_append (first second : Block) :
    Block.labels (first ++ second) = Block.labels first ++ Block.labels second :=
  List.filterMap_append

/-- Blocks one behind the other declare the labels of each. -/
@[simp] theorem Block.labels_flatten (blocks : List Block) :
    Block.labels blocks.flatten = blocks.flatMap Block.labels := by
  induction blocks with
  | nil => rfl
  | cons block rest inductionHypothesis =>
    rw [List.flatten_cons, Block.labels_append, inductionHypothesis, List.flatMap_cons]

/-- The locations to which the elements of each segment can resolve in a unit. -/
inductive Location.Resolves (target : Target) (unit : String) :
    Segment → Word → Location → Prop where
  | constant {index : Word} : Resolves target unit .constant index (.literal index)
  | static {index : Word} :
      Resolves target unit .static index (.symbol (Location.staticSymbol unit index))
  | indirect {segment : MappedSegment} {index : Word} {pointer : String}
      (addressed : target.addressing segment = .indirect pointer) :
      Resolves target unit (.mapped segment) index (.indirect pointer index)
  | fixed {segment : MappedSegment} {index base : Word}
      (addressed : target.addressing segment = .fixed base)
      (reachable : base.toNat + index.toNat ≤ Word.maxLiteral) :
      Resolves target unit (.mapped segment) index (.absolute (base + index))

/-- A location that an element resolves to is of the form that its segment has. -/
theorem Location.resolves_of_resolve {target : Target} {unit : String} {segment : Segment}
    {index : Word} {location : Location}
    (resolved : Location.resolve target unit segment index = .ok location) :
    Location.Resolves target unit segment index location := by
  cases segment with
  | constant =>
    cases resolved
    exact .constant
  | static =>
    cases resolved
    exact .static
  | mapped segment =>
    simp only [Location.resolve] at resolved
    split at resolved
    · rename_i pointer addressed
      cases resolved
      exact .indirect addressed
    · rename_i base addressed
      split at resolved
      · rename_i reachable
        cases resolved
        exact .fixed addressed reachable
      · cases resolved

namespace Lowering

open Instruction (assign)

/-- The calling convention reaches a segment only through a pointer. -/
theorem addressing_of_pointerOf {target : Target} {segment : MappedSegment} {pointer : String}
    (found : pointerOf target segment = .ok pointer) :
    target.addressing segment = .indirect pointer := by
  unfold pointerOf at found
  split at found
  · rename_i name addressed
    cases found
    exact addressed
  · cases found

/-- The segments of the four pointers of a frame. -/
structure FramePointers.Address (target : Target) (pointers : FramePointers) : Prop where
  locals : target.addressing .locals = .indirect pointers.locals
  argument : target.addressing .argument = .indirect pointers.argument
  this : target.addressing .this = .indirect pointers.this
  that : target.addressing .that = .indirect pointers.that

/-- The pointers that a call saves are those through which the segments are addressed. -/
theorem address_of_callPointers {target : Target} {pointers : FramePointers}
    (saved : callPointers target = .ok pointers) : pointers.Address target := by
  obtain ⟨locals, localsFound, rest⟩ := exists_of_bind_eq_ok saved
  obtain ⟨argument, argumentFound, rest⟩ := exists_of_bind_eq_ok rest
  obtain ⟨this, thisFound, rest⟩ := exists_of_bind_eq_ok rest
  obtain ⟨that, thatFound, rest⟩ := exists_of_bind_eq_ok rest
  cases rest
  exact ⟨addressing_of_pointerOf localsFound, addressing_of_pointerOf argumentFound,
    addressing_of_pointerOf thisFound, addressing_of_pointerOf thatFound⟩

/-- The pointers that a return restores are those through which the segments are addressed. -/
theorem address_of_returnPointers {target : Target} {pointers : FramePointers}
    (restored : returnPointers target = .ok pointers) : pointers.Address target := by
  obtain ⟨locals, localsFound, rest⟩ := exists_of_bind_eq_ok restored
  obtain ⟨argument, argumentFound, rest⟩ := exists_of_bind_eq_ok rest
  obtain ⟨that, thatFound, rest⟩ := exists_of_bind_eq_ok rest
  obtain ⟨this, thisFound, rest⟩ := exists_of_bind_eq_ok rest
  cases rest
  exact ⟨addressing_of_pointerOf localsFound, addressing_of_pointerOf argumentFound,
    addressing_of_pointerOf thisFound, addressing_of_pointerOf thatFound⟩

/-- The code that a call becomes, and the label of its return address. -/
inductive Calls (target : Target) (unit : String) (line : Nat) (name : String)
    (arguments : Word) : String → Block → Prop where
  | code {pointers : FramePointers} {offset : Word} {returnLabel : String}
      (saved : pointers.Address target)
      (reach : argumentOffset arguments = .ok offset)
      (spelled : Spelled unit line "return" returnLabel) :
      Calls target unit line name arguments returnLabel
        (call target pointers name offset returnLabel)

/-- The blocks that a command can become in a line of a unit, with the labels issued for them. -/
inductive Lowers (target : Target) (unit : String) (line : Nat) :
    Command → List String → Block → Prop where
  | push {segment : Segment} {index : Word} {location : Location}
      (resolves : Location.Resolves target unit segment index location) :
      Lowers target unit line (.push segment index) [] (fetch location ++ pushData target)
  | popFirst {segment : Segment} {index : Word} {pointer : String}
      (resolves : Location.Resolves target unit segment index (.indirect pointer 0)) :
      Lowers target unit line (.pop segment index) []
        (popData target ++ [.symbol pointer, assign "A" "M", assign "M" "D"])
  | popLater {segment : Segment} {index : Word} {pointer : String} {distance : Word}
      (resolves : Location.Resolves target unit segment index (.indirect pointer distance))
      (later : distance ≠ 0) :
      Lowers target unit line (.pop segment index) []
        ([.symbol pointer, assign "D" "M", .literal distance, assign "D" "D+A",
            .symbol target.scratch.frame, assign "M" "D"] ++
          popData target ++ [.symbol target.scratch.frame, assign "A" "M", assign "M" "D"])
  | popAbsolute {segment : Segment} {index address : Word}
      (resolves : Location.Resolves target unit segment index (.absolute address)) :
      Lowers target unit line (.pop segment index) []
        (popData target ++ [.literal address, assign "M" "D"])
  | popSymbol {segment : Segment} {index : Word} {name : String}
      (resolves : Location.Resolves target unit segment index (.symbol name)) :
      Lowers target unit line (.pop segment index) []
        (popData target ++ [.symbol name, assign "M" "D"])
  | binary {operator : BinaryOperator} :
      Lowers target unit line (.binary operator) [] (binary target operator)
  | unary {operator : UnaryOperator} :
      Lowers target unit line (.unary operator) [] (unary target operator)
  | compare {comparison : Comparison} {whenTrue done : String}
      (trueSpelled : Spelled unit line comparison.name whenTrue)
      (doneSpelled : Spelled unit line ("not" ++ comparison.name) done) :
      Lowers target unit line (.compare comparison) [whenTrue, done]
        (compare target comparison whenTrue done)
  | label {name : String} : Lowers target unit line (.label name) [] [.label name]
  | goto {name : String} : Lowers target unit line (.goto name) [] (goto name)
  | ifGoto {name : String} : Lowers target unit line (.ifGoto name) [] (ifGoto target name)
  | function {name : String} {locals : Word} :
      Lowers target unit line (.function name locals) [] (function target name locals)
  | call {name : String} {arguments : Word} {returnLabel : String} {block : Block}
      (calls : Calls target unit line name arguments returnLabel block) :
      Lowers target unit line (.call name arguments) [returnLabel] block
  | ret {pointers : FramePointers} (restored : pointers.Address target) :
      Lowers target unit line .ret [] (ret target pointers)

/-- What lowering does to the labels of a context: the issued labels are new and distinct, and
exactly the labels of the block are added. -/
structure Adds (before : Context) (issued : List String) (block : Block) (after : Context) :
    Prop where
  absent : ∀ label ∈ issued, before.labels.contains label = false
  distinct : issued.Nodup
  present : ∀ label, after.labels.contains label = true ↔
    label ∈ Block.labels block ∨ before.labels.contains label = true

/-- Code without labels adds none. -/
theorem Adds.none {context : Context} {block : Block} (unlabelled : Block.labels block = []) :
    Adds context [] block context where
  absent := by simp
  distinct := List.nodup_nil
  present := by simp [unlabelled]

section Labels

variable (target : Target)

/-- Pushing declares no label. -/
@[simp] theorem labels_pushData : Block.labels (pushData target) = [] := rfl

/-- Popping declares no label. -/
@[simp] theorem labels_popData : Block.labels (popData target) = [] := rfl

/-- Fetching a value declares no label. -/
@[simp] theorem labels_fetch (location : Location) : Block.labels (fetch location) = [] := by
  cases location with
  | indirect pointer index =>
    simp only [fetch]
    split <;> rfl
  | _ => rfl

/-- A comparison declares the labels of its two outcomes. -/
@[simp] theorem labels_compare (comparison : Comparison) (whenTrue done : String) :
    Block.labels (compare target comparison whenTrue done) = [whenTrue, done] := rfl

/-- The code of a function declares its name, whatever the number of locals. -/
@[simp] theorem labels_function (name : String) (locals : Word) :
    Block.labels (function target name locals) = [name] := by
  have zeros : ∀ count, Block.labels (List.replicate count (pushZero target)).flatten = [] := by
    intro count
    induction count with
    | zero => rfl
    | succ count inductionHypothesis =>
      rw [List.replicate_succ, List.flatten_cons, Block.labels_append, inductionHypothesis]
      rfl
  show name :: Block.labels (List.replicate locals.toNat (pushZero target)).flatten = [name]
  rw [zeros]

/-- A call declares the label that it returns to. -/
@[simp] theorem labels_call (pointers : FramePointers) (name : String) (offset : Word)
    (returnLabel : String) :
    Block.labels (call target pointers name offset returnLabel) = [returnLabel] := rfl

/-- Initializing the stack declares no label. -/
@[simp] theorem labels_initializeStack : Block.labels (initializeStack target) = [] := rfl

end Labels

/-- The labels of a block are the one that its command declares, if any, and the issued ones. -/
theorem Lowers.labels {target : Target} {unit : String} {line : Nat} {command : Command}
    {issued : List String} {block : Block} (lowers : Lowers target unit line command issued block) :
    Block.labels block = command.declared?.toList ++ issued := by
  cases lowers with
  | push resolves => simp [Command.declared?]
  | function => simp [Command.declared?]
  | call calls =>
    cases calls
    simp [Command.declared?]
  | _ => rfl

/-- A label taken for a purpose is spelled for it and new, and it is the only one added. -/
theorem withLabel_eq_ok {before after : Context} {purpose : String}
    {continuation : String → Context → Except Fault Block × Context} {block : Block}
    (lowered : withLabel before purpose continuation = (.ok block, after)) :
    ∃ label middle, before.freshLabel purpose = (.ok label, middle) ∧
      continuation label middle = (.ok block, after) := by
  unfold withLabel at lowered
  split at lowered
  · cases lowered
  · rename_i label middle fresh
    exact ⟨label, middle, fresh, lowered⟩

/-- A lowered call has the code of a call, with a new label for its return address. -/
theorem calls_of_lowerCall {target : Target} {name : String} {arguments : Word}
    {before after : Context} {block : Block}
    (lowered : lowerCall target name arguments before = (.ok block, after)) :
    ∃ returnLabel, Calls target before.unit before.line name arguments returnLabel block ∧
      Adds before [returnLabel] block after := by
  unfold lowerCall at lowered
  split at lowered
  · cases lowered
  · rename_i pointers saved
    split at lowered
    · cases lowered
    · rename_i offset reach
      obtain ⟨returnLabel, middle, fresh, called⟩ := withLabel_eq_ok lowered
      cases called
      obtain ⟨spelled, absent, present, -, -⟩ := Context.freshLabel_eq_ok fresh
      refine ⟨returnLabel, .code (address_of_callPointers saved) reach spelled, ?_, by simp, ?_⟩
      · simpa using absent
      · simpa using present

/-- A declaration is allowed in its unit, and its name becomes present. -/
theorem lowerDeclaration_eq_ok {target : Target} {name : String} {code block : Block}
    {before after : Context} (labels : Block.labels code = [name])
    (lowered : lowerDeclaration target name code before = (.ok block, after)) :
    block = code ∧ Adds before [] block after := by
  unfold lowerDeclaration at lowered
  split at lowered
  · cases lowered
  · cases lowered
    refine ⟨rfl, by simp, List.nodup_nil, ?_⟩
    simp [labels]

/-- A lowered pop has one of the four shapes of code for a pop. -/
theorem lowers_of_pop {target : Target} {unit : String} {line : Nat} {segment : Segment}
    {index : Word} {block : Block} (popped : pop target unit segment index = .ok block) :
    Lowers target unit line (.pop segment index) [] block := by
  obtain ⟨location, resolved, stored⟩ := exists_of_bind_eq_ok popped
  have resolves := Location.resolves_of_resolve resolved
  cases location with
  | literal value => cases stored
  | indirect pointer distance =>
    by_cases first : distance = 0
    · subst first
      cases stored
      exact .popFirst resolves
    · simp only [first, if_false] at stored
      cases stored
      exact .popLater resolves first
  | absolute address =>
    cases stored
    exact .popAbsolute resolves
  | symbol name =>
    cases stored
    exact .popSymbol resolves

/-- Lowering a command gives one of the blocks of `Lowers`, and adds exactly its labels. -/
theorem lowers_of_lower {target : Target} {command : Command} {before after : Context}
    {block : Block} (lowered : lower target command before = (.ok block, after)) :
    ∃ issued, Lowers target before.unit before.line command issued block ∧
      Adds before issued block after := by
  cases command with
  | push segment index =>
    obtain ⟨pushed, rfl⟩ := Prod.mk.inj lowered
    obtain ⟨location, resolved, fetched⟩ := exists_of_bind_eq_ok pushed
    cases fetched
    exact ⟨[], .push (Location.resolves_of_resolve resolved), .none (by simp)⟩
  | pop segment index =>
    obtain ⟨popped, rfl⟩ := Prod.mk.inj lowered
    have lowers : Lowers target before.unit before.line (.pop segment index) [] block :=
      lowers_of_pop popped
    exact ⟨[], lowers, .none (by rw [lowers.labels]; rfl)⟩
  | binary operator =>
    cases lowered
    exact ⟨[], .binary, .none rfl⟩
  | unary operator =>
    cases lowered
    exact ⟨[], .unary, .none rfl⟩
  | compare comparison =>
    obtain ⟨whenTrue, middle, freshTrue, rest⟩ := withLabel_eq_ok lowered
    obtain ⟨done, last, freshDone, compared⟩ := withLabel_eq_ok rest
    cases compared
    obtain ⟨trueSpelled, trueAbsent, middlePresent, sameUnit, sameLine⟩ :=
      Context.freshLabel_eq_ok freshTrue
    obtain ⟨doneSpelled, doneAbsent, lastPresent, -, -⟩ := Context.freshLabel_eq_ok freshDone
    rw [sameUnit, sameLine] at doneSpelled
    -- The second label avoids the first because the first is present by then.
    have doneNew : done ≠ whenTrue ∧ before.labels.contains done = false := by
      have absent := middlePresent done
      rw [doneAbsent] at absent
      simpa using absent
    refine ⟨[whenTrue, done], .compare trueSpelled doneSpelled, ?_, ?_, ?_⟩
    · simp [trueAbsent, doneNew.2]
    · simp [doneNew.1.symm]
    · intro label
      rw [lastPresent, middlePresent, labels_compare]
      simp only [List.mem_cons, List.not_mem_nil, or_false]
      tauto
  | label name =>
    obtain ⟨rfl, adds⟩ := lowerDeclaration_eq_ok rfl lowered
    exact ⟨[], .label, adds⟩
  | goto name =>
    cases lowered
    exact ⟨[], .goto, .none rfl⟩
  | ifGoto name =>
    cases lowered
    exact ⟨[], .ifGoto, .none rfl⟩
  | function name locals =>
    obtain ⟨rfl, adds⟩ := lowerDeclaration_eq_ok (labels_function target name locals) lowered
    exact ⟨[], .function, adds⟩
  | call name arguments =>
    obtain ⟨returnLabel, calls, adds⟩ := calls_of_lowerCall lowered
    exact ⟨[returnLabel], .call calls, adds⟩
  | ret =>
    obtain ⟨returned, rfl⟩ := Prod.mk.inj lowered
    cases restored : returnPointers target with
    | error fault =>
      rw [restored] at returned
      cases returned
    | ok pointers =>
      rw [restored] at returned
      cases returned
      exact ⟨[], .ret (address_of_returnPointers restored), .none rfl⟩

/-- Startup code sets the stack pointer and calls the entry function. -/
theorem calls_of_lowerBootstrap {target : Target} {before after : Context} {block : Block}
    (lowered : lowerBootstrap target before = (.ok block, after)) :
    ∃ returnLabel code,
      Calls target before.unit before.line target.bootstrap.entry 0 returnLabel code ∧
        block = initializeStack target ++ code ∧ Adds before [returnLabel] block after := by
  unfold lowerBootstrap at lowered
  dsimp only at lowered
  split at lowered
  · split at lowered
    · cases lowered
    · rename_i code middle called
      cases lowered
      obtain ⟨returnLabel, calls, adds⟩ := calls_of_lowerCall called
      refine ⟨returnLabel, code, calls, rfl, adds.absent, adds.distinct, ?_⟩
      simpa using adds.present
  · cases lowered

end Lowering

end StackLowering
