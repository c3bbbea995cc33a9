import StackLowering.Proofs.Labels.Room
import StackLowering.Proofs.Lowering.Listing
import StackLowering.Proofs.Labels.Uniqueness
import StackLowering.Proofs.Text.Tokens
import StackLowering.Proofs.Verdict

/-!
# Why commands are refused

`Command.faults` lists everything that keeps a command from having code on a
target, and `Command.clashes` what is wrong with the name that it declares.
`Lowering.lower_decided` says that lowering fails with the first entry of these
lists, or else for a lack of labels, which cannot happen while the supply has room.
-/

namespace StackLowering

/-- The segments among some that the target does not reach through a pointer, as faults. -/
def Target.pointerFaults (target : Target) (segments : List MappedSegment) : List Fault :=
  segments.filterMap fun segment =>
    match target.addressing segment with
    | .indirect _ => none
    | .fixed _ => some (.notAPointer (.mapped segment))

/-- What is wrong with an element of a segment at a constant address. -/
def Target.addressFaults (target : Target) (segment : MappedSegment) (index : Word) :
    List Fault :=
  match target.addressing segment with
  | .indirect _ => []
  | .fixed base =>
    if base.toNat + index.toNat ≤ 32767 then [] else [.addressOutOfRange (.mapped segment) index]

/-- What is wrong with a call that passes some arguments. -/
def Target.callFaults (target : Target) (arguments : Word) : List Fault :=
  target.pointerFaults [.locals, .argument, .this, .that] ++
    if arguments.toNat ≤ 32762 then [] else [.integerOutOfRange arguments.toNat 32762]

/-- What is wrong with startup code on a target. -/
def Target.startupFaults (target : Target) : List Fault :=
  (if target.bootstrap.stackBase.toNat ≤ 32767 then []
    else [.integerOutOfRange target.bootstrap.stackBase.toNat 32767]) ++
    target.pointerFaults [.locals, .argument, .this, .that]

/-- Everything that keeps a command from having code on a target, in the order in which it is
looked for. -/
def Command.faults (target : Target) : Command → List Fault
  | .push segment index =>
    match segment with
    | .mapped segment => target.addressFaults segment index
    | .constant | .static => []
  | .pop segment index =>
    match segment with
    | .mapped segment => target.addressFaults segment index
    | .constant => [.popConstant]
    | .static => []
  | .call _ arguments => target.callFaults arguments
  | .ret => target.pointerFaults [.locals, .argument, .that, .this]
  | .binary _ | .unary _ | .compare _ | .label _ | .goto _ | .ifGoto _ | .function .. => []

/-- What is wrong with the name that a command declares, if it declares any: the name is a cell of
the target, or has the form of a static variable of a unit. -/
def Command.clashes (target : Target) (units : List String) (command : Command) : List Fault :=
  match command.declared? with
  | none => []
  | some name =>
    if target.isReserved name || units.any (Location.isStaticSymbol name) then
      [.reservedSymbol name]
    else []

/-- An outcome is decided by some violations, and by a lack of labels after them. Labels are only
lacking in a supply that has no room for the demand. -/
def DecidedWithin {α : Type} (supply : LabelSupply) (demand : Nat) (outcome : Except Fault α)
    (violations : List Fault) : Prop :=
  ∃ lack, (∀ fault ∈ lack, fault = .labelsExhausted) ∧ (supply.HasRoom demand → lack = []) ∧
    DecidedBy outcome (violations ++ lack)

/-- What is decided without labels is decided whatever room there is for them. -/
theorem DecidedBy.within {α : Type} {outcome : Except Fault α} {violations : List Fault}
    (decided : DecidedBy outcome violations) (supply : LabelSupply) (demand : Nat) :
    DecidedWithin supply demand outcome violations :=
  ⟨[], by simp, fun _ => rfl, by rwa [List.append_nil]⟩

/-- A lack of labels counts only when what comes before it succeeds. -/
theorem DecidedBy.bindWithin {α β : Type} {supply : LabelSupply} {demand : Nat}
    {outcome : Except Fault α} {rest : α → Except Fault β} {violations later : List Fault}
    (decided : DecidedBy outcome violations)
    (next : ∀ value, outcome = .ok value → DecidedWithin supply demand (rest value) later) :
    DecidedWithin supply demand (outcome >>= rest) (violations ++ later) := by
  cases outcome with
  | ok value =>
    have none : violations = [] := decided
    rw [none, List.nil_append]
    exact next value rfl
  | error fault =>
    exact DecidedBy.within (decided.bind fun value impossible => by cases impossible) supply demand

namespace Context

/-- With room for a label the context makes one, and keeps room for the others. -/
theorem freshLabel_of_hasRoom {context : Context} {count : Nat}
    (room : context.labels.HasRoom (count + 1)) (purpose : String) :
    ∃ label after, context.freshLabel purpose = (.ok label, after) ∧
      after.labels.HasRoom count := by
  obtain ⟨label, labels, issued, left⟩ :=
    LabelSupply.issue_of_hasRoom room context.unit context.line purpose
  exact ⟨label, { context with labels := labels }, by rw [freshLabel, issued], left⟩

end Context

namespace Lowering

section Stages

variable (target : Target)

/-- The check of a declared name is decided by the clashes of its command. -/
theorem checkDeclaration_decided (command : Command) {name : String} (units : List String)
    (declared : command.declared? = some name) :
    DecidedBy (checkDeclaration target name units) (command.clashes target units) := by
  unfold checkDeclaration Command.clashes
  rw [declared]
  dsimp only
  split <;> rfl

/-- Finding a pointer is decided by the fault of its segment. -/
theorem pointerOf_decided (segment : MappedSegment) :
    DecidedBy (pointerOf target segment) (target.pointerFaults [segment]) := by
  unfold pointerOf Target.pointerFaults
  cases addressed : target.addressing segment <;> simp [addressed, DecidedBy]

/-- Finding the pointers for a call is decided by their faults, in the order of saving. -/
theorem callPointers_decided :
    DecidedBy (callPointers target)
      (target.pointerFaults [.locals, .argument, .this, .that]) := by
  have parts : target.pointerFaults [.locals, .argument, .this, .that] =
      target.pointerFaults [.locals] ++ (target.pointerFaults [.argument] ++
        (target.pointerFaults [.this] ++ (target.pointerFaults [.that] ++ []))) := by
    simp only [Target.pointerFaults, ← List.filterMap_append, List.append_nil]
    rfl
  rw [parts]
  exact (pointerOf_decided target _).bind fun _ _ => (pointerOf_decided target _).bind fun _ _ =>
    (pointerOf_decided target _).bind fun _ _ => (pointerOf_decided target _).bind fun _ _ => rfl

/-- Finding the pointers for a return is decided by their faults, in the order of restoring. -/
theorem returnPointers_decided :
    DecidedBy (returnPointers target)
      (target.pointerFaults [.locals, .argument, .that, .this]) := by
  have parts : target.pointerFaults [.locals, .argument, .that, .this] =
      target.pointerFaults [.locals] ++ (target.pointerFaults [.argument] ++
        (target.pointerFaults [.that] ++ (target.pointerFaults [.this] ++ []))) := by
    simp only [Target.pointerFaults, ← List.filterMap_append, List.append_nil]
    rfl
  rw [parts]
  exact (pointerOf_decided target _).bind fun _ _ => (pointerOf_decided target _).bind fun _ _ =>
    (pointerOf_decided target _).bind fun _ _ => (pointerOf_decided target _).bind fun _ _ => rfl

/-- The offset of arguments is decided by the bound at which it still is a literal. -/
theorem argumentOffset_decided (arguments : Word) :
    DecidedBy (argumentOffset arguments)
      (if arguments.toNat ≤ 32762 then []
        else [.integerOutOfRange arguments.toNat 32762]) := by
  unfold argumentOffset
  by_cases few : arguments.toNat ≤ 32762
  · rw [if_pos few, if_pos (by simp [Word.maxLiteral, frameSize]; omega)]
    rfl
  · rw [if_neg few, if_neg (by simp [Word.maxLiteral, frameSize]; omega)]
    rfl

/-- Only elements at constant addresses can be out of reach. -/
theorem resolve_decided (unit : String) (segment : MappedSegment) (index : Word) :
    DecidedBy (Location.resolve target unit (.mapped segment) index)
      (target.addressFaults segment index) := by
  unfold Location.resolve Target.addressFaults
  dsimp only
  cases addressed : target.addressing segment with
  | indirect pointer => rfl
  | fixed base =>
    dsimp only
    by_cases reachable : base.toNat + index.toNat ≤ 32767
    · rw [if_pos reachable, if_pos (by simpa [Word.maxLiteral] using reachable)]
      rfl
    · rw [if_neg reachable, if_neg (by simpa [Word.maxLiteral] using reachable)]
      rfl

/-- The code of a push is decided by the faults of the command. -/
theorem push_decided (unit : String) (segment : Segment) (index : Word) :
    DecidedBy (push target unit segment index)
      ((Command.push segment index).faults target) := by
  cases segment with
  | mapped segment =>
    rw [← List.append_nil (Command.faults _ _)]
    exact (resolve_decided target unit segment index).bind fun _ _ => rfl
  | constant => rfl
  | static => rfl

/-- The code of a pop is decided by the faults of the command. -/
theorem pop_decided (unit : String) (segment : Segment) (index : Word) :
    DecidedBy (pop target unit segment index)
      ((Command.pop segment index).faults target) := by
  cases segment with
  | mapped segment =>
    rw [← List.append_nil (Command.faults _ _)]
    refine (resolve_decided target unit segment index).bind fun location resolved => ?_
    cases Location.resolves_of_resolve resolved with
    | indirect addressed =>
      dsimp only
      split <;> rfl
    | fixed addressed reachable => rfl
  | constant => rfl
  | static => rfl

/-- A label is made, or the lack of labels is the only fault. -/
theorem withLabel_decided (demand : Nat) {context : Context} {purpose : String}
    {continuation : String → Context → Except Fault Block × Context}
    (next : ∀ label after, context.freshLabel purpose = (.ok label, after) →
      DecidedWithin after.labels demand (continuation label after).1 []) :
    DecidedWithin context.labels (demand + 1) (withLabel context purpose continuation).1 [] := by
  unfold withLabel
  cases fresh : context.freshLabel purpose with
  | mk outcome after =>
    cases outcome with
    | error fault =>
      have exhausted : fault = .labelsExhausted := by
        unfold Context.freshLabel at fresh
        split at fresh
        · cases fresh
        · cases fresh
          rfl
      refine ⟨[fault], by simpa using exhausted, fun room => ?_, rfl⟩
      obtain ⟨label, other, made, -⟩ := Context.freshLabel_of_hasRoom room purpose
      rw [fresh] at made
      cases made
    | ok label =>
      obtain ⟨lack, only, enough, decided⟩ := next label after fresh
      refine ⟨lack, only, fun room => enough ?_, decided⟩
      obtain ⟨other, middle, made, left⟩ := Context.freshLabel_of_hasRoom room purpose
      rw [fresh] at made
      cases made
      exact left

/-- A call looks up its pointers, then its offset, and takes its label last. -/
theorem lowerCall_decided (name : String) (arguments : Word) (context : Context) :
    DecidedWithin context.labels 1 (lowerCall target name arguments context).1
      (target.callFaults arguments) := by
  have stages : (lowerCall target name arguments context).1 = (do
      let pointers ← callPointers target
      let offset ← argumentOffset arguments
      (withLabel context "return" fun returnLabel context =>
        (.ok (call target pointers name offset returnLabel), context)).1) := by
    unfold lowerCall
    cases callPointers target with
    | error fault => rfl
    | ok pointers => cases argumentOffset arguments <;> rfl
  rw [stages, Target.callFaults]
  refine (callPointers_decided target).bindWithin fun pointers _ => ?_
  rw [← List.append_nil (ite _ _ _)]
  refine (argumentOffset_decided arguments).bindWithin fun offset _ => ?_
  exact withLabel_decided 0 fun label after _ => (DecidedBy.ok _).within _ _

/-- Startup code checks the stack base before it calls the entry function. -/
theorem lowerBootstrap_decided (context : Context) :
    DecidedWithin context.labels 1 (lowerBootstrap target context).1 target.startupFaults := by
  have called := lowerCall_decided target target.bootstrap.entry 0 context
  have plain : target.callFaults 0 = target.pointerFaults [.locals, .argument, .this, .that] := by
    simp [Target.callFaults]
  rw [plain] at called
  unfold lowerBootstrap Target.startupFaults
  dsimp only
  by_cases reachable : target.bootstrap.stackBase.toNat ≤ 32767
  · rw [if_pos reachable, if_pos (by simpa [Word.maxLiteral] using reachable), List.nil_append]
    obtain ⟨lack, only, enough, decided⟩ := called
    refine ⟨lack, only, enough, ?_⟩
    cases lowered : lowerCall target target.bootstrap.entry 0 context with
    | mk outcome after =>
      rw [lowered] at decided
      cases outcome <;> exact decided
  · rw [if_neg reachable, if_neg (by simpa [Word.maxLiteral] using reachable)]
    exact ⟨[], by simp, fun _ => rfl, rfl⟩

/-- A declaration is refused only for its name. -/
theorem lowerDeclaration_decided (command : Command) {name : String} {code : Block}
    {context : Context} (declared : command.declared? = some name) :
    DecidedBy (lowerDeclaration target name code context).1
      (command.clashes target [context.unit]) := by
  have checked := checkDeclaration_decided target command [context.unit] declared
  unfold lowerDeclaration
  cases allowed : checkDeclaration target name [context.unit] <;> rwa [allowed] at checked

/-- Lowering a command fails for its name or for the first of its faults, or else for a lack of
labels. -/
theorem lower_decided (command : Command) (context : Context) :
    DecidedWithin context.labels command.labelDemand (lower target command context).1
      (command.clashes target [context.unit] ++ command.faults target) := by
  cases command with
  | push segment index => exact (push_decided target context.unit segment index).within _ _
  | pop segment index => exact (pop_decided target context.unit segment index).within _ _
  | binary operator => exact (DecidedBy.ok _).within _ _
  | unary operator => exact (DecidedBy.ok _).within _ _
  | compare comparison =>
    exact withLabel_decided 1 fun label after _ =>
      withLabel_decided 0 fun label after _ => (DecidedBy.ok _).within _ _
  | label name =>
    have faultless : (Command.label name).faults target = [] := rfl
    rw [faultless, List.append_nil]
    exact (lowerDeclaration_decided target (.label name) rfl).within _ _
  | goto name => exact (DecidedBy.ok _).within _ _
  | ifGoto name => exact (DecidedBy.ok _).within _ _
  | function name locals =>
    have faultless : (Command.function name locals).faults target = [] := rfl
    rw [faultless, List.append_nil]
    exact (lowerDeclaration_decided target (.function name locals) rfl).within _ _
  | call name arguments => exact lowerCall_decided target name arguments context
  | ret => exact ((returnPointers_decided target).map (ret target)).within _ _

end Stages

/-! ## The room that is left -/

variable {target : Target}

/-- A label takes room for one. -/
theorem hasRoom_of_freshLabel {context after : Context} {purpose label : String} {count : Nat}
    (fresh : context.freshLabel purpose = (.ok label, after))
    (room : context.labels.HasRoom (count + 1)) : after.labels.HasRoom count := by
  obtain ⟨other, middle, made, left⟩ := Context.freshLabel_of_hasRoom room purpose
  rw [fresh] at made
  cases made
  exact left

/-- A call takes one label. -/
theorem freshLabel_of_lowerCall {name : String} {arguments : Word} {context after : Context}
    {block : Block} (lowered : lowerCall target name arguments context = (.ok block, after)) :
    ∃ label, context.freshLabel "return" = (.ok label, after) := by
  unfold lowerCall at lowered
  split at lowered
  · cases lowered
  · split at lowered
    · cases lowered
    · obtain ⟨label, middle, fresh, called⟩ := withLabel_eq_ok lowered
      cases called
      exact ⟨label, fresh⟩

/-- Startup code takes up the room of one label. -/
theorem hasRoom_of_lowerBootstrap {context after : Context} {block : Block} {count : Nat}
    (lowered : lowerBootstrap target context = (.ok block, after))
    (room : context.labels.HasRoom (count + 1)) : after.labels.HasRoom count := by
  unfold lowerBootstrap at lowered
  dsimp only at lowered
  split at lowered
  · split at lowered
    · cases lowered
    · rename_i code middle called
      cases lowered
      obtain ⟨label, fresh⟩ := freshLabel_of_lowerCall called
      exact hasRoom_of_freshLabel fresh room
  · cases lowered

/-- A declaration takes no room when its name is present already. -/
theorem hasRoom_of_lowerDeclaration {name : String} {code block : Block}
    {context after : Context} {count : Nat}
    (lowered : lowerDeclaration target name code context = (.ok block, after))
    (present : context.labels.contains name = true) (room : context.labels.HasRoom count) :
    after.labels.HasRoom count := by
  unfold lowerDeclaration at lowered
  split at lowered
  · cases lowered
  · cases lowered
    rwa [Context.declare, LabelSupply.declare_of_contains present]

/-- A command takes room for its labels, and none for a name that is present already. -/
theorem hasRoom_of_lower {command : Command} {context after : Context} {block : Block}
    {count : Nat} (lowered : lower target command context = (.ok block, after))
    (present : ∀ name, command.declared? = some name → context.labels.contains name = true)
    (room : context.labels.HasRoom (command.labelDemand + count)) :
    after.labels.HasRoom count := by
  cases command with
  | compare comparison =>
    obtain ⟨whenTrue, middle, freshTrue, rest⟩ := withLabel_eq_ok lowered
    obtain ⟨done, last, freshDone, compared⟩ := withLabel_eq_ok rest
    cases compared
    refine hasRoom_of_freshLabel freshDone (hasRoom_of_freshLabel freshTrue ?_)
    exact room.mono (by simp only [Command.labelDemand]; omega)
  | call name arguments =>
    obtain ⟨label, fresh⟩ := freshLabel_of_lowerCall lowered
    exact hasRoom_of_freshLabel fresh (room.mono (by simp only [Command.labelDemand]; omega))
  | label name =>
    exact hasRoom_of_lowerDeclaration lowered (present name rfl) (room.mono (Nat.le_add_left _ _))
  | function name locals =>
    exact hasRoom_of_lowerDeclaration lowered (present name rfl) (room.mono (Nat.le_add_left _ _))
  | push | pop | ret =>
    obtain ⟨-, rfl⟩ := Prod.mk.inj lowered
    exact room.mono (Nat.le_add_left _ _)
  | binary | unary | goto | ifGoto =>
    cases lowered
    exact room.mono (Nat.le_add_left _ _)

end Lowering

end StackLowering
