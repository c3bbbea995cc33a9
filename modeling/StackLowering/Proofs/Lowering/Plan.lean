import StackLowering.Proofs.Lowering.Shape
import Mathlib.Data.List.Basic

/-!
# Plans of code

Commands differ in their code, but they ask little of a context: some declare a
name, others take labels for a few purposes, and most do neither. A plan is all
that lowering settles before it turns to the context. `lower_eq_follow` and
`lowerBootstrap_eq_follow` say that lowering follows the plan of its command, so
what holds of every plan, whatever the context, holds of every command.
-/

namespace StackLowering

namespace Context

/-- Makes a label for each of some purposes, in order. -/
def freshLabels (context : Context) : List String → Except Fault (List String) × Context
  | [] => (.ok [], context)
  | purpose :: rest =>
    match context.freshLabel purpose with
    | (.error fault, context) => (.error fault, context)
    | (.ok label, context) =>
      match context.freshLabels rest with
      | (.error fault, context) => (.error fault, context)
      | (.ok labels, context) => (.ok (label :: labels), context)

/-- Labels are made one after the other. -/
theorem freshLabels_cons_eq_ok {context after : Context} {purpose : String}
    {rest labels : List String}
    (fresh : context.freshLabels (purpose :: rest) = (.ok labels, after)) :
    ∃ label middle others, context.freshLabel purpose = (.ok label, middle) ∧
      middle.freshLabels rest = (.ok others, after) ∧ labels = label :: others := by
  unfold freshLabels at fresh
  split at fresh
  · cases fresh
  · rename_i label middle first
    split at fresh
    · cases fresh
    · rename_i others last later
      cases fresh
      exact ⟨label, middle, others, first, later, rfl⟩

/-- There is one label for each purpose. -/
theorem length_freshLabels {context after : Context} {purposes labels : List String}
    (fresh : context.freshLabels purposes = (.ok labels, after)) :
    labels.length = purposes.length := by
  induction purposes generalizing context labels with
  | nil =>
    cases fresh
    rfl
  | cons purpose rest inductionHypothesis =>
    obtain ⟨label, middle, others, -, later, rfl⟩ := freshLabels_cons_eq_ok fresh
    rw [List.length_cons, List.length_cons, inductionHypothesis later]

end Context

/-- What lowering does with a context: it declares a name for its code, or it takes labels for some
purposes, of which there may be none, and makes its code of them. -/
inductive Plan where
  | declaring (name : String) (block : Block)
  | labelled (purposes : List String) (code : List String → Block)

namespace Plan

/-- A plan without labels. -/
def ofBlock (block : Block) : Plan := .labelled [] fun _ => block

/-- The name that a plan declares. -/
def declared? : Plan → Option String
  | .declaring name _ => some name
  | .labelled .. => none

/-- Whether the labels of a plan's code are those that it declares or takes. -/
def IsSound : Plan → Prop
  | .declaring name block => Block.labels block = [name]
  | .labelled purposes code => ∀ labels, labels.length = purposes.length →
    Block.labels (code labels) = labels

/-- Carries out a plan. -/
def carryOut (context : Context) : Plan → Except Fault Block × Context
  | .declaring name block => (.ok block, context.declare name)
  | .labelled purposes code =>
    match context.freshLabels purposes with
    | (.error fault, after) => (.error fault, after)
    | (.ok labels, after) => (.ok (code labels), after)

/-- Carries out a plan, if planning has not failed. -/
def follow (context : Context) : Except Fault Plan → Except Fault Block × Context
  | .error fault => (.error fault, context)
  | .ok plan => plan.carryOut context

/-- A plan takes its labels one after the other. -/
theorem carryOut_labelled_cons (context : Context) (purpose : String) (rest : List String)
    (code : List String → Block) :
    carryOut context (.labelled (purpose :: rest) code) =
      Lowering.withLabel context purpose fun label middle =>
        carryOut middle (.labelled rest fun labels => code (label :: labels)) := by
  simp only [carryOut, Context.freshLabels, Lowering.withLabel]
  cases context.freshLabel purpose with
  | mk outcome middle =>
    cases outcome with
    | error fault => rfl
    | ok label =>
      dsimp only
      cases middle.freshLabels rest with
      | mk others after => cases others <;> rfl

/-- A plan that is only a block is followed without a change of the context. -/
theorem follow_map_ofBlock (context : Context) (outcome : Except Fault Block) :
    follow context (outcome.map ofBlock) = (outcome, context) := by
  cases outcome <;> rfl

end Plan

namespace Lowering

/-- The plan of a declaration, in a unit that allows it. -/
def declarationPlan (target : Target) (unit name : String) (block : Block) :
    Except Fault Plan := do
  checkDeclaration target name [unit]
  return .declaring name block

/-- The plan of a call. -/
def callPlan (target : Target) (name : String) (arguments : Word) : Except Fault Plan := do
  let pointers ← callPointers target
  let offset ← argumentOffset arguments
  return .labelled ["return"] fun labels =>
    call target pointers name offset (labels.getD 0 "")

/-- The plan of a command in a unit. -/
def plan (target : Target) (unit : String) : Command → Except Fault Plan
  | .push segment index => (push target unit segment index).map .ofBlock
  | .pop segment index => (pop target unit segment index).map .ofBlock
  | .binary operator => .ok (.ofBlock (binary target operator))
  | .unary operator => .ok (.ofBlock (unary target operator))
  | .compare comparison =>
    .ok (.labelled [comparison.name, "not" ++ comparison.name] fun labels =>
      compare target comparison (labels.getD 0 "") (labels.getD 1 ""))
  | .label name => declarationPlan target unit name [.label name]
  | .goto name => .ok (.ofBlock (goto name))
  | .ifGoto name => .ok (.ofBlock (ifGoto target name))
  | .function name locals => declarationPlan target unit name (function target name locals)
  | .call name arguments => callPlan target name arguments
  | .ret => (returnPointers target).map fun pointers => .ofBlock (ret target pointers)

/-- The plan of startup code. -/
def startupPlan (target : Target) : Except Fault Plan :=
  if target.bootstrap.stackBase.toNat ≤ Word.maxLiteral then do
    let pointers ← callPointers target
    let offset ← argumentOffset 0
    return .labelled ["return"] fun labels =>
      initializeStack target ++
        call target pointers target.bootstrap.entry offset (labels.getD 0 "")
  else .error (.integerOutOfRange target.bootstrap.stackBase.toNat Word.maxLiteral)

section Following

variable (target : Target)

/-- Declarations are lowered by following their plan. -/
theorem lowerDeclaration_eq_follow (name : String) (block : Block) (context : Context) :
    lowerDeclaration target name block context =
      Plan.follow context (declarationPlan target context.unit name block) := by
  unfold lowerDeclaration declarationPlan
  cases checkDeclaration target name [context.unit] <;> rfl

/-- Calls are lowered by following their plan. -/
theorem lowerCall_eq_follow (name : String) (arguments : Word) (context : Context) :
    lowerCall target name arguments context =
      Plan.follow context (callPlan target name arguments) := by
  unfold lowerCall callPlan
  cases callPointers target with
  | error fault => rfl
  | ok pointers =>
    cases argumentOffset arguments with
    | error fault => rfl
    | ok offset =>
      show withLabel context "return" _ = Plan.carryOut context (.labelled ["return"] _)
      rw [Plan.carryOut_labelled_cons]
      rfl

/-- Lowering a command follows its plan. -/
theorem lower_eq_follow (command : Command) (context : Context) :
    lower target command context =
      Plan.follow context (plan target context.unit command) := by
  cases command with
  | push segment index => exact (Plan.follow_map_ofBlock ..).symm
  | pop segment index => exact (Plan.follow_map_ofBlock ..).symm
  | compare comparison =>
    show withLabel context comparison.name _ = Plan.carryOut context (.labelled [_, _] _)
    simp only [Plan.carryOut_labelled_cons]
    rfl
  | label name => exact lowerDeclaration_eq_follow target name _ context
  | function name locals => exact lowerDeclaration_eq_follow target name _ context
  | call name arguments => exact lowerCall_eq_follow target name arguments context
  | ret =>
    show ((returnPointers target).map (ret target), context) = Plan.follow context
      ((returnPointers target).map fun pointers => .ofBlock (ret target pointers))
    cases returnPointers target <;> rfl
  | binary | unary | goto | ifGoto => rfl

/-- Startup code follows its plan. -/
theorem lowerBootstrap_eq_follow (context : Context) :
    lowerBootstrap target context = Plan.follow context (startupPlan target) := by
  unfold lowerBootstrap startupPlan
  dsimp only
  split
  · rw [lowerCall_eq_follow, callPlan]
    cases callPointers target with
    | error fault => rfl
    | ok pointers =>
      cases argumentOffset 0 with
      | error fault => rfl
      | ok offset =>
        simp only [bind, Except.bind, pure, Except.pure, Plan.follow, Plan.carryOut]
        cases context.freshLabels ["return"] with
        | mk outcome after => cases outcome <;> rfl
  · rfl

variable {target}

/-- The plan of a declaration declares its name and accounts for all labels of its block. -/
theorem labels_of_declarationPlan {unit name : String} {block : Block} {plan : Plan}
    (labels : Block.labels block = [name])
    (planned : declarationPlan target unit name block = .ok plan) :
    plan.declared? = some name ∧ plan.IsSound := by
  obtain ⟨-, -, made⟩ := exists_of_bind_eq_ok planned
  cases made
  exact ⟨rfl, labels⟩

/-- A plan of a block without labels is sound. -/
theorem isSound_ofBlock {block : Block} (unlabelled : Block.labels block = []) :
    (Plan.ofBlock block).IsSound := by
  intro labels empty
  rw [List.length_eq_zero_iff.mp empty, unlabelled]

/-- Plans of blocks without labels declare nothing and are sound. -/
theorem labels_of_map_ofBlock {outcome : Except Fault Block} {plan : Plan}
    (unlabelled : ∀ block, outcome = .ok block → Block.labels block = [])
    (planned : outcome.map .ofBlock = .ok plan) : plan.declared? = none ∧ plan.IsSound := by
  cases outcome with
  | error fault => cases planned
  | ok block =>
    cases planned
    exact ⟨rfl, isSound_ofBlock (unlabelled block rfl)⟩

/-- The plan of a command declares what the command declares, and its code has the labels that it
should. -/
theorem isSound_of_plan {unit : String} {command : Command} {made : Plan}
    (planned : plan target unit command = .ok made) :
    made.declared? = command.declared? ∧ made.IsSound := by
  cases command with
  | push segment index =>
    refine labels_of_map_ofBlock (fun block pushed => ?_) planned
    obtain ⟨location, -, fetched⟩ := exists_of_bind_eq_ok pushed
    cases fetched
    simp
  | pop segment index =>
    refine labels_of_map_ofBlock (fun block popped => ?_) planned
    have lowers : Lowers target unit 0 (.pop segment index) [] block := lowers_of_pop popped
    exact lowers.labels
  | compare comparison =>
    cases planned
    refine ⟨rfl, fun labels pair => ?_⟩
    obtain ⟨whenTrue, done, rfl⟩ := List.length_eq_two.mp pair
    rfl
  | label name => exact labels_of_declarationPlan rfl planned
  | function name locals => exact labels_of_declarationPlan (labels_function ..) planned
  | call name arguments =>
    obtain ⟨pointers, -, planned⟩ := exists_of_bind_eq_ok planned
    obtain ⟨offset, -, planned⟩ := exists_of_bind_eq_ok planned
    cases planned
    refine ⟨rfl, fun labels single => ?_⟩
    obtain ⟨label, rfl⟩ := List.length_eq_one_iff.mp single
    rfl
  | ret =>
    have mapped : (Except.map (ret target) (returnPointers target)).map .ofBlock = .ok made := by
      rw [← planned, plan]
      cases returnPointers target <;> rfl
    refine labels_of_map_ofBlock (fun block returned => ?_) mapped
    cases restored : returnPointers target with
    | error fault =>
      rw [restored] at returned
      cases returned
    | ok pointers =>
      rw [restored] at returned
      cases returned
      rfl
  | binary | unary | goto | ifGoto =>
    cases planned
    exact ⟨rfl, isSound_ofBlock rfl⟩

/-- The plan of the startup code declares nothing and is sound. -/
theorem isSound_of_startupPlan {made : Plan} (planned : startupPlan target = .ok made) :
    made.declared? = none ∧ made.IsSound := by
  unfold startupPlan at planned
  split at planned
  · obtain ⟨pointers, -, planned⟩ := exists_of_bind_eq_ok planned
    obtain ⟨offset, -, planned⟩ := exists_of_bind_eq_ok planned
    cases planned
    refine ⟨rfl, fun labels single => ?_⟩
    obtain ⟨label, rfl⟩ := List.length_eq_one_iff.mp single
    rfl
  · cases planned

end Following

end Lowering

end StackLowering
