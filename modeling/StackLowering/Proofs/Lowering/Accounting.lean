import StackLowering.Proofs.Lowering.Plan

/-!
# What lowering does to a context

A context goes into the lowering of a command and comes out of it again, also when
lowering fails. `Context.Accounts` says what may become of it on the way: it stays at
its unit and line, code that is produced adds exactly its own labels, and a failure
leaves nothing behind, unless labels have run out in the middle. One step is a label
made for a purpose; a plan takes several of them, or declares a name; and
`Lowering.context_accounted` carries this over to every command and to startup code.
-/

namespace StackLowering

namespace Context

/-- What comes out of a context when something that declares at most one name is lowered in it. -/
structure Accounts (before : Context) (declared : Option String)
    (result : Except Fault Block × Context) : Prop where
  unit_eq : result.2.unit = before.unit
  line_eq : result.2.line = before.line
  /-- Code adds its own labels to those present, and no other ones. -/
  present : ∀ block, result.1 = .ok block → ∀ label,
    result.2.labels.contains label = true ↔
      before.labels.contains label = true ∨ label ∈ Block.labels block
  /-- The labels of code are new, but for the name that it declares. -/
  absent : ∀ block, result.1 = .ok block → ∀ label ∈ Block.labels block,
    declared ≠ some label → before.labels.contains label = false
  /-- Only the lack of labels is noticed too late to leave the context as it was. -/
  unchanged : ∀ fault, result.1 = .error fault → fault ≠ .labelsExhausted → result.2 = before

section Results

variable {before after : Context} {declared : Option String}

/-- A failure accounts for a context that stays in its place, and that is the same as before unless
labels have run out. -/
theorem Accounts.failure {fault : Fault} (unit_eq : after.unit = before.unit)
    (line_eq : after.line = before.line)
    (unchanged : fault ≠ .labelsExhausted → after = before) :
    before.Accounts declared (.error fault, after) where
  unit_eq := unit_eq
  line_eq := line_eq
  present := nofun
  absent := nofun
  unchanged := by
    intro other failed counts
    cases failed
    exact unchanged counts

/-- Code has its labels to account for. -/
theorem Accounts.code {block : Block} (unit_eq : after.unit = before.unit)
    (line_eq : after.line = before.line)
    (present : ∀ label, after.labels.contains label = true ↔
      before.labels.contains label = true ∨ label ∈ Block.labels block)
    (absent : ∀ label ∈ Block.labels block, declared ≠ some label →
      before.labels.contains label = false) :
    before.Accounts declared (.ok block, after) where
  unit_eq := unit_eq
  line_eq := line_eq
  present := by
    intro other made
    cases made
    exact present
  absent := by
    intro other made
    cases made
    exact absent
  unchanged := nofun

end Results

section Labels

variable {context after : Context} {fault : Fault}

/-- Making a label fails only for the lack of labels, and the context stays in its place. -/
theorem freshLabel_eq_error {purpose : String}
    (failed : context.freshLabel purpose = (.error fault, after)) :
    fault = .labelsExhausted ∧ after.unit = context.unit ∧ after.line = context.line := by
  unfold freshLabel at failed
  split at failed
  · cases failed
  · cases failed
    exact ⟨rfl, rfl, rfl⟩

/-- Labels for some purposes run out at one of them, wherever that is. -/
theorem freshLabels_eq_error {purposes : List String}
    (failed : context.freshLabels purposes = (.error fault, after)) :
    fault = .labelsExhausted ∧ after.unit = context.unit ∧ after.line = context.line := by
  induction purposes generalizing context with
  | nil => cases failed
  | cons purpose rest inductionHypothesis =>
    unfold freshLabels at failed
    split at failed
    · rename_i first
      cases failed
      exact freshLabel_eq_error first
    · rename_i label middle first
      obtain ⟨-, -, -, sameUnit, sameLine⟩ := freshLabel_eq_ok first
      split at failed
      · rename_i later
        cases failed
        obtain ⟨lack, laterUnit, laterLine⟩ := inductionHypothesis later
        exact ⟨lack, laterUnit.trans sameUnit, laterLine.trans sameLine⟩
      · cases failed

/-- Labels for some purposes are new, and they are the only ones added. -/
theorem freshLabels_eq_ok {purposes labels : List String}
    (fresh : context.freshLabels purposes = (.ok labels, after)) :
    after.unit = context.unit ∧ after.line = context.line ∧
      (∀ label ∈ labels, context.labels.contains label = false) ∧
      ∀ label, after.labels.contains label = true ↔
        context.labels.contains label = true ∨ label ∈ labels := by
  induction purposes generalizing context labels with
  | nil =>
    cases fresh
    exact ⟨rfl, rfl, by simp, by simp⟩
  | cons purpose rest inductionHypothesis =>
    obtain ⟨label, middle, others, first, later, rfl⟩ := freshLabels_cons_eq_ok fresh
    obtain ⟨-, absent, middlePresent, sameUnit, sameLine⟩ := freshLabel_eq_ok first
    obtain ⟨laterUnit, laterLine, othersAbsent, afterPresent⟩ := inductionHypothesis later
    refine ⟨laterUnit.trans sameUnit, laterLine.trans sameLine, ?_, fun other => ?_⟩
    · intro other member
      rcases List.mem_cons.mp member with rfl | inOthers
      · exact absent
      · -- What is absent after the first label was absent before it.
        rw [Bool.eq_false_iff]
        intro contained
        have stillPresent := (middlePresent other).mpr (Or.inr contained)
        rw [othersAbsent other inOthers] at stillPresent
        cases stillPresent
    · rw [afterPresent, middlePresent, List.mem_cons]
      tauto

end Labels

end Context

namespace Plan

variable (context : Context)

/-- A plan that declares a name adds this name. -/
theorem accounts_declaring {name : String} {block : Block}
    (sound : (Plan.declaring name block).IsSound) :
    context.Accounts (some name) (carryOut context (.declaring name block)) := by
  have labels : Block.labels block = [name] := sound
  refine .code rfl rfl (fun label => ?_) fun label member undeclared => ?_
  · rw [labels, List.mem_singleton]
    exact (context.contains_declare name label).trans or_comm
  · rw [labels, List.mem_singleton] at member
    exact absurd (congrArg some member.symm) undeclared

/-- A plan that takes labels adds these labels, all of them new. -/
theorem accounts_labelled {purposes : List String} {code : List String → Block}
    (sound : (Plan.labelled purposes code).IsSound) :
    context.Accounts none (carryOut context (.labelled purposes code)) := by
  simp only [carryOut]
  split
  · rename_i fault after failed
    obtain ⟨lack, sameUnit, sameLine⟩ := Context.freshLabels_eq_error failed
    exact .failure sameUnit sameLine fun counts => absurd lack counts
  · rename_i labels after taken
    obtain ⟨sameUnit, sameLine, absent, present⟩ := Context.freshLabels_eq_ok taken
    have own : Block.labels (code labels) = labels :=
      sound labels (Context.length_freshLabels taken)
    rw [← own] at absent present
    exact .code sameUnit sameLine present fun label member _ => absent label member

/-- A context is accounted for when a plan is followed in it, or when there is none. -/
theorem accounts_follow {outcome : Except Fault Plan} {declared : Option String}
    (sound : ∀ plan, outcome = .ok plan → plan.declared? = declared ∧ plan.IsSound) :
    context.Accounts declared (follow context outcome) := by
  cases outcome with
  | error fault => exact .failure rfl rfl fun _ => rfl
  | ok plan =>
    obtain ⟨rfl, planSound⟩ := sound plan rfl
    cases plan with
    | declaring name block => exact accounts_declaring context planSound
    | labelled purposes code => exact accounts_labelled context planSound

end Plan

namespace Lowering

/-- Whatever a command is, and whatever labels are present, lowering it in a context leaves the
context at its unit and line; if there is code, its labels become present and no other ones, and
those that the command does not declare itself were absent; and if lowering fails for another
reason than the lack of labels, the context is the one from before. The same holds for startup code,
which declares nothing. -/
theorem context_accounted (target : Target) (context : Context) :
    (∀ command : Command,
      context.Accounts command.declared? (lower target command context)) ∧
      context.Accounts none (lowerBootstrap target context) := by
  constructor
  · intro command
    rw [lower_eq_follow]
    exact Plan.accounts_follow context fun plan planned => isSound_of_plan planned
  · rw [lowerBootstrap_eq_follow]
    exact Plan.accounts_follow context fun plan planned => isSound_of_startupPlan planned

/-- A name that imitates the first label of a comparison is avoided, and a pop that has no code
leaves the name and the counter alone. -/
theorem imitatedEquality_accounted :
    let context : Context := ⟨"Main", 3, LabelSupply.declare {} "Main_3_eq_0"⟩
    let block := compare Target.hack .eq "Main_3_eq_1" "Main_3_noteq_2"
    (lower Target.hack (.compare .eq) context).1 = .ok block ∧
      "Main_3_eq_1" ∈ Block.labels block ∧ context.labels.contains "Main_3_eq_1" = false ∧
      (lower Target.hack (.pop .constant 0) context).1 = .error .popConstant ∧
      (lower Target.hack (.pop .constant 0) context).2 = context := by
  obtain ⟨accounted, -⟩ :=
    context_accounted Target.hack ⟨"Main", 3, LabelSupply.declare {} "Main_3_eq_0"⟩
  have made : (lower Target.hack (.compare .eq)
      ⟨"Main", 3, LabelSupply.declare {} "Main_3_eq_0"⟩).1 =
        .ok (compare Target.hack .eq "Main_3_eq_1" "Main_3_noteq_2") := by
    decide +kernel
  have member : "Main_3_eq_1" ∈ Block.labels
      (compare Target.hack .eq "Main_3_eq_1" "Main_3_noteq_2") := List.mem_cons_self
  exact ⟨made, member, (accounted (.compare .eq)).absent _ made _ member nofun, rfl,
    (accounted (.pop .constant 0)).unchanged .popConstant rfl nofun⟩

/-- A comparison takes two labels. When there is only one left, it is taken before the lack of the
other one shows. -/
example : (lower Target.hack (.compare .eq)
    ⟨"Main", 1, LabelSupply.startingAt 4294967294⟩).2.labels.present =
      ["Main_1_eq_4294967294"] := by
  decide +kernel

end Lowering

end StackLowering
