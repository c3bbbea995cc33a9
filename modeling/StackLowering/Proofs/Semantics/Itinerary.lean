import StackLowering.Proofs.Semantics.Reference
import Mathlib.Data.List.Induction
import Mathlib.Logic.Relation

/-!
# Itineraries of stack programs

Where a program goes on after a command is a relation, since a name could be
declared more than once. Once the positions of a run are given, each of its steps
can be computed: `StackProgram.travel?` takes a program through an itinerary. The
states that it gets to are those that clear runs reach (`exists_travel?_iff`), so
that concrete runs can be evaluated.
-/

namespace StackLowering

namespace Command

/-- The cell of which a command pushes the value. -/
def pushedCell? (statics : Word → Word) (memory : Memory) : Command → Option Word
  | .push segment index => segment.cell? statics memory index
  | _ => none

/-- Whether a command is guarded is a question of its work cells and of the cells it pushes to. -/
theorem guarded_iff {memory : Memory} {command : Command} :
    command.Guarded memory ↔
      (command.workCells memory).all (fun cell => decide (cell ∉ scratchCells)) = true ∧
        ∀ count < command.pushCount, memory.read 0 + BitVec.ofNat 16 count ≠ 0 := by
  simp only [List.all_eq_true, decide_eq_true_eq]
  exact ⟨fun guarded => ⟨guarded.apart, guarded.above⟩, fun holds => ⟨holds.1, holds.2⟩⟩

/-- Only the cell of which the value is pushed is looked at. -/
theorem clear_iff {statics : Word → Word} {memory : Memory} {command : Command} :
    command.Clear statics memory ↔ command.Guarded memory ∧
      (command.pushedCell? statics memory).all (fun cell => decide (cell ∉ scratchCells)) =
        true := by
  rw [Option.all_eq_true]
  constructor
  · intro clear
    refine ⟨clear.toGuarded, fun cell found => decide_eq_true ?_⟩
    cases command with
    | push segment index => exact clear.source segment index cell rfl found
    | _ => cases found
  · rintro ⟨guarded, sources⟩
    refine ⟨guarded, ?_⟩
    rintro segment index cell rfl found
    exact of_decide_eq_true (sources cell found)

instance (memory : Memory) (command : Command) : Decidable (command.Guarded memory) :=
  decidable_of_iff _ guarded_iff.symm

instance (statics : Word → Word) (memory : Memory) (command : Command) :
    Decidable (command.Clear statics memory) :=
  decidable_of_iff _ clear_iff.symm

end Command

namespace StackProgram

variable {program : StackProgram} {before after first last : StackState}

/-- A declaration is arrived at where the command declares the name. -/
theorem arrives_declaration_iff {position destination : Nat} {name : String} :
    program.Arrives position (.declaration name) destination ↔
      (program.commands[destination]?.bind fun placed => placed.command.value.declared?) =
        some name := by
  rw [Option.bind_eq_some_iff]
  rfl

instance (program : StackProgram) (position : Nat) (control : Control) (destination : Nat) :
    Decidable (program.Arrives position control destination) :=
  match control with
  | .next => inferInstanceAs (Decidable (destination = position + 1))
  | .declaration _ => decidable_of_iff _ arrives_declaration_iff.symm
  | .resume address => inferInstanceAs (Decidable (destination ≤ program.commands.length ∧
      program.address destination = address.toNat))

/-- The state after the command at the position of a state, if the command is clear and the program
can go on at the destination. -/
def advance? (program : StackProgram) (state : StackState) (destination : Nat) :
    Option StackState := do
  let placed ← program.commands[state.position]?
  let (memory, control) ← program.perform state placed
  if placed.command.value.Clear (program.statics placed.unit) state.memory ∧
      program.Arrives state.position control destination then
    some ⟨destination, memory⟩
  else none

/-- A computed step is a clear step to the destination, and every clear step can be computed. -/
theorem advance?_eq_some_iff {destination : Nat} :
    program.advance? before destination = some after ↔
      program.ClearStep before after ∧ after.position = destination := by
  simp only [advance?, bind, Option.bind_eq_some_iff, Option.ite_none_right_eq_some]
  constructor
  · rintro ⟨placed, found, ⟨memory, control⟩, performed, ⟨clear, arrives⟩, ⟨⟩⟩
    refine ⟨⟨⟨placed, control, found, performed, arrives⟩, fun other alsoFound => ?_⟩, rfl⟩
    obtain rfl : placed = other := Option.some.inj (found.symm.trans alsoFound)
    exact clear
  · rintro ⟨⟨⟨placed, control, found, performed, arrives⟩, clear⟩, rfl⟩
    exact ⟨placed, found, _, performed, ⟨clear placed found, arrives⟩, rfl⟩

/-- The state after a run through the given positions. -/
def travel? (program : StackProgram) (state : StackState) (itinerary : List Nat) :
    Option StackState :=
  itinerary.foldlM program.advance? state

/-- A run through some positions and one more. -/
theorem travel?_concat (itinerary : List Nat) (destination : Nat) :
    program.travel? first (itinerary ++ [destination]) =
      (program.travel? first itinerary).bind fun middle => program.advance? middle destination := by
  simp [travel?]

/-- The states that can be travelled to are those that clear runs reach. -/
theorem exists_travel?_iff :
    (∃ itinerary, program.travel? first itinerary = some last) ↔
      Relation.ReflTransGen program.ClearStep first last := by
  constructor
  · rintro ⟨itinerary, travelled⟩
    induction itinerary using List.reverseRecOn generalizing last with
    | nil =>
      cases travelled
      exact .refl
    | append_singleton earlier destination inductionHypothesis =>
      rw [travel?_concat, Option.bind_eq_some_iff] at travelled
      obtain ⟨middle, travelled, advanced⟩ := travelled
      exact .tail (inductionHypothesis travelled) (advance?_eq_some_iff.mp advanced).1
  · intro runs
    induction runs with
    | refl => exact ⟨[], rfl⟩
    | @tail middle last _ step inductionHypothesis =>
      obtain ⟨itinerary, travelled⟩ := inductionHypothesis
      refine ⟨itinerary ++ [last.position], ?_⟩
      rw [travel?_concat, travelled, Option.bind_some]
      exact advance?_eq_some_iff.mpr ⟨step, rfl⟩

end StackProgram

end StackLowering
