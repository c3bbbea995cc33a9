import StackLowering.Proofs.Machine.Assembly
import Mathlib.Data.List.Dedup
import Mathlib.Data.List.Perm.Subperm

/-!
# Cells of variables

A symbol that is neither a label nor predefined is given a cell when it is loaded
for the first time. The cells follow each other in that order, so that the cell of
a variable counts the variables that came first (`cell?_eq_rank`), and different
variables have different cells as long as there are enough of them
(`eq_of_cell?_eq`).
-/

namespace StackLowering.Program

/-! ## First uses -/

/-- The first uses of two lists are those of the first one, and those of the second one that are
new. -/
theorem firstUses_append (first second : List String) :
    firstUses (first ++ second) =
      firstUses first ++ (firstUses second).filter fun name => !first.contains name := by
  induction first with
  | nil => simp [firstUses]
  | cons name rest inductionHypothesis =>
    rw [List.cons_append, firstUses, firstUses, inductionHypothesis, List.filter_append,
      List.filter_filter, List.cons_append]
    congr 3
    funext other
    rw [List.contains_cons, Bool.not_or, bne]

/-- No name is used first twice. -/
theorem nodup_firstUses (names : List String) : (firstUses names).Nodup := by
  induction names with
  | nil => exact List.nodup_nil
  | cons name rest inductionHypothesis =>
    rw [firstUses, List.nodup_cons]
    exact ⟨by simp, inductionHypothesis.filter _⟩

/-- There are as many first uses as different names. -/
theorem length_firstUses (names : List String) :
    (firstUses names).length = names.dedup.length := by
  apply List.Perm.length_eq
  rw [List.perm_ext_iff_of_nodup (nodup_firstUses names) names.nodup_dedup]
  intro name
  rw [mem_firstUses, List.mem_dedup]

/-- A name comes behind all the names that are used before its first use. -/
theorem idxOf?_firstUses {names : List String} {name : String} (used : name ∈ names) :
    (firstUses names).idxOf? name =
      some (names.takeWhile fun other => other != name).dedup.length := by
  obtain ⟨before, after, rfl, unused⟩ := List.eq_append_cons_of_mem used
  have others : ∀ other ∈ before, (other != name) = true := by
    intro other member
    rw [bne_iff_ne]
    rintro rfl
    exact unused member
  have front : (before ++ name :: after).takeWhile (fun other => other != name) = before := by
    rw [List.takeWhile_append_of_pos others, List.takeWhile_cons_of_neg (by simp),
      List.append_nil]
  have absent : (firstUses before).findIdx? (fun other => other == name) = none := by
    apply List.idxOf?_eq_none_iff.mpr
    rwa [mem_firstUses]
  rw [front, ← length_firstUses, firstUses_append, firstUses,
    List.filter_cons_of_pos (by simpa using unused), List.idxOf?, List.findIdx?_append, absent]
  simp [List.findIdx?_cons]

/-! ## Variables of a program -/

/-- Whether a symbol stands for a variable: it is neither declared as a label nor predefined. -/
def isVariable (instructions : List Instruction) (name : String) : Bool :=
  !(Block.labels instructions).contains name && (predefined.lookup name).isNone

/-- Variables are the symbols that are neither labels nor predefined. -/
theorem isVariable_iff {instructions : List Instruction} {name : String} :
    isVariable instructions name = true ↔
      name ∉ Block.labels instructions ∧ predefined.lookup name = none := by
  rw [isVariable, Bool.and_eq_true, Bool.not_eq_true', ← Bool.not_eq_true, List.contains_iff_mem,
    Option.isNone_iff_eq_none]

/-- The number of different variables that are loaded before a symbol is loaded. -/
def rank (instructions : List Instruction) (name : String) : Nat :=
  (((loadedSymbols instructions).takeWhile fun other => other != name).filter
    (isVariable instructions)).dedup.length

/-- A label has no address exactly if it is not declared. -/
theorem isNone_lookup_placeLabels (address : Nat) (block : Block) (name : String) :
    ((placeLabels address block).lookup name).isNone = !(Block.labels block).contains name := by
  rw [← map_fst_placeLabels address, Bool.eq_iff_iff, Option.isNone_iff_eq_none,
    List.lookup_eq_none_iff, Bool.not_eq_true', ← Bool.not_eq_true, List.contains_iff_mem]
  constructor
  · intro apart listed
    obtain ⟨entry, member, rfl⟩ := List.mem_map.mp listed
    simpa using apart entry member
  · intro unlisted entry member
    rw [bne_iff_ne]
    rintro rfl
    exact unlisted (List.mem_map_of_mem member)

section Assembled

variable {instructions : List Instruction} {program : Program} {name other : String}

/-- The variables of an assembled program, in the order of their first uses. -/
theorem variableNames_eq (assembled : assemble instructions = .ok program) :
    program.variableNames =
      firstUses ((loadedSymbols instructions).filter (isVariable instructions)) := by
  rw [variableNames_of_assemble assembled, variablesOf, (assemble_eq_ok assembled).1]
  simp only [isNone_lookup_placeLabels]
  rfl

/-- The rank of a variable is its place among the variables. -/
theorem idxOf?_variableNames (assembled : assemble instructions = .ok program)
    (loaded : name ∈ loadedSymbols instructions) (isVariableHere : isVariable instructions name) :
    program.variableNames.idxOf? name = some (rank instructions name) := by
  rw [variableNames_eq assembled,
    idxOf?_firstUses (List.mem_filter.mpr ⟨loaded, isVariableHere⟩), List.takeWhile_filter]
  -- Symbols that are no variables do not end the run in front of the first use.
  have passes : (fun symbol => !isVariable instructions symbol || symbol != name) =
      fun symbol => symbol != name := by
    funext symbol
    by_cases same : symbol = name
    · simp [same, isVariableHere]
    · simp [same]
  rw [passes]
  rfl

/-- A variable has the cell behind the cells of the variables that came first. -/
theorem cell?_eq_rank (assembled : assemble instructions = .ok program)
    (loaded : name ∈ loadedSymbols instructions) (isVariableHere : isVariable instructions name) :
    program.cell? name = some (BitVec.ofNat 16 (firstVariable + rank instructions name)) := by
  rw [cell?, (isVariable_iff.mp isVariableHere).2]
  show variableCell? program.variableNames name = _
  rw [variableCell?, idxOf?_variableNames assembled loaded isVariableHere]
  rfl

/-- No more variables come first than there are symbols. -/
theorem rank_le (instructions : List Instruction) (name : String) :
    rank instructions name ≤ (loadedSymbols instructions).dedup.length := by
  apply List.Subperm.length_le
  apply (List.nodup_dedup _).subperm
  intro symbol member
  rw [List.mem_dedup, List.mem_filter] at member
  rw [List.mem_dedup]
  exact (List.takeWhile_sublist _).subset member.1

/-- Different variables have different ranks. -/
theorem eq_of_rank_eq (assembled : assemble instructions = .ok program)
    (loaded : name ∈ loadedSymbols instructions) (isVariableHere : isVariable instructions name)
    (otherLoaded : other ∈ loadedSymbols instructions)
    (otherVariable : isVariable instructions other)
    (same : rank instructions name = rank instructions other) : name = other := by
  have here := idxOf?_variableNames assembled loaded isVariableHere
  have there := idxOf?_variableNames assembled otherLoaded otherVariable
  rw [← same] at there
  obtain ⟨_, found, -⟩ := List.idxOf?_eq_some_iff.mp here
  obtain ⟨_, otherFound, -⟩ := List.idxOf?_eq_some_iff.mp there
  rw [← found, otherFound]

/-- With words enough for all symbols, the cell of a variable is a number of its own. -/
theorem toNat_cell_rank (few : (loadedSymbols instructions).dedup.length < 65000) (name : String) :
    (BitVec.ofNat 16 (firstVariable + rank instructions name)).toNat =
      firstVariable + rank instructions name := by
  have bound := rank_le instructions name
  rw [BitVec.toNat_ofNat, firstVariable]
  omega

end Assembled

end StackLowering.Program
