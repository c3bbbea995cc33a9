import StackLowering.Proofs.Machine.Variables

/-!
# Resolution of symbols

Assembling goes over the instructions twice. Labels are placed first, so that a
symbol may be loaded before the label that it names; a label also hides a
predefined cell of the same name. Whatever is left is a variable.
`Program.assemble_resolves_symbols` says what an assembled program consists of,
and with which label assembling fails.
-/

namespace StackLowering.Program

/-- The cells with names of their own: the pointers and the sixteen registers. -/
inductive Predefined : String → Nat → Prop where
  | stackPointer : Predefined "SP" 0
  | locals : Predefined "LCL" 1
  | argument : Predefined "ARG" 2
  | this : Predefined "THIS" 3
  | that : Predefined "THAT" 4
  | register {index : Nat} (low : index < 16) : Predefined ("R" ++ index.repr) index

/-- What a symbol stands for among some instructions: the place of its label, wherever that is
declared; otherwise its predefined cell; otherwise the cell behind those of all the variables that
are loaded before it is. -/
inductive StandsFor (instructions : List Instruction) : String → Nat → Prop where
  | label {before after : Block} {name : String}
      (split : instructions = before ++ .label name :: after) :
      StandsFor instructions name before.size
  | cell {name : String} {address : Nat} (undeclared : name ∉ Block.labels instructions)
      (known : Predefined name address) : StandsFor instructions name address
  | allotted {name : String} (undeclared : name ∉ Block.labels instructions)
      (unknown : ∀ address, ¬Predefined name address) :
      StandsFor instructions name (16 + rank instructions name)

/-- The operation that an executable instruction becomes. -/
inductive Becomes (instructions : List Instruction) : Instruction → Operation → Prop where
  | symbol {name : String} {value : Word} (stands : StandsFor instructions name value.toNat) :
      Becomes instructions (.symbol name) (.load value)
  | literal (value : Word) : Becomes instructions (.literal value) (.load value)
  | compute {destination : Option String} {computation : String} {jump : Option Jump}
      {known : Computation} (computes : Computation.ofText? computation = some known) :
      Becomes instructions (.compute destination computation jump)
        (.compute (.ofText (destination.getD "")) known jump)
  | invalid {destination : Option String} {computation : String} {jump : Option Jump}
      (unknown : Computation.ofText? computation = none) :
      Becomes instructions (.compute destination computation jump) (.invalid computation)

/-- A program consists of the operations of its executable instructions, in order, with every
symbol resolved. -/
structure Resolves (instructions : List Instruction) (program : Program) : Prop where
  operations : List.Forall₂ (Becomes instructions)
    (instructions.filter Instruction.isExecutable) program.operations.toList
  labels : ∀ before name after, instructions = before ++ .label name :: after →
    program.labelAddress? name = some (Block.size before)
  /-- A symbol stands for one number. -/
  unique : ∀ name address other, StandsFor instructions name address →
    StandsFor instructions name other → address = other
  cells : ∀ name address, name ∈ loadedSymbols instructions → name ∉ Block.labels instructions →
    StandsFor instructions name address →
      ∃ cell, program.cell? name = some cell ∧ cell.toNat = address
  /-- Different variables do not share a cell. -/
  apart : ∀ name other, name ∈ loadedSymbols instructions → other ∈ loadedSymbols instructions →
    isVariable instructions name → isVariable instructions other →
      program.cell? name = program.cell? other → name = other

/-! ## Predefined cells -/

/-- The table has no cells but the predefined ones. -/
theorem predefined_of_mem {name : String} {cell : Word} (member : (name, cell) ∈ predefined) :
    Predefined name cell.toNat := by
  have listed : ∀ entry ∈ predefined, entry.2.toNat < 16 ∧
      (entry.1 = "R" ++ entry.2.toNat.repr ∨
        (entry.1, entry.2.toNat) ∈
          [("SP", 0), ("LCL", 1), ("ARG", 2), ("THIS", 3), ("THAT", 4)]) := by
    decide
  obtain ⟨low, register | pointer⟩ := listed _ member
  · dsimp only at register low
    rw [register]
    exact .register low
  · simp only [List.mem_cons, Prod.mk.injEq, List.not_mem_nil, or_false] at pointer
    obtain ⟨rfl, zero⟩ | ⟨rfl, one⟩ | ⟨rfl, two⟩ | ⟨rfl, three⟩ | ⟨rfl, four⟩ := pointer
    · exact zero ▸ .stackPointer
    · exact one ▸ .locals
    · exact two ▸ .argument
    · exact three ▸ .this
    · exact four ▸ .that

/-- Every predefined cell is found in the table. -/
theorem Predefined.lookup_eq {name : String} {address : Nat} (known : Predefined name address) :
    predefined.lookup name = some (BitVec.ofNat 16 address) := by
  cases known with
  | register low =>
    have registers : ∀ index < 16,
        predefined.lookup ("R" ++ index.repr) = some (BitVec.ofNat 16 index) := by
      decide
    exact registers _ low
  | _ => decide

/-- Predefined cells lie in front of the cells for variables. -/
theorem Predefined.lt {name : String} {address : Nat} (known : Predefined name address) :
    address < 16 := by
  cases known with
  | register low => exact low
  | _ => decide

/-- The table of predefined cells has exactly the cells with names of their own. -/
theorem lookup_predefined_eq_some_iff {name : String} {cell : Word} :
    predefined.lookup name = some cell ↔ Predefined name cell.toNat := by
  constructor
  · intro found
    obtain ⟨front, back, table, -⟩ := List.lookup_eq_some_iff.mp found
    exact predefined_of_mem (by rw [table]; simp)
  · intro known
    rw [known.lookup_eq, BitVec.ofNat_toNat, BitVec.setWidth_eq]

/-- A name that is not found in the table is no predefined cell. -/
theorem lookup_predefined_eq_none_iff {name : String} :
    predefined.lookup name = none ↔ ∀ address, ¬Predefined name address := by
  constructor
  · intro missing address known
    rw [known.lookup_eq] at missing
    cases missing
  · intro unknown
    rw [Option.eq_none_iff_forall_ne_some]
    intro cell found
    exact unknown _ (lookup_predefined_eq_some_iff.mp found)

/-! ## Repeated labels -/

/-- The name that is found to be repeated is the first one that occurred before. -/
theorem exists_split_of_repeated? {seen names : List String} {name : String}
    (found : repeated? seen names = some name) :
    ∃ front back, names = front ++ name :: back ∧ front.Nodup ∧ (∀ other ∈ front, other ∉ seen) ∧
      (name ∈ seen ∨ name ∈ front) := by
  induction names generalizing seen with
  | nil => cases found
  | cons first rest inductionHypothesis =>
    unfold repeated? at found
    split at found
    · rename_i present
      obtain rfl : first = name := Option.some.inj found
      exact ⟨[], rest, rfl, List.nodup_nil, by simp, Or.inl (List.contains_iff_mem.mp present)⟩
    · rename_i absent
      rw [List.contains_iff_mem] at absent
      obtain ⟨front, back, rfl, distinct, unseen, early⟩ := inductionHypothesis found
      refine ⟨first :: front, back, rfl, ?_, ?_, ?_⟩
      · rw [List.nodup_cons]
        exact ⟨fun member => unseen first member List.mem_cons_self, distinct⟩
      · rw [List.forall_mem_cons]
        exact ⟨absent, fun other member => fun old =>
          unseen other member (List.mem_cons_of_mem _ old)⟩
      · rcases early with old | new
        · rcases List.mem_cons.mp old with rfl | old
          · exact Or.inr List.mem_cons_self
          · exact Or.inl old
        · exact Or.inr (List.mem_cons_of_mem _ new)

/-- A place among the labels is a place among the instructions. -/
theorem exists_split_of_labels {instructions : Block} {front back : List String} {name : String}
    (split : Block.labels instructions = front ++ name :: back) :
    ∃ before after, instructions = before ++ .label name :: after ∧
      Block.labels before = front := by
  obtain ⟨before, rest, rfl, earlier, later⟩ := List.filterMap_eq_append_iff.mp split
  obtain ⟨skipped, found, after, rfl, silent, declares, -⟩ := List.filterMap_eq_cons_iff.mp later
  have declared : found = .label name := by
    cases found with
    | label other => rw [Option.some.inj declares]
    | _ => cases declares
  subst declared
  refine ⟨before ++ skipped, after, by simp, ?_⟩
  show List.filterMap Instruction.declared? (before ++ skipped) = front
  rw [List.filterMap_append, earlier, List.filterMap_eq_nil_iff.mpr silent, List.append_nil]

/-- Assembling fails with the first label that was declared before. -/
theorem exists_assemble_eq_error {instructions : List Instruction}
    (repeats : ¬(Block.labels instructions).Nodup) :
    ∃ before name after, instructions = before ++ .label name :: after ∧
      (Block.labels before).Nodup ∧ name ∈ Block.labels before ∧
      assemble instructions = .error name := by
  have found : repeated? [] (Block.labels instructions) ≠ none := fun missing =>
    repeats (repeated?_eq_none_iff.mp missing).1
  obtain ⟨name, found⟩ := Option.ne_none_iff_exists'.mp found
  obtain ⟨front, back, split, distinct, -, early⟩ := exists_split_of_repeated? found
  obtain ⟨before, after, rfl, rfl⟩ := exists_split_of_labels split
  refine ⟨before, name, after, rfl, distinct, early.resolve_left List.not_mem_nil, ?_⟩
  unfold assemble
  dsimp only
  rw [map_fst_placeLabels, found]

/-! ## Resolved symbols -/

section Assembled

variable {instructions : List Instruction} {program : Program} {name : String} {address : Nat}

/-- A declared symbol stands for the address of its label. -/
theorem StandsFor.labelAddress? (assembled : assemble instructions = .ok program)
    (declared : name ∈ Block.labels instructions) (stands : StandsFor instructions name address) :
    program.labelAddress? name = some address := by
  cases stands with
  | label split =>
    subst split
    exact labelAddress?_of_assemble assembled
  | cell undeclared => exact absurd declared undeclared
  | allotted undeclared => exact absurd declared undeclared

/-- A label within the instructions is one of their labels. -/
theorem mem_labels_of_split {before after : Block}
    (split : instructions = before ++ .label name :: after) :
    name ∈ Block.labels instructions := by
  rw [split]
  exact List.mem_filterMap.mpr ⟨.label name, by simp, rfl⟩

/-- The cell of a loaded symbol that is no label. -/
theorem StandsFor.exists_cell? (assembled : assemble instructions = .ok program)
    (few : (loadedSymbols instructions).dedup.length < 65000)
    (loaded : name ∈ loadedSymbols instructions) (undeclared : name ∉ Block.labels instructions)
    (stands : StandsFor instructions name address) :
    ∃ cell, program.cell? name = some cell ∧ cell.toNat = address := by
  cases stands with
  | label split => exact absurd (mem_labels_of_split split) undeclared
  | cell _ known =>
    refine ⟨BitVec.ofNat 16 address, by rw [cell?, known.lookup_eq], ?_⟩
    have low := known.lt
    rw [BitVec.toNat_ofNat]
    omega
  | allotted _ unknown =>
    exact ⟨_, cell?_eq_rank assembled loaded
      (isVariable_iff.mpr ⟨undeclared, lookup_predefined_eq_none_iff.mpr unknown⟩),
      toNat_cell_rank few name⟩

/-- Every symbol stands for something. -/
theorem exists_standsFor (instructions : List Instruction) (name : String) :
    ∃ address, StandsFor instructions name address := by
  by_cases declared : name ∈ Block.labels instructions
  · obtain ⟨front, back, split⟩ := List.append_of_mem declared
    obtain ⟨before, after, rfl, -⟩ := exists_split_of_labels split
    exact ⟨_, .label rfl⟩
  · by_cases known : ∃ address, Predefined name address
    · obtain ⟨address, known⟩ := known
      exact ⟨address, .cell declared known⟩
    · exact ⟨_, .allotted declared (not_exists.mp known)⟩

/-- A symbol that is no label stands for its predefined cell, or else for that of a variable. -/
theorem StandsFor.eq_getD (undeclared : name ∉ Block.labels instructions)
    (stands : StandsFor instructions name address) :
    address = ((predefined.lookup name).map BitVec.toNat).getD (16 + rank instructions name) := by
  cases stands with
  | label split => exact absurd (mem_labels_of_split split) undeclared
  | cell _ known =>
    have low := known.lt
    rw [known.lookup_eq, Option.map_some, Option.getD_some, BitVec.toNat_ofNat]
    omega
  | allotted _ unknown => rw [lookup_predefined_eq_none_iff.mpr unknown]; rfl

/-- What a symbol stands for is determined by the instructions. -/
theorem StandsFor.unique {other : Nat} (assembled : assemble instructions = .ok program)
    (stands : StandsFor instructions name address) (again : StandsFor instructions name other) :
    address = other := by
  by_cases declared : name ∈ Block.labels instructions
  · have here := stands.labelAddress? assembled declared
    rw [again.labelAddress? assembled declared] at here
    exact (Option.some.inj here).symm
  · exact (stands.eq_getD declared).trans (again.eq_getD declared).symm

/-- A loaded symbol has the value that it stands for. -/
theorem standsFor_value (assembled : assemble instructions = .ok program)
    (short : Block.size instructions ≤ 65535)
    (few : (loadedSymbols instructions).dedup.length < 65000)
    (loaded : name ∈ loadedSymbols instructions) :
    StandsFor instructions name (program.value name).toNat := by
  obtain ⟨address, stands⟩ := exists_standsFor instructions name
  have value : (program.value name).toNat = address := by
    by_cases declared : name ∈ Block.labels instructions
    · have placed := stands.labelAddress? assembled declared
      have low : address ≤ 65535 := by
        cases stands with
        | label split =>
          rw [split, Block.size_append] at short
          omega
        | cell _ known => exact Nat.le_trans (Nat.le_of_lt known.lt) (by decide)
        | allotted undeclared => exact absurd declared undeclared
      rw [value_of_labelAddress? placed, BitVec.toNat_ofNat]
      omega
    · obtain ⟨cell, found, number⟩ := stands.exists_cell? assembled few loaded declared
      rw [value_of_not_label (labelAddress?_eq_none_of_assemble assembled declared), found]
      exact number
  rw [value]
  exact stands

/-- An executable instruction has an operation, in which its symbol is resolved. -/
theorem becomes_of_mem {instruction : Instruction} (assembled : assemble instructions = .ok program)
    (short : Block.size instructions ≤ 65535)
    (few : (loadedSymbols instructions).dedup.length < 65000) (member : instruction ∈ instructions)
    (executable : instruction.isExecutable = true) :
    ∃ operation, operation? program.labels program.variableNames instruction = some operation ∧
      Becomes instructions instruction operation := by
  cases instruction with
  | symbol name =>
    have loaded : name ∈ loadedSymbols instructions :=
      List.mem_filterMap.mpr ⟨.symbol name, member, rfl⟩
    exact ⟨.load (program.value name), rfl,
      .symbol (standsFor_value assembled short few loaded)⟩
  | literal value => exact ⟨.load value, rfl, .literal value⟩
  | compute destination computation jump =>
    cases known : Computation.ofText? computation with
    | some computed =>
      exact ⟨.compute (.ofText (destination.getD "")) computed jump, by simp [operation?, known],
        .compute known⟩
    | none => exact ⟨.invalid computation, by simp [operation?, known], .invalid known⟩
  | label name => cases executable
  | comment text => cases executable

end Assembled

/-- The items that pass a test are paired with their images, if the other items have none. -/
theorem forall₂_filter_filterMap {α β : Type} {relates : α → β → Prop} {test : α → Bool}
    {image : α → Option β} {items : List α}
    (dropped : ∀ item ∈ items, test item = false → image item = none)
    (kept : ∀ item ∈ items, test item = true →
      ∃ result, image item = some result ∧ relates item result) :
    List.Forall₂ relates (items.filter test) (items.filterMap image) := by
  induction items with
  | nil => exact .nil
  | cons item rest inductionHypothesis =>
    rw [List.forall_mem_cons] at dropped kept
    have later := inductionHypothesis dropped.2 kept.2
    cases passes : test item with
    | false =>
      rw [List.filter_cons_of_neg (by simp [passes]),
        List.filterMap_cons_none (dropped.1 passes)]
      exact later
    | true =>
      obtain ⟨result, found, related⟩ := kept.1 passes
      rw [List.filter_cons_of_pos passes, List.filterMap_cons_some found]
      exact .cons related later

/-- In an assembled program all symbols are resolved. -/
theorem resolves_of_assemble {instructions : List Instruction} {program : Program}
    (assembled : assemble instructions = .ok program)
    (short : Block.size instructions ≤ 65535)
    (few : (loadedSymbols instructions).dedup.length < 65000) :
    Resolves instructions program where
  operations := by
    rw [(assemble_eq_ok assembled).2.1]
    refine forall₂_filter_filterMap ?_ fun instruction member executable =>
      becomes_of_mem assembled short few member executable
    intro instruction member silent
    cases instruction with
    | label name => rfl
    | comment text => rfl
    | _ => cases silent
  labels := by
    rintro before name after rfl
    exact labelAddress?_of_assemble assembled
  unique := fun name address other stands again => stands.unique assembled again
  cells := fun name address loaded undeclared stands =>
    stands.exists_cell? assembled few loaded undeclared
  apart := by
    intro name other loaded otherLoaded isVariableHere otherVariable same
    rw [cell?_eq_rank assembled loaded isVariableHere,
      cell?_eq_rank assembled otherLoaded otherVariable] at same
    have numbers := congrArg BitVec.toNat (Option.some.inj same)
    rw [toNat_cell_rank few, toNat_cell_rank few, Nat.add_left_cancel_iff] at numbers
    exact eq_of_rank_eq assembled loaded isVariableHere otherLoaded otherVariable numbers

/-- Instructions that declare every label once, with no more executable instructions than there are
addresses and fewer symbols than there are cells, are assembled into one operation for each
executable instruction, in order, with labels at the number of executable instructions in front of
them and every symbol resolved. If a label is declared twice, assembling fails with the first one
that was declared before. -/
theorem assemble_resolves_symbols (instructions : List Instruction) :
    ((Block.labels instructions).Nodup → Block.size instructions ≤ 65535 →
      (loadedSymbols instructions).dedup.length < 65000 →
        ∃ program, assemble instructions = .ok program ∧ Resolves instructions program) ∧
      (¬(Block.labels instructions).Nodup →
        ∃ before name after, instructions = before ++ .label name :: after ∧
          (Block.labels before).Nodup ∧ name ∈ Block.labels before ∧
          assemble instructions = .error name) := by
  refine ⟨fun distinct short few => ?_, exists_assemble_eq_error⟩
  obtain ⟨program, assembled⟩ := exists_assemble_eq_ok_iff.mpr distinct
  exact ⟨program, assembled, resolves_of_assemble assembled short few⟩

/-- Instructions with a label that is loaded before it is declared, a label that is named like a
register, and a variable that is loaded twice. -/
def crossedSymbols : List Instruction :=
  [.symbol "end", .symbol "x", .label "R5", .symbol "R5", .symbol "R1", .symbol "y", .symbol "x",
    .label "end", .jump]

/-- The label takes the place of the register, and the variables take the first two free cells. -/
theorem crossedSymbols_resolved :
    (Block.labels crossedSymbols).Nodup ∧ Block.size crossedSymbols ≤ 65535 ∧
      (loadedSymbols crossedSymbols).dedup.length < 65000 ∧
      ∃ program, assemble crossedSymbols = .ok program ∧
        List.Forall₂ (Becomes crossedSymbols)
          [.symbol "end", .symbol "x", .symbol "R5", .symbol "R1", .symbol "y", .symbol "x", .jump]
          program.operations.toList ∧
        program.labelAddress? "end" = some 6 ∧ program.labelAddress? "R5" = some 2 ∧
        (∃ cell, program.cell? "R1" = some cell ∧ cell.toNat = 1) ∧
        (∃ cell, program.cell? "x" = some cell ∧ cell.toNat = 16) ∧
        (∃ cell, program.cell? "y" = some cell ∧ cell.toNat = 17) := by
  have distinct : (Block.labels crossedSymbols).Nodup := by decide
  have short : Block.size crossedSymbols ≤ 65535 := by decide
  have few : (loadedSymbols crossedSymbols).dedup.length < 65000 := by decide
  obtain ⟨program, assembled, resolves⟩ :=
    (assemble_resolves_symbols crossedSymbols).1 distinct short few
  have unknown : ∀ name, predefined.lookup name = none → ∀ address, ¬Predefined name address :=
    fun name => lookup_predefined_eq_none_iff.mp
  exact ⟨distinct, short, few, program, assembled, resolves.operations,
    resolves.labels (crossedSymbols.take 7) "end" [.jump] rfl,
    resolves.labels (crossedSymbols.take 2) "R5" (crossedSymbols.drop 3) rfl,
    resolves.cells "R1" 1 (by decide) (by decide)
      (.cell (by decide) (@Predefined.register 1 (by decide))),
    resolves.cells "x" 16 (by decide) (by decide) (.allotted (by decide) (unknown "x" (by decide))),
    resolves.cells "y" 17 (by decide) (by decide) (.allotted (by decide) (unknown "y" (by decide)))⟩

/-- Labels that are declared again are met in the order of the second declarations. -/
example : assemble [.label "a", .label "b", .label "b", .label "a"] = .error "b" := by decide

end StackLowering.Program
