import StackLowering.Proofs.Labels.Uniqueness

/-!
# No label shadows a memory cell

The assembler takes a symbol for a label wherever it is declared as one, so a
label that is spelled like a cell would silently turn a memory access into a code
address. `Job.no_label_shadows_cell` accounts for every symbol that generated
code loads, and keeps labels apart from the symbols of cells: declared names
because they are checked, synthesized ones because of how they are spelled.
-/

namespace StackLowering

/-! ## Spelling -/

/-- What is left of a text, read from its end, once the digits at its end are gone. -/
private def beforeDigits (text : String) : List Char :=
  text.toList.reverse.dropWhile Char.isDigit

/-- In front of the digits of a numbered name stands its underscore. -/
private theorem beforeDigits_append_repr (front : String) (number : Nat) :
    beforeDigits (front ++ "_" ++ number.repr) = '_' :: front.toList.reverse := by
  have digits : ∀ character ∈ number.repr.toList.reverse, character.isDigit = true := by
    intro character member
    rw [List.mem_reverse, Nat.toList_repr] at member
    exact Nat.isDigit_of_mem_toDigits (by decide) (by decide) member
  unfold beforeDigits
  rw [String.toList_append, String.toList_append, List.reverse_append, List.reverse_append,
    List.dropWhile_append_of_pos digits]
  rfl

/-- In front of the digits at its end, the symbol of a static variable has its unit and a mark. -/
private theorem beforeDigits_staticSymbol (unit : String) (index : Word) :
    beforeDigits (Location.staticSymbol unit index) =
      '_' :: (unit ++ "_static").toList.reverse := by
  have split : Location.staticSymbol unit index =
      unit ++ "_static" ++ "_" ++ index.toNat.repr := by
    have mark : "_static" ++ "_" = Location.staticMark := by decide
    rw [@String.append_assoc unit, mark]
    rfl
  rw [split, beforeDigits_append_repr]

/-- Different words have different texts. -/
theorem Word.text_injective : Function.Injective Word.text := by
  intro first second equal
  have numbers := congrArg (fun text => Nat.ofDigitChars 10 text.toList 0) equal
  simp only [Word.text, Nat.toList_repr] at numbers
  rw [Nat.ofDigitChars_toDigits (by decide) (by decide),
    Nat.ofDigitChars_toDigits (by decide) (by decide)] at numbers
  exact BitVec.eq_of_toNat_eq numbers

/-- The symbol of a static variable tells its unit and its index. -/
theorem Location.staticSymbol_inj {unit other : String} {index otherIndex : Word}
    (equal : Location.staticSymbol unit index = Location.staticSymbol other otherIndex) :
    unit = other ∧ index = otherIndex := by
  have fronts := congrArg beforeDigits equal
  rw [beforeDigits_staticSymbol, beforeDigits_staticSymbol, List.cons.injEq,
    List.reverse_inj, String.toList_inj, String.append_left_inj] at fronts
  obtain ⟨-, rfl⟩ := fronts
  rw [Location.staticSymbol, Location.staticSymbol, String.append_right_inj] at equal
  exact ⟨rfl, Word.text_injective equal⟩

/-- The purposes for which labels are synthesized. -/
def labelPurposes : List String := ["eq", "noteq", "gt", "notgt", "lt", "notlt", "return"]

/-- A synthesized label is never the symbol of a static variable: in front of the digits at their
ends, one has its purpose and the other has `static`. -/
theorem Spelled.ne_staticSymbol {unit : String} {line : Nat} {purpose label : String}
    (spelled : Spelled unit line purpose label) (known : purpose ∈ labelPurposes)
    (other : String) (index : Word) : label ≠ Location.staticSymbol other index := by
  obtain ⟨counter, rfl⟩ := spelled
  intro equal
  have fronts : '_' :: (unit ++ "_" ++ line.repr ++ "_" ++ purpose).toList.reverse =
      '_' :: (other ++ "_static").toList.reverse := by
    rw [← beforeDigits_append_repr _ counter, ← beforeDigits_staticSymbol other index, ← equal]
    rfl
  simp only [String.toList_append, List.reverse_append] at fronts
  simp only [labelPurposes, List.mem_cons, List.not_mem_nil, or_false] at known
  rcases known with rfl | rfl | rfl | rfl | rfl | rfl | rfl <;> simp at fronts

/-- A synthesized label has an underscore in it. -/
theorem Spelled.mem_underscore {unit : String} {line : Nat} {purpose label : String}
    (spelled : Spelled unit line purpose label) : '_' ∈ label.toList := by
  obtain ⟨counter, rfl⟩ := spelled
  simp [LabelSupply.spell]

/-- The symbol of a static variable has the form that declarations are checked against. -/
theorem Location.isStaticSymbol_staticSymbol (unit : String) (index : Word) :
    Location.isStaticSymbol (Location.staticSymbol unit index) unit = true := by
  have stripped : (unit ++ Location.staticMark).toList.isPrefixOf?
      (Location.staticSymbol unit index).toList = some (Nat.toDigits 10 index.toNat) := by
    rw [List.isPrefixOf?_eq_some_iff_append_eq]
    simp [Location.staticSymbol, Word.text, Nat.toList_repr]
  unfold Location.isStaticSymbol
  rw [stripped]
  have nonempty : Nat.toDigits 10 index.toNat ≠ [] := Nat.toDigits_ne_nil
  have digits : ∀ character ∈ Nat.toDigits 10 index.toNat, character.isDigit = true :=
    fun character member => Nat.isDigit_of_mem_toDigits (by decide) (by decide) member
  simp [nonempty, List.all_eq_true.mpr digits]

/-- A name that may be declared is neither a cell of the target nor a static of any unit. -/
theorem Lowering.checkDeclaration_eq_ok {target : Target} {symbol : String}
    {units : List String}
    (allowed : Lowering.checkDeclaration target symbol units = .ok ()) :
    target.isReserved symbol = false ∧
      ∀ unit ∈ units, ∀ index, symbol ≠ Location.staticSymbol unit index := by
  unfold Lowering.checkDeclaration at allowed
  split at allowed
  · cases allowed
  · rename_i free
    rw [Bool.or_eq_true, not_or, Bool.not_eq_true, Bool.not_eq_true, List.any_eq_false] at free
    refine ⟨free.1, ?_⟩
    rintro unit member index rfl
    exact free.2 unit member (Location.isStaticSymbol_staticSymbol unit index)

/-! ## Symbols in generated code -/

/-- The name to which a command may jump. -/
def Command.destination? : Command → Option String
  | .goto name | .ifGoto name | .call name _ => some name
  | _ => none

namespace Lowering

/-- Every scratch cell and every pointer of a frame is reserved. -/
theorem isReserved_frame (target : Target) : target.isReserved target.scratch.frame = true := by
  simp [Target.isReserved, Target.cells]

/-- The cell for return addresses is reserved on every target. -/
theorem isReserved_returnAddress (target : Target) :
    target.isReserved target.scratch.returnAddress = true := by
  simp [Target.isReserved, Target.cells]

/-- The code of a call loads cells, the called name, and the label of its return address. -/
theorem Calls.loadedSymbols {target : Target} {unit : String} {line : Nat} {name : String}
    {arguments : Word} {returnLabel : String} {block : Block}
    (calls : Calls target unit line name arguments returnLabel block) :
    ∀ symbol ∈ Program.loadedSymbols block,
      target.isReserved symbol = true ∨ symbol = name ∨ symbol = returnLabel := by
  obtain ⟨saved, reach, spelled⟩ := calls
  rename_i pointers offset
  have stackPointer := target.isReserved_stackPointer
  have locals := Target.isReserved_pointer saved.locals
  have argument := Target.isReserved_pointer saved.argument
  have this := Target.isReserved_pointer saved.this
  have that := Target.isReserved_pointer saved.that
  have symbols : Program.loadedSymbols (call target pointers name offset returnLabel) =
      [returnLabel, target.stackPointer, pointers.locals, target.stackPointer,
        pointers.argument, target.stackPointer, pointers.this, target.stackPointer,
        pointers.that, target.stackPointer, target.stackPointer, pointers.argument,
        target.stackPointer, pointers.locals, name] := rfl
  rw [symbols]
  simp [stackPointer, locals, argument, this, that]

/-- The code of a return loads cells only. -/
theorem isReserved_of_mem_ret {target : Target} {pointers : FramePointers}
    (restored : pointers.Address target) :
    ∀ symbol ∈ Program.loadedSymbols (ret target pointers), target.isReserved symbol = true := by
  have stackPointer := target.isReserved_stackPointer
  have frame := isReserved_frame target
  have returnAddress := isReserved_returnAddress target
  have locals := Target.isReserved_pointer restored.locals
  have argument := Target.isReserved_pointer restored.argument
  have this := Target.isReserved_pointer restored.this
  have that := Target.isReserved_pointer restored.that
  have symbols : Program.loadedSymbols (ret target pointers) =
      [pointers.locals, target.scratch.frame, target.scratch.returnAddress,
        target.stackPointer, pointers.argument, pointers.argument, target.stackPointer,
        target.scratch.frame, pointers.that, target.scratch.frame, pointers.this,
        target.scratch.frame, pointers.argument, target.scratch.frame, pointers.locals,
        target.scratch.returnAddress] := rfl
  rw [symbols]
  simp [stackPointer, frame, returnAddress, locals, argument, this, that]

/-- A location names at most one symbol: a pointer, which is reserved, or a static of the unit. -/
theorem loadedSymbols_fetch {target : Target} {unit : String} {segment : Segment} {index : Word}
    {location : Location} (resolves : Location.Resolves target unit segment index location) :
    ∀ symbol ∈ Program.loadedSymbols (fetch location), target.isReserved symbol = true ∨
      segment = .static ∧ symbol = Location.staticSymbol unit index := by
  cases resolves with
  | constant => simp [fetch, Program.loadedSymbols, Instruction.assign]
  | static => simp [fetch, Program.loadedSymbols, Instruction.assign]
  | fixed addressed reachable => simp [fetch, Program.loadedSymbols, Instruction.assign]
  | indirect addressed =>
    rename_i pointer
    have symbols : Program.loadedSymbols (fetch (.indirect pointer index)) = [pointer] := by
      simp only [fetch]
      split <;> rfl
    rw [symbols]
    simp [Target.isReserved_pointer addressed]

/-- Two blocks load the symbols that each of them loads. -/
private theorem loadedSymbols_append (first second : Block) :
    Program.loadedSymbols (first ++ second) =
      Program.loadedSymbols first ++ Program.loadedSymbols second :=
  List.filterMap_append

/-- The symbols that generated code loads: cells, statics of its unit, and code symbols. -/
theorem Lowers.loadedSymbols {target : Target} {unit : String} {line : Nat} {command : Command}
    {issued : List String} {block : Block} (lowers : Lowers target unit line command issued block) :
    ∀ symbol ∈ Program.loadedSymbols block,
      target.isReserved symbol = true ∨
        (∃ index, (command = .push .static index ∨ command = .pop .static index) ∧
          symbol = Location.staticSymbol unit index) ∨
        command.destination? = some symbol ∨ symbol ∈ issued := by
  have stackPointer := target.isReserved_stackPointer
  have frame := isReserved_frame target
  have pushed : Program.loadedSymbols (pushData target) = [target.stackPointer] := rfl
  cases lowers with
  | push resolves =>
    intro symbol member
    rw [loadedSymbols_append, List.mem_append] at member
    rcases member with member | member
    · rcases loadedSymbols_fetch resolves symbol member with reserved | ⟨rfl, rfl⟩
      · exact Or.inl reserved
      · exact Or.inr (Or.inl ⟨_, Or.inl rfl, rfl⟩)
    · rw [pushed, List.mem_singleton] at member
      exact Or.inl (member ▸ stackPointer)
  | popFirst resolves =>
    rename_i pointer
    cases resolves with
    | indirect addressed =>
      have symbols : Program.loadedSymbols (popData target ++
          [.symbol pointer, Instruction.assign "A" "M", Instruction.assign "M" "D"]) =
          [target.stackPointer, pointer] := rfl
      rw [symbols]
      simp [stackPointer, Target.isReserved_pointer addressed]
  | popLater resolves later =>
    rename_i pointer distance
    cases resolves with
    | indirect addressed =>
      simp [Program.loadedSymbols, popData, Instruction.assign, stackPointer, frame,
        Target.isReserved_pointer addressed]
  | popAbsolute resolves =>
    simp [Program.loadedSymbols, popData, Instruction.assign, stackPointer]
  | popSymbol resolves =>
    cases resolves
    simp [Program.loadedSymbols, popData, Instruction.assign, stackPointer]
  | binary =>
    simp [Program.loadedSymbols, Lowering.binary, popData, Instruction.assign, stackPointer]
  | unary => simp [Program.loadedSymbols, Lowering.unary, Instruction.assign, stackPointer]
  | compare trueSpelled doneSpelled =>
    simp [Program.loadedSymbols, Lowering.compare, popData, Instruction.assign, Instruction.branch,
      Instruction.jump, stackPointer]
  | label => simp [Program.loadedSymbols]
  | goto =>
    simp [Program.loadedSymbols, Lowering.goto, Instruction.jump, Instruction.branch,
      Command.destination?]
  | ifGoto =>
    simp [Program.loadedSymbols, Lowering.ifGoto, popData, Instruction.assign, Instruction.branch,
      Command.destination?, stackPointer]
  | function =>
    rename_i name locals
    intro symbol member
    have zeros : symbol ∈ Program.loadedSymbols (pushZero target) := by
      simp only [Program.loadedSymbols, Lowering.function, List.mem_filterMap, List.mem_cons,
        List.mem_flatten, List.mem_replicate] at member ⊢
      obtain ⟨instruction, rfl | ⟨block, ⟨-, rfl⟩, inside⟩, loaded⟩ := member
      · cases loaded
      · exact ⟨instruction, inside, loaded⟩
    have symbols : Program.loadedSymbols (pushZero target) = [target.stackPointer] := rfl
    rw [symbols, List.mem_singleton] at zeros
    exact Or.inl (zeros ▸ stackPointer)
  | call calls =>
    intro symbol member
    rcases calls.loadedSymbols symbol member with reserved | rfl | rfl
    · exact Or.inl reserved
    · exact Or.inr (Or.inr (Or.inl rfl))
    · exact Or.inr (Or.inr (Or.inr List.mem_cons_self))
  | ret restored =>
    exact fun symbol member => Or.inl (isReserved_of_mem_ret restored symbol member)

/-- Every issued label is spelled for one of the known purposes. -/
theorem Lowers.spelled_issued {target : Target} {unit : String} {line : Nat} {command : Command}
    {issued : List String} {block : Block} (lowers : Lowers target unit line command issued block) :
    ∀ label ∈ issued, ∃ purpose ∈ labelPurposes, Spelled unit line purpose label := by
  cases lowers with
  | compare trueSpelled doneSpelled =>
    rename_i comparison whenTrue done
    simp only [List.mem_cons, List.not_mem_nil, or_false, forall_eq_or_imp, forall_eq]
    refine ⟨⟨_, ?_, trueSpelled⟩, ⟨_, ?_, doneSpelled⟩⟩
    · cases comparison <;> decide
    · cases comparison <;> decide
  | call calls =>
    obtain ⟨saved, reach, spelled⟩ := calls
    simpa using ⟨"return", by decide, spelled⟩
  | _ => simp

end Lowering

/-! ## Whole jobs -/

/-- Annotations load no symbols. -/
theorem Row.loadedSymbols_block {target : Target} (annotate : Bool) (row : Row target) :
    Program.loadedSymbols (row.block annotate) = Program.loadedSymbols row.code := by
  unfold Row.block
  split
  · rfl
  · rfl

/-- Startup code loads cells, the entry function, and the label of its return address. -/
theorem Opening.loadedSymbols_block {target : Target} (opening : Opening target) :
    ∀ symbol ∈ Program.loadedSymbols opening.block,
      target.isReserved symbol = true ∨ symbol = target.bootstrap.entry ∨
        symbol = opening.returnLabel := by
  intro symbol member
  have symbols : Program.loadedSymbols opening.block =
      target.stackPointer :: Program.loadedSymbols opening.code := rfl
  rw [symbols] at member
  rcases List.mem_cons.mp member with rfl | member
  · exact Or.inl target.isReserved_stackPointer
  · exact opening.calls.loadedSymbols symbol member

/-- Every issued label of a listing is spelled for one of the known purposes. -/
theorem Listing.spelled_issued {job : Job} (listing : Listing job) :
    ∀ label ∈ listing.issued, ∃ unit line, ∃ purpose ∈ labelPurposes,
      Spelled unit line purpose label := by
  intro label member
  unfold Listing.issued at member
  rcases List.mem_append.mp member with member | member
  · obtain ⟨⟨returnLabel, code, calls⟩, -, rfl⟩ := List.mem_map.mp member
    obtain ⟨saved, reach, spelled⟩ := calls
    exact ⟨_, _, "return", by decide, spelled⟩
  · obtain ⟨row, -, member⟩ := List.mem_flatMap.mp member
    exact ⟨_, _, row.lowers.spelled_issued label member⟩

/-- No label of a listing is the symbol of a static variable of one of the units. -/
theorem Listing.label_ne_staticSymbol {job : Job} (listing : Listing job) {label : String}
    (member : label ∈ Block.labels listing.blocks.flatten) {unit : SourceUnit}
    (inJob : unit ∈ job.units) (index : Word) :
    label ≠ Location.staticSymbol unit.name index := by
  rw [listing.labels_perm.mem_iff, List.mem_append] at member
  rcases member with declared | issued
  · have allowed := (Lowering.checkDeclaration_eq_ok (listing.allowed label declared)).2
    exact allowed unit.name (List.mem_map_of_mem inJob) index
  · obtain ⟨_, _, purpose, known, spelled⟩ := listing.spelled_issued label issued
    exact spelled.ne_staticSymbol known unit.name index

/-- No declared name of a listing is a cell of the target. -/
theorem Listing.isReserved_declared {job : Job} (listing : Listing job) {name : String}
    (declared : name ∈ declaredNames listing.commands) : job.target.isReserved name = false :=
  (Lowering.checkDeclaration_eq_ok (listing.allowed name declared)).1

/-- The cells of the usual target have no underscore in their names, and issued labels do. -/
theorem Listing.isReserved_issued {job : Job} (listing : Listing job)
    (usual : job.target = Target.hack) {label : String} (issued : label ∈ listing.issued) :
    job.target.isReserved label = false := by
  obtain ⟨_, _, purpose, -, spelled⟩ := listing.spelled_issued label issued
  have plain : ∀ cell ∈ Target.hack.cells, '_' ∉ cell.toList := by decide
  rw [usual, Bool.eq_false_iff]
  intro reserved
  exact plain label (Target.isReserved_iff.mp reserved) spelled.mem_underscore

/-- The symbols that a program loads are cells of the target, statics of their commands' units,
and code symbols: destinations of their commands, the entry of the startup code, and labels
synthesized in the same block. No label is spelled like a static of a unit, no declared one is a
cell, and on the usual target no synthesized one is. -/
theorem Job.no_label_shadows_cell {job : Job} {commands : List PlacedCommand}
    {blocks : List Block} (parsed : job.commands = .ok commands)
    (lowered : job.blocks = .ok blocks) :
    blocks.length = job.startupCount + commands.length ∧
      (∀ block ∈ blocks.take job.startupCount, ∀ symbol ∈ Program.loadedSymbols block,
        job.target.isReserved symbol = true ∨ symbol = job.target.bootstrap.entry ∨
          symbol ∈ Block.labels block) ∧
      (∀ entry ∈ commands.zip (blocks.drop job.startupCount),
        ∀ symbol ∈ Program.loadedSymbols entry.2,
          job.target.isReserved symbol = true ∨
            (∃ index, (entry.1.command.value = .push .static index ∨
                entry.1.command.value = .pop .static index) ∧
              symbol = Location.staticSymbol entry.1.unit index) ∨
            entry.1.command.value.destination? = some symbol ∨
            symbol ∈ entry.1.synthesized entry.2) ∧
      (∀ label ∈ Block.labels blocks.flatten, ∀ unit ∈ job.units, ∀ index,
        label ≠ Location.staticSymbol unit.name index) ∧
      (∀ name ∈ declaredNames commands, job.target.isReserved name = false) ∧
      (job.target = Target.hack → ∀ label ∈ job.synthesizedLabels commands blocks,
        job.target.isReserved label = false) := by
  obtain ⟨listing, rfl⟩ := Job.exists_listing lowered
  obtain rfl := listing.commands_eq parsed
  rw [listing.synthesizedLabels_eq_issued, listing.take_blocks, listing.drop_blocks,
    listing.zip_commands_bodies]
  refine ⟨listing.length_blocks, ?_, ?_, ?_, ?_, ?_⟩
  · intro block member symbol loaded
    obtain ⟨opening, -, rfl⟩ := List.mem_map.mp member
    rw [opening.labels_block, List.mem_singleton]
    exact opening.loadedSymbols_block symbol loaded
  · intro entry member symbol loaded
    obtain ⟨row, -, rfl⟩ := List.mem_map.mp member
    rw [row.loadedSymbols_block] at loaded
    rw [row.synthesized_block]
    exact row.lowers.loadedSymbols symbol loaded
  · exact fun label member unit inJob index => listing.label_ne_staticSymbol member inJob index
  · exact fun name declared => listing.isReserved_declared declared
  · exact fun usual label issued => listing.isReserved_issued usual issued

/-- A job whose unit is named like a cell and declares a label in the style of a static. -/
def disguisedCells : Job where
  units := [⟨"SP", "label SP_static\npush static 3\ngoto SP_static"⟩]

/-- The commands of that job. -/
def disguisedCellsCommands : List PlacedCommand :=
  [⟨"SP", 1, ⟨.label "SP_static", ⟨0, 15⟩⟩⟩, ⟨"SP", 2, ⟨.push .static 3, ⟨16, 29⟩⟩⟩,
    ⟨"SP", 3, ⟨.goto "SP_static", ⟨30, 44⟩⟩⟩]

/-- The blocks of that job. -/
def disguisedCellsBlocks : List Block :=
  [[.label "SP_static"],
    Lowering.fetch (.symbol "SP_static_3") ++ Lowering.pushData Target.hack,
    Lowering.goto "SP_static"]

/-- The label of that job is neither a cell nor a static of its unit. -/
theorem disguisedCells_label_apart :
    disguisedCells.commands = .ok disguisedCellsCommands ∧
      disguisedCells.blocks = .ok disguisedCellsBlocks ∧
      Block.labels disguisedCellsBlocks.flatten = ["SP_static"] ∧
      disguisedCells.target.isReserved "SP_static" = false ∧
      ∀ index, "SP_static" ≠ Location.staticSymbol "SP" index := by
  have parsed : disguisedCells.commands = .ok disguisedCellsCommands := by decide +kernel
  have lowered : disguisedCells.blocks = .ok disguisedCellsBlocks := by decide +kernel
  obtain ⟨-, -, -, statics, declared, -⟩ := Job.no_label_shadows_cell parsed lowered
  exact ⟨parsed, lowered, by decide, declared _ (by decide),
    statics _ (by decide) _ List.mem_cons_self⟩

end StackLowering
