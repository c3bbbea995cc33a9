import StackLowering.Proofs.Lowering.Effects

/-!
# Cells after pushes, calls and returns

What the operations of the stack do to single cells, while the stack is above the
pointers and does not wrap. Values that are pushed one after the other lie in
consecutive cells; a call saves five of them and moves three pointers; a return
restores what the call saved. Cells are compared by their addresses as numbers.
-/

namespace StackLowering

/-- Cells above the first sixteen are no scratch cells. -/
theorem not_mem_scratchCells {cell : Word} (above : 16 ≤ cell.toNat) : cell ∉ scratchCells := by
  intro member
  simp only [scratchCells, List.mem_cons, List.not_mem_nil, or_false] at member
  rcases member with rfl | rfl <;> exact absurd above (by decide)

/-- A positive word can be decremented without wrapping. -/
theorem toNat_sub_one {word : Word} (positive : 0 < word.toNat) :
    (word - 1).toNat = word.toNat - 1 :=
  BitVec.toNat_sub_of_le positive

/-- Going up within the words, one does not come to zero. -/
theorem add_ofNat_ne_zero {word : Word} {count : Nat} (positive : 0 < word.toNat)
    (fits : word.toNat + count < 65536) : word + BitVec.ofNat 16 count ≠ 0 := by
  intro zero
  have sum := congrArg BitVec.toNat zero
  rw [BitVec.toNat_add, BitVec.toNat_ofNat] at sum
  change _ = 0 at sum
  omega

namespace Memory

/-- Pushes some values, the first one first. -/
def pushAll (memory : Memory) (values : List Word) : Memory := values.foldl push memory

/-- The first value is pushed first. -/
theorem pushAll_cons (memory : Memory) (value : Word) (values : List Word) :
    memory.pushAll (value :: values) = (memory.push value).pushAll values := rfl

/-- Pushing zeros is pushing that many values. -/
theorem pushZeros_eq_pushAll (memory : Memory) (count : Nat) :
    memory.pushZeros count = memory.pushAll (List.replicate count 0) := by
  induction count generalizing memory with
  | zero => rfl
  | succ count inductionHypothesis =>
    rw [List.replicate_succ, pushAll_cons]
    exact inductionHypothesis _

/-- A pushed value is where the stack ended, and other cells keep their values. -/
theorem read_push (memory : Memory) (value : Word) {cell : Word} (other : cell ≠ 0) :
    (memory.push value).read cell =
      if cell = memory.read 0 then value else memory.read cell := by
  unfold push
  dsimp only
  rw [read_write_other _ _ other, read_write]

/-- What consecutive pushes do to the cells of a memory. -/
structure Pushed (memory : Memory) (values : List Word) (after : Memory) : Prop where
  pointer : (after.read 0).toNat = (memory.read 0).toNat + values.length
  other : ∀ cell : Word, cell ≠ 0 →
    cell.toNat < (memory.read 0).toNat ∨ (memory.read 0).toNat + values.length ≤ cell.toNat →
    after.read cell = memory.read cell
  values : ∀ (cell : Word) (index : Nat) (value : Word),
    cell.toNat = (memory.read 0).toNat + index → values[index]? = some value →
    after.read cell = value

/-- Values pushed one after the other lie in consecutive cells. -/
theorem pushed_pushAll {memory : Memory} (values : List Word)
    (above : 0 < (memory.read 0).toNat)
    (fits : (memory.read 0).toNat + values.length < 65536) :
    Pushed memory values (memory.pushAll values) := by
  induction values generalizing memory with
  | nil =>
    refine ⟨rfl, fun _ _ _ => rfl, ?_⟩
    rintro cell index value - ⟨⟩
  | cons first rest inductionHypothesis =>
    rw [List.length_cons] at fits
    have nonzero : memory.read 0 ≠ 0 := by
      intro zero
      rw [zero] at above
      exact Nat.lt_irrefl 0 above
    have raised : ((memory.push first).read 0).toNat = (memory.read 0).toNat + 1 := by
      rw [Lowering.read_push_zero nonzero, BitVec.toNat_add]
      change ((memory.read 0).toNat + 1) % 65536 = _
      omega
    have later : Pushed (memory.push first) rest (memory.pushAll (first :: rest)) :=
      inductionHypothesis (by omega) (by omega)
    refine ⟨?_, ?_, ?_⟩
    · rw [later.pointer, raised, List.length_cons]
      omega
    · intro cell other apart
      rw [List.length_cons] at apart
      rw [later.other cell other (by omega), read_push memory first other, if_neg]
      rintro rfl
      omega
    · intro cell index value located found
      have other : cell ≠ 0 := by
        rintro rfl
        change 0 = _ at located
        omega
      cases index with
      | zero =>
        cases found
        rw [later.other cell other (by omega), read_push memory first other, if_pos]
        exact BitVec.eq_of_toNat_eq located
      | succ index =>
        exact later.values cell index value (by omega) (by simpa using found)

/-! ## Calls -/

/-- What a call does to the cells of a memory. -/
structure Entered (memory : Memory) (following arguments : Word) (after : Memory) : Prop where
  pointer : (after.read 0).toNat = (memory.read 0).toNat + 5
  locals : after.read 1 = after.read 0
  argument : after.read 2 = memory.read 0 - arguments
  saved : ∀ (cell : Word) (index : Nat) (value : Word),
    cell.toNat = (memory.read 0).toNat + index →
    [following, memory.read 1, memory.read 2, memory.read 3, memory.read 4][index]? = some value →
    after.read cell = value
  other : ∀ cell : Word, cell ∉ ([0, 1, 2] : List Word) →
    cell.toNat < (memory.read 0).toNat ∨ (memory.read 0).toNat + 5 ≤ cell.toNat →
    after.read cell = memory.read cell

/-- The five values that a call saves are those of the memory before it, if the stack is above the
pointers. -/
theorem saved_eq_pushAll {memory : Memory} (low : 5 ≤ (memory.read 0).toNat)
    (fits : (memory.read 0).toNat + 5 < 65536) (following : Word) :
    ((((memory.push following).pushCell 1).pushCell 2).pushCell 3).pushCell 4 =
      memory.pushAll [following, memory.read 1, memory.read 2, memory.read 3, memory.read 4] := by
  have next : ∀ (values : List Word) (cell : Word), values.length < 5 → cell ≠ 0 →
      cell.toNat < 5 →
      (memory.pushAll values).pushCell cell = memory.pushAll (values ++ [memory.read cell]) := by
    intro values cell few other pointer
    have pushed := pushed_pushAll values (show 0 < (memory.read 0).toNat by omega) (by omega)
    rw [pushCell, pushed.other cell other (Or.inl (by omega)), pushAll, pushAll, List.foldl_append]
    rfl
  have first : memory.push following = memory.pushAll [following] := rfl
  rw [first, next _ 1 (by simp) (by decide) (by decide), next _ 2 (by simp) (by decide) (by decide),
    next _ 3 (by simp) (by decide) (by decide), next _ 4 (by simp) (by decide) (by decide)]
  rfl

/-- A call saves the frame of the caller and moves the pointers. -/
theorem entered_enter {memory : Memory} (low : 5 ≤ (memory.read 0).toNat)
    (fits : (memory.read 0).toNat + 5 < 65536) (following arguments : Word) :
    Entered memory following arguments (memory.enter following arguments) := by
  have pushed := pushed_pushAll
    [following, memory.read 1, memory.read 2, memory.read 3, memory.read 4]
    (show 0 < (memory.read 0).toNat by omega) fits
  unfold enter
  dsimp only
  rw [saved_eq_pushAll low fits following]
  generalize memory.pushAll [following, memory.read 1, memory.read 2, memory.read 3,
    memory.read 4] = saved at pushed
  have pointer : saved.read 0 = memory.read 0 + 5 := by
    refine BitVec.eq_of_toNat_eq ?_
    rw [pushed.pointer, BitVec.toNat_add]
    change _ = ((memory.read 0).toNat + 5) % 65536
    simp only [List.length_cons, List.length_nil]
    omega
  have moved : ∀ cell : Word, cell ≠ 1 → cell ≠ 2 →
      ((saved.write 2 (saved.read 0 - arguments - 5)).copy 1 0).read cell = saved.read cell := by
    intro cell notLocals notArgument
    rw [copy, read_write_other _ _ notLocals, read_write_other _ _ notArgument]
  refine ⟨?_, ?_, ?_, ?_, ?_⟩
  · rw [moved 0 (by decide) (by decide)]
    exact pushed.pointer
  · rw [moved 0 (by decide) (by decide), copy, read_write_same, read_write_other _ _ (by decide)]
  · rw [copy, read_write_other _ _ (by decide), read_write_same, pointer]
    grind
  · intro cell index value located found
    rw [moved cell, pushed.values cell index value located found]
    · rintro rfl
      change 1 = _ at located
      omega
    · rintro rfl
      change 2 = _ at located
      omega
  · intro cell apart outside
    simp only [List.mem_cons, List.not_mem_nil, or_false, not_or] at apart
    rw [moved cell apart.2.1 apart.2.2, pushed.other cell apart.1 outside]

/-! ## Returns -/

/-- Cells from the fifth on hold no pointers. -/
theorem not_mem_pointers {cell : Word} (above : 5 ≤ cell.toNat) :
    cell ∉ ([0, 1, 2, 3, 4] : List Word) := by
  intro member
  simp only [List.mem_cons, List.not_mem_nil, or_false] at member
  rcases member with rfl | rfl | rfl | rfl | rfl <;> exact absurd above (by decide)

/-- A call leaves the cells between the pointers and the stack pointer alone. -/
theorem Entered.kept {memory after : Memory} {following arguments : Word}
    (entered : memory.Entered following arguments after) {cell : Word} (low : 16 ≤ cell.toNat)
    (below : cell.toNat < (memory.read 0).toNat) : after.read cell = memory.read cell := by
  refine entered.other cell (fun member => ?_) (Or.inl below)
  exact not_mem_pointers (show 5 ≤ cell.toNat by omega)
    (List.mem_append_left ([3, 4] : List Word) member)

/-- What a return does to the cells of a memory. -/
structure Left (memory after : Memory) : Prop where
  pointer : after.read 0 = memory.read 2 + 1
  result : after.read (memory.read 2) = memory.read (memory.read 0 - 1)
  locals : after.read 1 = memory.read (memory.read 1 - 4)
  argument : after.read 2 = memory.read (memory.read 1 - 3)
  this : after.read 3 = memory.read (memory.read 1 - 2)
  that : after.read 4 = memory.read (memory.read 1 - 1)
  other : ∀ cell : Word, cell ∉ ([0, 1, 2, 3, 4] : List Word) → cell ≠ memory.read 2 →
    after.read cell = memory.read cell

/-- Copies to the four segment pointers, from cells that are no pointers. -/
structure Restored (memory : Memory) (that this argument locals : Word) (after : Memory) :
    Prop where
  locals : after.read 1 = memory.read locals
  argument : after.read 2 = memory.read argument
  this : after.read 3 = memory.read this
  that : after.read 4 = memory.read that
  other : ∀ cell : Word, cell ∉ ([1, 2, 3, 4] : List Word) → after.read cell = memory.read cell

/-- A copied cell has the value of its source. -/
theorem read_copy_same (memory : Memory) (cell source : Word) :
    (memory.copy cell source).read cell = memory.read source := read_write_same ..

/-- Copying leaves all other cells as they are. -/
theorem read_copy_other (memory : Memory) {cell other : Word} (source : Word)
    (apart : other ≠ cell) : (memory.copy cell source).read other = memory.read other :=
  read_write_other _ _ apart

/-- Copies from outside of the pointers restore all four of them. -/
theorem restored_copies (memory : Memory) (that : Word) {this argument locals : Word}
    (fromThis : this ∉ ([0, 1, 2, 3, 4] : List Word))
    (fromArgument : argument ∉ ([0, 1, 2, 3, 4] : List Word))
    (fromLocals : locals ∉ ([0, 1, 2, 3, 4] : List Word)) :
    Restored memory that this argument locals
      ((((memory.copy 4 that).copy 3 this).copy 2 argument).copy 1 locals) := by
  have apart : ∀ {source pointer : Word}, source ∉ ([0, 1, 2, 3, 4] : List Word) →
      pointer ∈ ([0, 1, 2, 3, 4] : List Word) → source ≠ pointer := by
    rintro source _ apart member rfl
    exact apart member
  refine ⟨?_, ?_, ?_, ?_, ?_⟩
  · rw [read_copy_same, read_copy_other _ _ (apart fromLocals (by decide)),
      read_copy_other _ _ (apart fromLocals (by decide)),
      read_copy_other _ _ (apart fromLocals (by decide))]
  · rw [read_copy_other _ _ (by decide), read_copy_same,
      read_copy_other _ _ (apart fromArgument (by decide)),
      read_copy_other _ _ (apart fromArgument (by decide))]
  · rw [read_copy_other _ _ (by decide), read_copy_other _ _ (by decide), read_copy_same,
      read_copy_other _ _ (apart fromThis (by decide))]
  · rw [read_copy_other _ _ (by decide), read_copy_other _ _ (by decide),
      read_copy_other _ _ (by decide), read_copy_same]
  · intro cell kept
    simp only [List.mem_cons, List.not_mem_nil, or_false, not_or] at kept
    rw [read_copy_other _ _ kept.1, read_copy_other _ _ kept.2.1, read_copy_other _ _ kept.2.2.1,
      read_copy_other _ _ kept.2.2.2]

/-- A return stores its value over the arguments and restores what the call saved, if the frame is
above the arguments and these are above the pointers. -/
theorem left_leave {memory : Memory} (top : memory.read 0 - 1 ≠ 0)
    (low : 5 ≤ (memory.read 2).toNat)
    (ordered : (memory.read 2).toNat + 5 ≤ (memory.read 1).toNat) :
    Left memory memory.leave := by
  -- The saved cells are neither pointers nor the cell of the result.
  have saved : ∀ distance : Word, 1 ≤ distance.toNat → distance.toNat ≤ 4 →
      memory.read 1 - distance ∉ ([0, 1, 2, 3, 4] : List Word) ∧
        memory.read 1 - distance ≠ memory.read 2 := by
    intro distance least most
    have located : (memory.read 1 - distance).toNat = (memory.read 1).toNat - distance.toNat :=
      BitVec.toNat_sub_of_le (by rw [BitVec.le_def]; omega)
    refine ⟨not_mem_pointers (by omega), fun same => ?_⟩
    rw [same] at located
    omega
  have result := not_mem_pointers low
  have exposed : memory.drop.exposed = memory.read (memory.read 0 - 1) := by
    rw [Memory.exposed, read_drop_zero, read_drop_other _ top]
  have argument : memory.drop.read 2 = memory.read 2 := read_drop_other _ (by decide)
  have collapsed : ∀ cell : Word, cell ≠ 0 →
      ((memory.drop.write (memory.read 2) (memory.read (memory.read 0 - 1))).write 0
        (memory.read 2 + 1)).read cell =
      if cell = memory.read 2 then memory.read (memory.read 0 - 1) else memory.read cell := by
    intro cell other
    rw [read_write_other _ _ other, read_write]
    split
    · rfl
    · exact read_drop_other _ other
  have one := saved 1 (by decide) (by decide)
  have two := saved 2 (by decide) (by decide)
  have three := saved 3 (by decide) (by decide)
  have four := saved 4 (by decide) (by decide)
  have restored := restored_copies ((memory.drop.write (memory.read 2)
    (memory.read (memory.read 0 - 1))).write 0 (memory.read 2 + 1)) (memory.read 1 - 1) two.1
    three.1 four.1
  have apart : ∀ {cell : Word}, cell ∉ ([0, 1, 2, 3, 4] : List Word) → cell ≠ 0 := by
    rintro _ outside rfl
    exact outside List.mem_cons_self
  have kept : memory.read 2 ≠ 2 := fun same => absurd low (by rw [same]; decide)
  unfold leave
  dsimp only
  rw [exposed, argument, read_write_other _ _ kept.symm, argument]
  refine ⟨?_, ?_, ?_, ?_, ?_, ?_, ?_⟩
  · rw [restored.other 0 (by decide), read_write_same]
  · rw [restored.other _ (fun member => result (List.mem_cons_of_mem _ member)),
      collapsed _ (apart result), if_pos rfl]
  · rw [restored.locals, collapsed _ (apart four.1), if_neg four.2]
  · rw [restored.argument, collapsed _ (apart three.1), if_neg three.2]
  · rw [restored.this, collapsed _ (apart two.1), if_neg two.2]
  · rw [restored.that, collapsed _ (apart one.1), if_neg one.2]
  · intro cell outside other
    rw [restored.other _ (fun member => outside (List.mem_cons_of_mem _ member)),
      collapsed _ (apart outside), if_neg other]

end Memory

end StackLowering
