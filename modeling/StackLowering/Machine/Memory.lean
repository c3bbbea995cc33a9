import StackLowering.Word

/-!
# Memory

The memory has one cell for every word. It is a complete binary tree whose levels
follow the binary digits of the address, lowest digit first, so that reading and
writing take one step per digit and a written memory shares the rest of the tree.
The laws `read_write` and `Memory.ext` are its whole interface.
-/

namespace StackLowering

/-- Cells in a tree of some depth: those with even addresses, and those with odd ones. -/
inductive Bank : Nat → Type where
  | cell (value : Word) : Bank 0
  | fork {depth : Nat} (even odd : Bank depth) : Bank (depth + 1)

namespace Bank

/-- The number of cells of a bank. -/
def size : (depth : Nat) → Nat
  | 0 => 1
  | depth + 1 => 2 * size depth

/-- A bank of zeros. -/
def zeros : (depth : Nat) → Bank depth
  | 0 => .cell 0
  | depth + 1 => let half := zeros depth; .fork half half

/-- The value of a cell. -/
def read : {depth : Nat} → Bank depth → Nat → Word
  | _, .cell value, _ => value
  | _, .fork even odd, address =>
    if address % 2 = 0 then even.read (address / 2) else odd.read (address / 2)

/-- The bank in which one cell has a new value. -/
def write : {depth : Nat} → Bank depth → Nat → Word → Bank depth
  | _, .cell _, _, value => .cell value
  | _, .fork even odd, address, value =>
    if address % 2 = 0 then .fork (even.write (address / 2) value) odd
    else .fork even (odd.write (address / 2) value)

/-- A write to a bank is seen at the address written and nowhere else. -/
theorem read_write {depth : Nat} (bank : Bank depth) {written address : Nat} (value : Word)
    (writtenFits : written < size depth) (fits : address < size depth) :
    (bank.write written value).read address =
      if address = written then value else bank.read address := by
  induction bank generalizing written address with
  | cell _ =>
    have : address = written := by simp only [size] at fits writtenFits; omega
    simp [write, read, this]
  | @fork depth even odd evenHypothesis oddHypothesis =>
    simp only [size] at fits writtenFits
    have same : address = written ↔ address % 2 = written % 2 ∧ address / 2 = written / 2 := by
      omega
    have evenLaw := @evenHypothesis (written / 2) (address / 2) (by omega) (by omega)
    have oddLaw := @oddHypothesis (written / 2) (address / 2) (by omega) (by omega)
    rcases Nat.mod_two_eq_zero_or_one written with writtenParity | writtenParity <;>
      rcases Nat.mod_two_eq_zero_or_one address with parity | parity <;>
      simp [write, read, writtenParity, parity, same, evenLaw, oddLaw]

/-- Two banks with the same cells are equal. -/
theorem ext {depth : Nat} {first second : Bank depth}
    (same : ∀ address, address < size depth → first.read address = second.read address) :
    first = second := by
  induction first with
  | cell value =>
    cases second with
    | cell other => exact congrArg Bank.cell (same 0 (by decide))
  | @fork depth even odd evenHypothesis oddHypothesis =>
    cases second with
    | fork otherEven otherOdd =>
      have evens : even = otherEven := evenHypothesis fun address fits => by
        have := same (2 * address) (by simp only [size]; omega)
        simpa [read] using this
      have odds : odd = otherOdd := oddHypothesis fun address fits => by
        have := same (2 * address + 1) (by simp only [size]; omega)
        have half : (2 * address + 1) / 2 = address := by omega
        simpa [read, half] using this
      rw [evens, odds]

end Bank

/-- The memory of the machine: one cell for every word. -/
structure Memory where
  bank : Bank 16

namespace Memory

/-- A memory of zeros. -/
def zeros : Memory := ⟨Bank.zeros 16⟩

/-- The value of a cell. -/
def read (memory : Memory) (address : Word) : Word := memory.bank.read address.toNat

/-- The memory in which one cell has a new value. -/
def write (memory : Memory) (address value : Word) : Memory :=
  ⟨memory.bank.write address.toNat value⟩

/-- A write is seen in the cell written and nowhere else. -/
theorem read_write (memory : Memory) (written address value : Word) :
    (memory.write written value).read address =
      if address = written then value else memory.read address := by
  simp only [read, write]
  rw [Bank.read_write _ _ written.isLt address.isLt]
  simp [BitVec.toNat_inj]

/-- A value that was written is read back. -/
@[simp] theorem read_write_same (memory : Memory) (address value : Word) :
    (memory.write address value).read address = value := by
  simp [read_write]

/-- A write leaves all other cells as they are. -/
theorem read_write_other (memory : Memory) {written address : Word} (value : Word)
    (other : address ≠ written) :
    (memory.write written value).read address = memory.read address := by
  simp [read_write, other]

/-- Two memories with the same cells are equal. -/
theorem ext {first second : Memory} (same : ∀ address, first.read address = second.read address) :
    first = second := by
  cases first with
  | mk bank =>
    cases second with
    | mk other =>
      refine congrArg Memory.mk (Bank.ext fun address fits => ?_)
      have equal := same (BitVec.ofNat 16 address)
      have position : (BitVec.ofNat 16 address).toNat = address := by
        rw [BitVec.toNat_ofNat]
        exact Nat.mod_eq_of_lt fits
      simp only [read, position] at equal
      exact equal

/-- Writes values into consecutive cells. -/
def writeAll (memory : Memory) : Word → List Word → Memory
  | _, [] => memory
  | address, value :: rest => (memory.write address value).writeAll (address + 1) rest

/-- The values of consecutive cells. -/
def readAll (memory : Memory) (address : Word) : Nat → List Word
  | 0 => []
  | count + 1 => memory.read address :: memory.readAll (address + 1) count

end Memory

end StackLowering
