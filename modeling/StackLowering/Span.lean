/-!
# Spans

A span is a half-open range of character indices. Lines are read on their own,
so a span found inside a line is shifted by the line's offset to become a span
of the whole source.
-/

namespace StackLowering

/-- The characters from index `start` up to, and not including, index `stop`. -/
structure Span where
  start : Nat
  stop : Nat
deriving DecidableEq, Repr

namespace Span

/-- The empty span at the beginning of a source. -/
def origin : Span := ⟨0, 0⟩

/-- The span `offset` characters further on. -/
def shift (span : Span) (offset : Nat) : Span :=
  ⟨span.start + offset, span.stop + offset⟩

/-- A span starts further on by its shift. -/
@[simp] theorem start_shift (span : Span) (offset : Nat) :
    (span.shift offset).start = span.start + offset := rfl

/-- A span stops further on by its shift. -/
@[simp] theorem stop_shift (span : Span) (offset : Nat) :
    (span.shift offset).stop = span.stop + offset := rfl

/-- Whether the character at `index` lies in the span. -/
def covers (span : Span) (index : Nat) : Bool :=
  span.start ≤ index && index < span.stop

end Span

/-- A value together with the characters it was read from. -/
structure Located (α : Type) where
  value : α
  span : Span
deriving DecidableEq, Repr

namespace Located

/-- The same value, read from a line that begins `offset` characters further on. -/
def shift {α : Type} (located : Located α) (offset : Nat) : Located α :=
  ⟨located.value, located.span.shift offset⟩

end Located

end StackLowering
