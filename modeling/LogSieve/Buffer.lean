import LogSieve.Text.Basic

/-!
# Buffers

A text to write into, with the position where the next writing goes. Writing replaces what stands
there already. `clear_eq` says that a cleared buffer is as good as new.
-/

namespace LogSieve

structure Buffer where
  contents : Text := []
  position : Nat := 0
  deriving DecidableEq, Repr, Inhabited

namespace Buffer

/-- Writes a text at the position and moves behind it. Zeros fill a gap in front of it. -/
def write (b : Buffer) (t : Text) : Buffer :=
  { contents :=
      Text.padRight '\x00' b.position (b.contents.take b.position) ++ t ++
        b.contents.drop (b.position + t.length)
    position := b.position + t.length }

/-- Moves back to the start. -/
def rewind (b : Buffer) : Buffer := { b with position := 0 }

/-- Cuts off what lies behind the position. -/
def truncate (b : Buffer) : Buffer := { b with contents := b.contents.take b.position }

def clear (b : Buffer) : Buffer := b.rewind.truncate

@[simp] theorem clear_eq (b : Buffer) : b.clear = {} := by simp [clear, rewind, truncate]

/-- What is written into an empty buffer is all that stands there. -/
@[simp] theorem write_empty (t : Text) : ({} : Buffer).write t = ⟨t, t.length⟩ := by
  simp [write, Text.padRight, Text.fillFor]

end Buffer

end LogSieve
