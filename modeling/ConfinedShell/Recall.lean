/-!
# Recalling lines

A cursor over the lines processed so far. It stands behind the newest line after each new one; a step up
goes to the line before and stays on the oldest, a step down goes to the line after and ends behind the
newest, where the recalled line is empty. Without lines there is nothing to recall.
-/

set_option autoImplicit false

namespace ConfinedShell

/-- **A cursor over lines**, which never stands beyond the place behind the newest. -/
structure Recall where
  entries : List String
  position : Nat
  position_le : position ≤ entries.length

namespace Recall

/-- No lines yet. -/
def empty : Recall :=
  ⟨[], 0, Nat.le_refl 0⟩

/-- A new line; the cursor goes behind it. -/
def record (cursor : Recall) (line : String) : Recall :=
  ⟨cursor.entries ++ [line], (cursor.entries ++ [line]).length, Nat.le_refl _⟩

/-- The line at the cursor; behind the newest it is empty, and without lines there is none. -/
def current? (cursor : Recall) : Option String :=
  if cursor.entries.isEmpty then none else some (cursor.entries.getD cursor.position "")

/-- A step to the line before. -/
def up (cursor : Recall) : Recall :=
  ⟨cursor.entries, cursor.position - 1, Nat.le_trans (Nat.sub_le _ _) cursor.position_le⟩

/-- A step to the line after. -/
def down (cursor : Recall) : Recall :=
  ⟨cursor.entries, min (cursor.position + 1) cursor.entries.length, Nat.min_le_right _ _⟩

end Recall

end ConfinedShell
