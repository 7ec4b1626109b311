/-!
# Arrow keys

An arrow key sends an escape character, `[` or `O`, and a letter: `A` for up and `B` for down. A line
counts as arrows when it is made of such sequences alone, at least one of them.
-/

set_option autoImplicit false

namespace ConfinedShell

/-- The two arrow keys that a line can hold. -/
inductive Arrow where
  | up
  | down
  deriving DecidableEq

namespace Arrow

/-- The arrows of a list of characters made of their sequences alone. -/
def parseAll? : List Char → Option (List Arrow)
  | [] => some []
  | '\x1b' :: bracket :: letter :: rest =>
    if bracket = '[' ∨ bracket = 'O' then
      match letter with
      | 'A' => (parseAll? rest).map (up :: ·)
      | 'B' => (parseAll? rest).map (down :: ·)
      | _ => none
    else none
  | _ => none

/-- The arrows of a line; a line that holds anything else, or nothing, has none. -/
def parse? (line : String) : Option (List Arrow) :=
  (parseAll? line.toList).filter fun arrows => !arrows.isEmpty

end Arrow

end ConfinedShell
