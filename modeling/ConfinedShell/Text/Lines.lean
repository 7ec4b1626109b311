/-!
# Lines of a text

A line feed ends a line, and a carriage return right before it belongs to the line's end. A text may
stop without a line feed; what stands after the last one is then a line of its own, unless it is
empty. The two readers differ in that last, unended line alone: `lines` keeps it as it stands, and
`rows`, which lays a text out on a screen, takes a carriage return off it as well.
-/

set_option autoImplicit false

namespace ConfinedShell.Text

/-- Takes one carriage return off the end. -/
def chopReturn (line : List Char) : List Char :=
  if line.getLast? = some '\r' then line.dropLast else line

/-- The lines of a list of characters; `unended` is applied to a last line that no line feed ends. -/
def linesWith (unended : List Char → List Char) (cs : List Char) : List (List Char) :=
  let pieces := cs.splitOnP (· == '\n')
  pieces.dropLast.map chopReturn ++
    match pieces.getLast? with
    | none | some [] => []
    | some last => [unended last]

/-- The lines of a file's text. -/
def lines (s : String) : List String :=
  (linesWith id s.toList).map String.ofList

/-- The rows that a text takes on the screen. -/
def rows (s : String) : List String :=
  (linesWith chopReturn s.toList).map String.ofList

/-- Drops every line feed and carriage return from the end. -/
def dropLineEnd (s : String) : String :=
  String.ofList ((s.toList.reverse.dropWhile fun c => c == '\r' || c == '\n').reverse)

example : lines "a\r\nb\n\nc\r" = ["a", "b", "", "c\r"] := by decide
example : rows "a\r\nb\n\nc\r" = ["a", "b", "", "c"] := by decide
example : lines "" = [] ∧ rows "\n" = [""] ∧ rows "\r" = [""] := by decide

end ConfinedShell.Text
