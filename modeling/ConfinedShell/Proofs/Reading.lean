import ConfinedShell.Proofs.Chronicle
import ConfinedShell.Proofs.TextLines
import ConfinedShell.Proofs.Utf8

/-!
# A file that is shown in three ways

`cat` hands the text of a file to the session, and there it is cut into rows; `head` and `tail` cut it into lines
themselves. What each of them adds to the transcript is said of every file that can be read and of every count
(`Session.added_cat`, `Session.added_head`, `Session.added_tail`).

**With a count that is great enough** `head` and `tail` show the same. They show the same as `cat` for any bytes but
those that end in a carriage return, which is taken off a row but not off a line (`Session.added_alike_iff`).
-/

set_option autoImplicit false

namespace ConfinedShell

/-- The text of a file is that of its bytes. -/
theorem Resolved.readText_ok {path : Resolved} {tree : FileTree} {bytes : Text.Bytes}
    (read : tree.readFile path.physical = .ok bytes) : path.readText tree = .ok (Text.decodeLossy bytes) := by
  rw [readText, read]
  rfl

/-! ## Commands that show a file -/

namespace Commands

variable {around : Surroundings} {scene : Scene} {file count text : String} {path : Resolved} {n : Nat}

theorem readFile_ok (found : around.sandbox.resolve scene.tree scene.cwd file = .ok path)
    (read : path.readText scene.tree = .ok text) : readFile around file scene = .ok text scene :=
  (Action.bind_of_ok (Action.resolve_ok found)).trans (Action.query_ok read)

/-- The arguments of a command that shows some lines of a file. -/
theorem countAndFile_ok (info : CommandInfo) (counted : Text.count? count = some n) :
    countAndFile info ["-n", count, file] = pure (n, file) := by
  rw [countAndFile, counted]

/-- A file that is read is shown whole, -/
theorem cat_ok (read : readFile around file scene = .ok text scene) :
    cat.run around [file] scene = .ok (.text text) scene :=
  Action.bind_of_ok read

/-- or its first lines are, -/
theorem head_ok (counted : Text.count? count = some n) (read : readFile around file scene = .ok text scene) :
    head.run around ["-n", count, file] scene = .ok (linesOutput ((Text.lines text).take n)) scene := by
  rw [head]
  dsimp only
  rw [countAndFile_ok _ counted, pure_bind]
  exact Action.bind_of_ok read

/-- or its last ones. -/
theorem tail_ok (counted : Text.count? count = some n) (read : readFile around file scene = .ok text scene) :
    tail.run around ["-n", count, file] scene =
      .ok (linesOutput ((Text.lines text).drop ((Text.lines text).length - n))) scene := by
  rw [tail]
  dsimp only
  rw [countAndFile_ok _ counted, pure_bind]
  exact Action.bind_of_ok read

theorem shown_linesOutput (lines : List String) : (linesOutput lines).shown = lines := by
  cases lines <;> rfl

theorem linesOutput_ne_clear (lines : List String) : linesOutput lines ≠ .clear := by
  cases lines <;> exact nofun

end Commands

/-! ## What a line adds to the transcript -/

namespace Session

variable {σ : Type} {session : Session σ} {now : Moment} {line name file count suffix : String}
  {arguments : List String} {bytes : Text.Bytes} {n : Nat}

/-- **What a line adds to the transcript** behind its echo. -/
def added (session : Session σ) (now : Moment) (line : String) : List String :=
  (session.process now line).transcript.drop (session.transcript.length + 1)

/-- A file **can be read** in a session when its name leads to one that holds the bytes. -/
def Reads (session : Session σ) (file : String) (bytes : Text.Bytes) : Prop :=
  ∃ path, session.sandbox.resolve session.scene.tree session.scene.cwd file = .ok path ∧
    session.scene.tree.readFile path.physical = .ok bytes

/-- **A line adds lines** when they stand behind its echo at the end of the transcript. -/
def Adds (session : Session σ) (now : Moment) (line : String) (lines : List String) : Prop :=
  (session.process now line).transcript = session.transcript ++ (echoMark ++ Text.trim line) :: lines

theorem Adds.added {lines : List String} (adds : session.Adds now line lines) : session.added now line = lines := by
  unfold Session.added
  rw [adds]
  exact List.drop_length_add_append 1

/-- A line adds what its command shows, and leaves the scene in which the command ends. -/
theorem adds_of_run {command : Command} {output : Output} {after : Scene}
    (tokens : tokenize (Text.trim line) = some (name, arguments))
    (found : session.registry.find? name = some command)
    (ended : command.run ((session.noted (Text.trim line)).surroundings now) arguments session.scene =
      .ok output after)
    (keeps : output ≠ .clear) :
    session.Adds now line output.shown ∧ (session.process now line).scene = after := by
  have dispatched := (dispatch_noted_of_found found (Text.trim line) now arguments).trans ended
  constructor
  · unfold Adds
    rw [session.transcript_process now line, response?_of_ok tokens dispatched]
    cases output with
    | clear => exact absurd rfl keeps
    | _ => rfl
  · exact scene_process_of_ok tokens dispatched

theorem added_of_run {command : Command} {output : Output} {after : Scene}
    (tokens : tokenize (Text.trim line) = some (name, arguments))
    (found : session.registry.find? name = some command)
    (ended : command.run ((session.noted (Text.trim line)).surroundings now) arguments session.scene =
      .ok output after)
    (keeps : output ≠ .clear) :
    session.added now line = output.shown ∧ (session.process now line).scene = after := by
  obtain ⟨adds, left⟩ := adds_of_run tokens found ended keeps
  exact ⟨adds.added, left⟩

/-- Lines that a command has found are added as they are, and the scene stays. -/
theorem adds_of_lines {command : Command} {lines : List String}
    (tokens : tokenize (Text.trim line) = some (name, arguments))
    (found : session.registry.find? name = some command)
    (ended : command.run ((session.noted (Text.trim line)).surroundings now) arguments session.scene =
      .ok (Commands.linesOutput lines) session.scene) :
    session.Adds now line lines ∧ (session.process now line).scene = session.scene := by
  have adds := adds_of_run tokens found ended (Commands.linesOutput_ne_clear lines)
  rwa [Commands.shown_linesOutput] at adds

/-- The text of a file that can be read. -/
theorem Reads.readFile (reads : session.Reads file bytes) (line : String) (now : Moment) :
    Commands.readFile ((session.noted line).surroundings now) file session.scene =
      .ok (Text.decodeLossy bytes) session.scene := by
  obtain ⟨path, found, read⟩ := reads
  exact Commands.readFile_ok found (Resolved.readText_ok read)

/-- `head` adds the first lines of a file, as many as are asked for, -/
theorem adds_head (reads : session.Reads file bytes)
    (found : session.registry.find? "head" = some Commands.head) (now : Moment) (counted : Text.count? count = some n)
    (tokens : tokenize (Text.trim line) = some ("head", ["-n", count, file])) :
    session.Adds now line ((Text.lines (Text.decodeLossy bytes)).take n) ∧
      (session.process now line).scene = session.scene :=
  adds_of_lines tokens found (Commands.head_ok counted (reads.readFile _ now))

/-- and `tail` the last ones. -/
theorem adds_tail (reads : session.Reads file bytes)
    (found : session.registry.find? "tail" = some Commands.tail) (now : Moment) (counted : Text.count? count = some n)
    (tokens : tokenize (Text.trim line) = some ("tail", ["-n", count, file])) :
    session.Adds now line
        ((Text.lines (Text.decodeLossy bytes)).drop ((Text.lines (Text.decodeLossy bytes)).length - n)) ∧
      (session.process now line).scene = session.scene :=
  adds_of_lines tokens found (Commands.tail_ok counted (reads.readFile _ now))

variable (builtin : session.registry = ⟨Commands.builtin suffix⟩) (reads : session.Reads file bytes)
include builtin reads

/-- `cat` adds the rows of a file. -/
theorem added_cat (now : Moment) (tokens : tokenize (Text.trim line) = some ("cat", [file])) :
    session.added now line = Text.rows (Text.decodeLossy bytes) ∧
      (session.process now line).scene = session.scene := by
  have found : session.registry.find? "cat" = some Commands.cat := by
    rw [builtin]
    rfl
  exact added_of_run tokens found (Commands.cat_ok (reads.readFile _ now)) nofun

/-- `head` adds the first lines of a file, as many as are asked for. -/
theorem added_head (now : Moment) (counted : Text.count? count = some n)
    (tokens : tokenize (Text.trim line) = some ("head", ["-n", count, file])) :
    session.added now line = (Text.lines (Text.decodeLossy bytes)).take n ∧
      (session.process now line).scene = session.scene := by
  have found : session.registry.find? "head" = some Commands.head := by
    rw [builtin]
    rfl
  obtain ⟨adds, kept⟩ := adds_head reads found now counted tokens
  exact ⟨adds.added, kept⟩

/-- `tail` adds the last lines of a file, as many as are asked for. -/
theorem added_tail (now : Moment) (counted : Text.count? count = some n)
    (tokens : tokenize (Text.trim line) = some ("tail", ["-n", count, file])) :
    session.added now line =
        (Text.lines (Text.decodeLossy bytes)).drop ((Text.lines (Text.decodeLossy bytes)).length - n) ∧
      (session.process now line).scene = session.scene := by
  have found : session.registry.find? "tail" = some Commands.tail := by
    rw [builtin]
    rfl
  obtain ⟨adds, kept⟩ := adds_tail reads found now counted tokens
  exact ⟨adds.added, kept⟩

omit builtin reads

/-- The text of some bytes ends in a carriage return when the bytes do. -/
theorem endsInReturn_decodeLossy : Text.EndsInReturn (Text.decodeLossy bytes) ↔ bytes.getLast? = some 0x0D := by
  rw [Text.EndsInReturn, Text.getLast?_decodeLossy (by decide) (by decide)]
  constructor
  · rintro ⟨byte, isLast, same⟩
    have isReturn : byte.toNat = (0x0D : UInt8).toNat := same
    rw [isLast, UInt8.toNat_inj.mp isReturn]
  · exact fun isLast => ⟨0x0D, isLast, rfl⟩

/-- **Three ways to show a file.** Take a file that can be read, whatever its bytes are, and a count of at least as
many lines as it has. `head` and `tail` both add all its lines to the transcript, and `cat` adds the same exactly when
the last byte of the file is no carriage return. None of them changes the files or the current directory, so they can
be asked for one after the other, in any order. -/
theorem added_alike_iff (builtin : session.registry = ⟨Commands.builtin suffix⟩) (reads : session.Reads file bytes)
    (counted : Text.count? count = some n) (enough : (Text.lines (Text.decodeLossy bytes)).length ≤ n)
    {whole first last : String} (isCat : tokenize (Text.trim whole) = some ("cat", [file]))
    (isHead : tokenize (Text.trim first) = some ("head", ["-n", count, file]))
    (isTail : tokenize (Text.trim last) = some ("tail", ["-n", count, file])) (atCat atHead atTail : Moment) :
    session.added atHead first = Text.lines (Text.decodeLossy bytes) ∧
      session.added atTail last = session.added atHead first ∧
      (session.added atCat whole = session.added atHead first ↔ bytes.getLast? ≠ some 0x0D) ∧
      (session.process atCat whole).scene = session.scene ∧ (session.process atHead first).scene = session.scene ∧
      (session.process atTail last).scene = session.scene := by
  obtain ⟨rows, afterCat⟩ := added_cat builtin reads atCat isCat
  obtain ⟨firstLines, afterHead⟩ := added_head builtin reads atHead counted isHead
  obtain ⟨lastLines, afterTail⟩ := added_tail builtin reads atTail counted isTail
  rw [List.take_of_length_le enough] at firstLines
  rw [Nat.sub_eq_zero_of_le enough, List.drop_zero] at lastLines
  refine ⟨firstLines, lastLines.trans firstLines.symm, ?_, afterCat, afterHead, afterTail⟩
  rw [rows, firstLines, eq_comm, Text.lines_eq_rows_iff, endsInReturn_decodeLossy]

end Session

namespace Gallery

/-- A session in a root with one file. -/
def session (bytes : Text.Bytes) : Session Unit :=
  .start ⟨Commands.builtin ""⟩ ⟨["root"]⟩ (Clock.fixed ⟨2024, 1, 1, 0, 0, 0⟩ 0)
    (.directory [("root", .directory [("f", .file bytes)])]) ()

theorem reads (bytes : Text.Bytes) : (session bytes).Reads "f" bytes :=
  ⟨⟨VirtualPath.parse "/f", ["root", "f"]⟩, rfl, rfl⟩

/-- Line ends of both kinds, empty lines, a byte that is malformed and a last line that is not ended. -/
def motley : Text.Bytes :=
  Text.encode "one\r\n\r\n\n" ++ [0xFF] ++ Text.encode "\r\nlast"

end Gallery

namespace Session

/-- The five lines of the file are shown in each way. -/
theorem added_alike_iff_of_five :
    let session := Gallery.session Gallery.motley
    session.added 1 "head -n +5 f" = ["one", "", "", "\uFFFD", "last"] ∧
      session.added 2 "tail  -n +5 f" = ["one", "", "", "\uFFFD", "last"] ∧
      session.added 0 "cat f" = ["one", "", "", "\uFFFD", "last"] := by
  intro session
  have builtin : session.registry = ⟨Commands.builtin ""⟩ := rfl
  have counted : Text.count? "+5" = some 5 := by decide
  have lines : Text.lines (Text.decodeLossy Gallery.motley) = ["one", "", "", "\uFFFD", "last"] := by decide +kernel
  have enough : (Text.lines (Text.decodeLossy Gallery.motley)).length ≤ 5 := lines ▸ Nat.le_refl 5
  have isCat : tokenize (Text.trim "cat f") = some ("cat", ["f"]) := by decide +kernel
  have isHead : tokenize (Text.trim "head -n +5 f") = some ("head", ["-n", "+5", "f"]) := by decide +kernel
  have isTail : tokenize (Text.trim "tail  -n +5 f") = some ("tail", ["-n", "+5", "f"]) := by decide +kernel
  obtain ⟨first, last, whole, -⟩ :=
    added_alike_iff builtin (Gallery.reads Gallery.motley) counted enough isCat isHead isTail 0 1 2
  have shown := first.trans lines
  exact ⟨shown, last.trans shown, (whole.mpr (by decide)).trans shown⟩

/-- **The three do not agree** on a file that ends in a carriage return. -/
theorem cat_drops_last_return :
    let session := Gallery.session (Text.encode "a\r")
    (Text.lines "a\r").length = 1 ∧ session.added 0 "cat f" = ["a"] ∧ session.added 0 "head -n 1 f" = ["a\r"] ∧
      session.added 0 "tail -n 1 f" = ["a\r"] := by
  decide +kernel

end Session

end ConfinedShell
