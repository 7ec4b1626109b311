import ConfinedShell.Proofs.Editing
import ConfinedShell.Proofs.Growth
import ConfinedShell.Proofs.TextLines
import ConfinedShell.Proofs.Utf8

/-!
# What an editor saves

A buffer is saved as the bytes of its joined lines, and an editor that opens on the file reads these bytes and cuts the
text into lines again. The bytes are read back as the text (`Text.decodeLossy_encode`), and the text is cut where it was
joined, because no line in a buffer holds a line feed: neither one of a file (`Text.oneLine_of_mem_lines`) nor one that
was typed (`Received.oneLine_of_mem_ofBytes`).

Two things are lost. A buffer of one empty line is saved as no text, as if it held no line. And a carriage return at
the end of a line is taken for a part of the line's end. If neither occurs, the file opens on the buffer that was saved
(`Editor.edit_reopens_iff`).
-/

set_option autoImplicit false

namespace ConfinedShell

open Text (EndsInReturn OneLine)

/-! ## Lines that were typed -/

namespace Received

/-- The byte of a line feed is the last one of a line. -/
theorem lineFeed_not_mem_dropLast {bytes line : Text.Bytes} (mem : line ∈ splitLines bytes) :
    0x0A ∉ line.dropLast := by
  induction bytes generalizing line with
  | nil => cases mem
  | cons byte rest ih =>
    rw [splitLines] at mem
    split at mem
    · rcases List.mem_cons.mp mem with rfl | mem
      · exact List.not_mem_nil
      · exact ih mem
    · next other =>
      split at mem
      · rw [List.mem_singleton.mp mem]
        exact List.not_mem_nil
      · next first others cut =>
        rcases List.mem_cons.mp mem with rfl | mem
        · intro lineFeed
          have among : 0x0A ∈ byte :: first.dropLast := by
            cases first with
            | nil => cases lineFeed
            | cons next behind => exact lineFeed
          rcases List.mem_cons.mp among with same | inside
          · exact other same.symm
          · exact ih (cut ▸ List.mem_cons_self) inside
        · exact ih (cut ▸ List.mem_cons_of_mem _ mem)

/-- A text without a line feed in front of its last character is one line without its line end. -/
theorem oneLine_dropLineEnd {text : String} (atEnd : '\n' ∉ text.toList.dropLast) :
    OneLine (Text.dropLineEnd text) := by
  rw [OneLine, Text.dropLineEnd, String.toList_ofList, List.mem_reverse]
  intro lineFeed
  rcases List.eq_nil_or_concat text.toList with nil | ⟨front, last, split⟩
  · rw [nil] at lineFeed
    cases lineFeed
  · rw [List.concat_eq_append] at split
    rw [split, List.dropLast_concat] at atEnd
    rw [split, List.reverse_append, List.reverse_singleton, List.singleton_append, List.dropWhile_cons] at lineFeed
    split at lineFeed
    · exact atEnd (List.mem_reverse.mp ((List.dropWhile_sublist _).subset lineFeed))
    · next kept =>
      rcases List.mem_cons.mp lineFeed with rfl | inside
      · exact kept (by decide)
      · exact atEnd (List.mem_reverse.mp inside)

/-- Characters that are all well formed are what was read. -/
theorem eq_of_mapM_id {read : List (Option Char)} {cs : List Char} (wellFormed : read.mapM id = some cs) :
    read = cs.map some := by
  induction read generalizing cs with
  | nil =>
    cases wellFormed
    rfl
  | cons first rest ih =>
    rw [List.mapM_cons] at wellFormed
    obtain ⟨c, isFirst, wellFormed⟩ := Option.bind_eq_some_iff.mp wellFormed
    obtain ⟨others, areRest, same⟩ := Option.bind_eq_some_iff.mp wellFormed
    cases isFirst
    cases same
    rw [ih areRest, List.map_cons]

/-- **Every line that is received is one line.** -/
theorem oneLine_of_mem_ofBytes {bytes : Text.Bytes} {text : String} (mem : line text ∈ ofBytes bytes) :
    OneLine text := by
  obtain ⟨cut, among, same⟩ := List.mem_map.mp mem
  split at same
  · next whole decoded =>
    cases same
    obtain ⟨cs, wellFormed, rfl⟩ := Option.map_eq_some_iff.mp decoded
    have sound : Text.Reader.between.Sound := trivial
    have atEnd : some '\n' ∉ (Text.Reader.between.run cut).dropLast := by
      refine sound.not_mem_dropLast (by decide) (by decide) fun byte mem isLineFeed => ?_
      have isByte : byte.toNat = (0x0A : UInt8).toNat := isLineFeed
      exact lineFeed_not_mem_dropLast among (UInt8.toNat_inj.mp isByte ▸ mem)
    rw [eq_of_mapM_id wellFormed, ← List.map_dropLast] at atEnd
    refine oneLine_dropLineEnd fun lineFeed => atEnd (List.mem_map_of_mem ?_)
    rwa [String.toList_ofList] at lineFeed
  · cases same

end Received

/-! ## What is saved -/

namespace Editor

variable {editor : Editor} {tree after : FileTree} {path : Resolved}

/-- A buffer is saved as its joined lines, unless it is empty or holds one empty line. -/
theorem savedText_eq (buffer : List String) :
    savedText buffer = if buffer = [] ∨ buffer = [""] then "" else Text.joinWith "\n" buffer ++ "\n" := by
  rw [savedText]
  match buffer with
  | [] => rfl
  | [line] =>
    by_cases empty : line = ""
    · simp [empty, Text.joinWith]
    · simp [empty, Text.joinWith]
  | first :: second :: rest => simp [Text.joinWith]

/-- What is read of a saved buffer. -/
theorem lines_savedText {buffer : List String} (oneLine : ∀ line ∈ buffer, OneLine line) :
    Text.lines (savedText buffer) = if buffer = [""] then [] else buffer.map Text.chop := by
  rw [savedText_eq]
  by_cases empty : buffer = [""]
  · rw [if_pos (.inr empty), if_pos empty]
    rfl
  rw [if_neg empty]
  by_cases nothing : buffer = []
  · rw [nothing]
    rfl
  · rw [if_neg (not_or.mpr ⟨nothing, empty⟩), Text.lines_joined nothing oneLine]

/-- No carriage return is taken off where none of the lines ends in one. -/
theorem map_chop_eq_self_iff {buffer : List String} :
    buffer.map Text.chop = buffer ↔ ∀ line ∈ buffer, ¬ EndsInReturn line := by
  have pointwise : buffer.map Text.chop = buffer.map id ↔ ∀ line ∈ buffer, Text.chop line = line := List.map_inj_left
  rw [List.map_id] at pointwise
  exact pointwise.trans (forall₂_congr fun line _ => Text.chop_eq_self_iff)

/-- **A saved buffer is read again** exactly when it holds more or less than one empty line, and no line of it ends
in a carriage return. -/
theorem lines_savedText_eq_iff {buffer : List String} (oneLine : ∀ line ∈ buffer, OneLine line) :
    Text.lines (savedText buffer) = buffer ↔ buffer ≠ [""] ∧ ∀ line ∈ buffer, ¬ EndsInReturn line := by
  rw [lines_savedText oneLine]
  by_cases empty : buffer = [""]
  · simp [empty]
  · rw [if_neg empty, map_chop_eq_self_iff, and_iff_right empty]

/-- **What is read of a saved buffer is saved as the same text** exactly when no line of the buffer ends in a
carriage return. -/
theorem savedText_lines_savedText_iff {buffer : List String} (oneLine : ∀ line ∈ buffer, OneLine line) :
    savedText (Text.lines (savedText buffer)) = savedText buffer ↔ ∀ line ∈ buffer, ¬ EndsInReturn line := by
  by_cases empty : buffer = [""]
  · subst empty
    exact iff_of_true (by decide) (by decide)
  by_cases nothing : buffer = []
  · subst nothing
    exact iff_of_true rfl nofun
  refine ⟨fun same => ?_, fun none => by rw [(lines_savedText_eq_iff oneLine).mpr ⟨empty, none⟩]⟩
  rw [lines_savedText oneLine, if_neg empty, savedText_eq, savedText_eq buffer,
    if_neg (not_or.mpr ⟨nothing, empty⟩)] at same
  split at same
  · -- The text of a buffer that is not empty ends in a line feed.
    have texts := congrArg String.toList same
    simp at texts
  · next full =>
    have fullMap := (not_or.mp full).1
    have oneLineMap : ∀ line ∈ buffer.map Text.chop, OneLine line := by
      intro line mem
      obtain ⟨whole, among, rfl⟩ := List.mem_map.mp mem
      exact (oneLine whole among).chop
    exact map_chop_eq_self_iff.mp (Text.joined_inj fullMap nothing oneLineMap oneLine same)

/-! ## What is in the buffer -/

/-- **The editor when it ends**: its buffer holds what the last step found. -/
def left (editor : Editor) (tree : FileTree) : List Received → Editor
  | [] => editor
  | received :: rest =>
    match editor.step tree received with
    | .goesOn next _ => next.left tree rest
    | .ends _ _ _ => editor

/-- An editor opens on lines. -/
theorem oneLine_of_openOn (opens : openOn path tree = .ok editor) : ∀ line ∈ editor.buffer, OneLine line := by
  rw [openOn] at opens
  split at opens
  · split at opens
    · cases opens
      exact fun line mem => Text.oneLine_of_mem_lines mem
    · cases opens
  · cases opens
    exact fun line mem => absurd mem List.not_mem_nil

/-- A step leaves no line in the buffer but one that was there or that was typed. -/
theorem mem_buffer_of_goesOn {received : Received} {next : Editor} {shown : String}
    (stepped : editor.step tree received = .goesOn next shown) {line : String} (mem : line ∈ next.buffer) :
    line ∈ editor.buffer ∨ received = .line line := by
  unfold step at stepped
  split at stepped
  · cases stepped
  · split at stepped <;> cases stepped
  · cases stepped
  · cases stepped
    exact .inl mem
  · cases stepped
    exact .inl (List.dropLast_subset _ mem)
  · cases stepped
    rcases List.mem_append.mp mem with mem | mem
    · exact .inl mem
    · exact .inr (congrArg Received.line (List.mem_singleton.mp mem).symm)

/-- **The buffer holds lines**, whatever was typed. -/
theorem oneLine_left {keys : List Received} (oneLine : ∀ line ∈ editor.buffer, OneLine line)
    (typed : ∀ line, .line line ∈ keys → OneLine line) : ∀ line ∈ (editor.left tree keys).buffer, OneLine line := by
  induction keys generalizing editor with
  | nil => exact oneLine
  | cons received rest ih =>
    rw [left]
    split
    · next other shown stepped =>
      refine ih (fun line mem => ?_) fun line mem => typed line (List.mem_cons_of_mem _ mem)
      rcases mem_buffer_of_goesOn stepped mem with there | rfl
      · exact oneLine line there
      · exact typed line List.mem_cons_self
    · exact oneLine

/-- A step that saves has written the buffer. -/
theorem write_of_step {received : Received} {shown : String}
    (stepped : editor.step tree received = .ends .saved after shown) :
    editor.path.write tree (Text.encode (savedText editor.buffer)) = .ok after := by
  unfold step at stepped
  split at stepped
  · cases stepped
  · split at stepped
    · next written =>
      cases stepped
      exact Resolved.write_of_sent written
    · cases stepped
  · cases stepped
  · cases stepped
  · cases stepped
  · cases stepped

/-- **A run that saves has written the buffer** with which it ended, to the file of the editor. -/
theorem write_of_run {keys : List Received} {shown : String} (saved : (editor.run tree shown keys).outcome = .saved) :
    (editor.left tree keys).path = editor.path ∧
      editor.path.write tree (Text.encode (savedText (editor.left tree keys).buffer)) =
        .ok (editor.run tree shown keys).tree := by
  induction keys generalizing editor shown with
  | nil => cases saved
  | cons received rest ih =>
    rw [left]
    rw [run] at saved ⊢
    cases stepped : editor.step tree received with
    | goesOn next more =>
      rw [stepped] at saved
      rw [← path_of_goesOn stepped]
      exact ih saved
    | ends outcome after more =>
      rw [stepped] at saved
      obtain rfl : outcome = .saved := saved
      exact ⟨rfl, write_of_step stepped⟩

/-! ## Opening again -/

/-- **An editor opens on what was written** by its path. -/
theorem openOn_of_write {bytes : Text.Bytes} (written : path.write tree bytes = .ok after) :
    openOn path after = .ok ⟨path, Text.lines (Text.decodeLossy bytes)⟩ := by
  obtain ⟨location, located, isFile⟩ := FileTree.locate_of_writeFile (Resolved.write_eq_ok.mp written)
  have regular : path.isRegular after = true := FileTree.pathIsRegular_iff.mpr ⟨location, bytes, located, isFile⟩
  have read : path.readText after = .ok (Text.decodeLossy bytes) := by
    simp only [Resolved.readText, FileTree.readFile, FileTree.stat, located, isFile, Resolved.told, Except.map]
  rw [openOn, if_pos regular, read]

/-- The bytes that were written by a path are read by it. -/
theorem readFile_of_write {bytes : Text.Bytes} (written : path.write tree bytes = .ok after) :
    after.readFile path.physical = .ok bytes := by
  obtain ⟨location, located, isFile⟩ := FileTree.locate_of_writeFile (Resolved.write_eq_ok.mp written)
  simp only [FileTree.readFile, FileTree.stat, located, isFile]

/-- By a path that leads to a file, other bytes can be written. -/
theorem exists_write_of_write {bytes : Text.Bytes} (written : path.write tree bytes = .ok after)
    (others : Text.Bytes) : ∃ again, path.write after others = .ok again := by
  obtain ⟨location, located, isFile⟩ := FileTree.locate_of_writeFile (Resolved.write_eq_ok.mp written)
  have regular : path.isRegular after = true := FileTree.pathIsRegular_iff.mpr ⟨location, bytes, located, isFile⟩
  obtain ⟨place, -, -, -, opened⟩ := Resolved.exists_writable_of_isRegular regular
  exact ⟨after.put place (.file others), by rw [Resolved.write_eq, FileTree.writeFile, opened]; rfl⟩

/-- An editor that saves at once writes what it has opened on. -/
theorem edit_save (opens : openOn path tree = .ok editor)
    (written : editor.path.write tree (Text.encode (savedText editor.buffer)) = .ok after) :
    (edit path tree [.line ":wq"]).outcome = .saved ∧ (edit path tree [.line ":wq"]).tree = after := by
  simp only [edit, opens, run, step, Resolved.send_eq, arriving, written]
  exact ⟨trivial, trivial⟩

/-- **What saving loses.** An editor opens on a path, whatever is there, and keys are typed until it has saved. When
it is opened again, it has the lines that were in its buffer exactly when these were more or less than one empty line,
and none of them ended in a carriage return. When it then saves at once, the file keeps its bytes exactly when none of
them did. -/
theorem edit_reopens_iff {keys : Text.Bytes}
    (saved : (edit path tree (Received.ofBytes keys)).outcome = .saved) :
    ∃ editor, openOn path tree = .ok editor ∧
      let last := editor.left tree (Received.ofBytes keys)
      let after := (edit path tree (Received.ofBytes keys)).tree
      let again := edit path after [.line ":wq"]
      (openOn path after = .ok last ↔ last.buffer ≠ [""] ∧ ∀ line ∈ last.buffer, ¬ EndsInReturn line) ∧
        again.outcome = .saved ∧
        (again.tree.readFile path.physical = after.readFile path.physical ↔
          ∀ line ∈ last.buffer, ¬ EndsInReturn line) := by
  obtain ⟨editor, opens, rfl⟩ := exists_openOn path tree
  have ran : edit editor.path tree (Received.ofBytes keys) =
      editor.run tree editor.greeting (Received.ofBytes keys) := by rw [edit, opens]
  rw [ran] at saved
  obtain ⟨keeps, written⟩ := write_of_run saved
  rw [← ran] at written
  have oneLine : ∀ line ∈ (editor.left tree (Received.ofBytes keys)).buffer, OneLine line :=
    oneLine_left (oneLine_of_openOn opens) fun line mem => Received.oneLine_of_mem_ofBytes mem
  have reopens := openOn_of_write written
  rw [Text.decodeLossy_encode] at reopens
  refine ⟨editor, opens, ?_⟩
  intro last after again
  refine ⟨?_, ?_⟩
  · have last_eq : last = ⟨editor.path, last.buffer⟩ := by rw [← keeps]
    rw [reopens, last_eq, Except.ok.injEq, Editor.mk.injEq, and_iff_right rfl]
    exact lines_savedText_eq_iff oneLine
  · obtain ⟨treeAgain, writtenAgain⟩ := exists_write_of_write written
      (Text.encode (savedText (Text.lines (savedText last.buffer))))
    obtain ⟨outcome, left⟩ := edit_save reopens writtenAgain
    refine ⟨outcome, ?_⟩
    rw [left, readFile_of_write writtenAgain, readFile_of_write written, Except.ok.injEq, Text.encode_inj]
    exact savedText_lines_savedText_iff oneLine

end Editor

namespace Draft

/-- A root with the files. -/
def tree (files : Entries) : FileTree :=
  .directory [("root", .directory files)]

/-- The path of a file in it. -/
def path : Resolved :=
  ⟨VirtualPath.parse "/f", ["root", "f"]⟩

end Draft

namespace Editor

/-- Carriage returns at the line ends, empty lines, a last line that is not ended and a character beyond ASCII. -/
theorem edit_reopens_iff_of_blank_lines :
    let tree := Draft.tree [("f", .file (Text.encode "one\r\n\r\ntwo"))]
    let after := (edit Draft.path tree (Received.ofBytes (Text.encode ":d\n\né\r\n\n:wq\n"))).tree
    openOn Draft.path after = .ok ⟨Draft.path, ["one", "", "", "é", ""]⟩ ∧
      (edit Draft.path after [.line ":wq"]).tree.readFile Draft.path.physical =
        after.readFile Draft.path.physical := by
  intro tree after
  have saved : (edit Draft.path tree (Received.ofBytes (Text.encode ":d\n\né\r\n\n:wq\n"))).outcome = .saved := by
    decide +kernel
  obtain ⟨editor, opens, reopens, -, keeps⟩ := edit_reopens_iff saved
  have opened : openOn Draft.path tree = .ok ⟨Draft.path, ["one", "", "two"]⟩ := rfl
  obtain rfl : editor = ⟨Draft.path, ["one", "", "two"]⟩ := Except.ok.inj (opens.symm.trans opened)
  have last : Editor.left ⟨Draft.path, ["one", "", "two"]⟩ tree
      (Received.ofBytes (Text.encode ":d\n\né\r\n\n:wq\n")) = ⟨Draft.path, ["one", "", "", "é", ""]⟩ := by
    decide +kernel
  rw [last] at reopens keeps
  exact ⟨reopens.mpr (by decide), keeps.mpr (by decide)⟩

/-- **An empty line is lost, and so is a carriage return.** One empty line is typed into a new file and saved, and the
file opens on no line. A line that ends in a carriage return is saved twice, and the second time without it. -/
theorem saved_lines_are_lost :
    let empty := Draft.tree []
    let typed := Received.ofBytes (Text.encode "\n:wq\n")
    let returned := Draft.tree [("f", .file (Text.encode "a\r"))]
    let again := (edit Draft.path returned [.line ":wq"]).tree
    ((edit Draft.path empty typed).outcome = .saved ∧ openOn Draft.path empty = .ok ⟨Draft.path, []⟩ ∧
        Editor.left ⟨Draft.path, []⟩ empty typed = ⟨Draft.path, [""]⟩ ∧
        openOn Draft.path (edit Draft.path empty typed).tree = .ok ⟨Draft.path, []⟩) ∧
      (edit Draft.path returned [.line ":wq"]).outcome = .saved ∧
      again.readFile Draft.path.physical = .ok (Text.encode "a\r\n") ∧
      (edit Draft.path again [.line ":wq"]).tree.readFile Draft.path.physical = .ok (Text.encode "a\n") := by
  intro empty typed returned again
  exact ⟨⟨by decide +kernel, rfl, by decide +kernel, rfl⟩, by decide +kernel, rfl, rfl⟩

end Editor

end ConfinedShell
