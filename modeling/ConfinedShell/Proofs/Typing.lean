import ConfinedShell.Proofs.Footprint
import ConfinedShell.Proofs.Pages
import ConfinedShell.Proofs.Saving

/-!
# What an editor does with its keys

The keys that an editor takes reach to the first line that is final (`Received.isFinal`); what is behind that line is
left for the prompt, byte for byte. Until then nothing is written, and the buffer is a stack: a line is put on it, and a
deletion takes the last one off, be it a line that was typed or one that was loaded. What is left of the typed lines is
computed from the last key to the first, without a buffer (`Editor.typed`): each deletion waits for a line in front of
it to take back.

**Nothing is written but by `:wq`** (`Editor.edit_writes_on_save`). When the editor has saved, the one file has changed
that its path leads to, and it holds the lines that are left, each with a line feed behind it. A buffer of one empty
line is the exception: the line feed is missing then, and the file is empty (`Editor.empty_line_is_not_saved`).

An editor that fails has left the files as they were, unless it was about to save: then the storage may have broken off
when some of the bytes had arrived, or all had arrived and the page broke off before the editor could say so.
-/

set_option autoImplicit false

namespace ConfinedShell

/-! ## Lines of bytes -/

namespace Received

/-- **Lines of bytes**: a line feed ends each of them, and is nowhere else; it may be missing at the end of the last. -/
inductive AreLines : List Text.Bytes → Prop where
  | nil : AreLines []
  | unended {bytes : Text.Bytes} (ne : bytes ≠ []) (free : 0x0A ∉ bytes) : AreLines [bytes]
  | ended {front : Text.Bytes} {others : List Text.Bytes} (free : 0x0A ∉ front) (rest : AreLines others) :
      AreLines ((front ++ [0x0A]) :: others)

/-- The first line reaches to the first line feed. -/
theorem splitLines_append {front : Text.Bytes} (free : 0x0A ∉ front) (rest : Text.Bytes) :
    splitLines (front ++ 0x0A :: rest) = (front ++ [0x0A]) :: splitLines rest := by
  induction front with
  | nil => rfl
  | cons byte front ih =>
    obtain ⟨other, free⟩ := not_or.mp (mt List.mem_cons.mpr free)
    rw [List.cons_append, splitLines, if_neg (Ne.symm other), ih free]
    rfl

/-- Bytes without a line feed are one line. -/
theorem splitLines_of_free {bytes : Text.Bytes} (ne : bytes ≠ []) (free : 0x0A ∉ bytes) :
    splitLines bytes = [bytes] := by
  induction bytes with
  | nil => exact absurd rfl ne
  | cons byte rest ih =>
    obtain ⟨other, free⟩ := not_or.mp (mt List.mem_cons.mpr free)
    rw [splitLines, if_neg (Ne.symm other)]
    cases rest with
    | nil => rfl
    | cons next rest => rw [ih (List.cons_ne_nil _ _) free]

/-- Lines are found again in their bytes. -/
theorem AreLines.splitLines_flatten {cut : List Text.Bytes} (lines : AreLines cut) : splitLines cut.flatten = cut := by
  induction lines with
  | nil => rfl
  | unended ne free => simpa using splitLines_of_free ne free
  | ended free rest ih =>
    rw [List.flatten_cons, List.append_assoc, List.singleton_append, splitLines_append free, ih]

/-- One more byte that is no line feed belongs to the first line. -/
theorem AreLines.cons_first {byte : UInt8} {first : Text.Bytes} {others : List Text.Bytes} (other : byte ≠ 0x0A)
    (lines : AreLines (first :: others)) : AreLines ((byte :: first) :: others) := by
  have stays {bytes : Text.Bytes} (free : 0x0A ∉ bytes) : 0x0A ∉ byte :: bytes :=
    List.not_mem_cons_of_ne_of_not_mem other.symm free
  cases lines with
  | unended ne free => exact .unended (List.cons_ne_nil _ _) (stays free)
  | ended free rest => exact .ended (stays free) rest

/-- **Bytes are cut into lines**, of which they consist. -/
theorem areLines_splitLines (bytes : Text.Bytes) :
    AreLines (splitLines bytes) ∧ (splitLines bytes).flatten = bytes := by
  induction bytes with
  | nil => exact ⟨.nil, rfl⟩
  | cons byte rest ih =>
    obtain ⟨lines, whole⟩ := ih
    rw [splitLines]
    split
    · next lineFeed => exact ⟨lineFeed ▸ .ended List.not_mem_nil lines, congrArg (byte :: ·) whole⟩
    next other =>
    split
    · next nothing =>
      rw [nothing] at whole
      exact ⟨.unended (List.cons_ne_nil _ _) (List.not_mem_cons_of_ne_of_not_mem (Ne.symm other) List.not_mem_nil),
        congrArg (byte :: ·) whole⟩
    · next first others cut =>
      rw [cut] at lines whole
      exact ⟨lines.cons_first other, congrArg (byte :: ·) whole⟩

/-- Lines are lines on both sides of a cut. -/
theorem AreLines.of_append {first second : List Text.Bytes} (lines : AreLines (first ++ second)) :
    AreLines first ∧ AreLines second := by
  generalize whole : first ++ second = cut at lines
  induction lines generalizing first with
  | nil =>
    obtain ⟨rfl, rfl⟩ := List.append_eq_nil_iff.mp whole
    exact ⟨.nil, .nil⟩
  | unended ne free =>
    rcases List.append_eq_singleton_iff.mp whole with ⟨rfl, rfl⟩ | ⟨rfl, rfl⟩
    · exact ⟨.nil, .unended ne free⟩
    · exact ⟨.unended ne free, .nil⟩
  | ended free rest ih =>
    rcases List.append_eq_cons_iff.mp whole with ⟨rfl, rfl⟩ | ⟨others, rfl, split⟩
    · exact ⟨.nil, .ended free rest⟩
    · obtain ⟨one, other⟩ := ih split.symm
      exact ⟨.ended free one, other⟩

/-- **What is received is cut like the bytes**: of any two parts, each is received of its own bytes alone. -/
theorem exists_of_ofBytes_eq_append {bytes : Text.Bytes} {first second : List Received}
    (received : ofBytes bytes = first ++ second) :
    ∃ front back, bytes = front ++ back ∧ ofBytes front = first ∧ ofBytes back = second := by
  obtain ⟨lines, whole⟩ := areLines_splitLines bytes
  obtain ⟨one, other, cut, isFirst, isSecond⟩ := List.map_eq_append_iff.mp received
  rw [cut] at lines whole
  obtain ⟨oneLines, otherLines⟩ := lines.of_append
  refine ⟨one.flatten, other.flatten, ?_, ?_, ?_⟩
  · rw [← whole, List.flatten_append]
  · rw [ofBytes, oneLines.splitLines_flatten, ← isFirst]
  · rw [ofBytes, otherLines.splitLines_flatten, ← isSecond]

/-- A line is **final** when the editor ends with it: both orders that end it, and what is not text. -/
def isFinal : Received → Bool
  | .malformed => true
  | .line text => text = ":wq" || text = ":q"

/-- What is received has a first final line, or none. -/
theorem exists_final (received : List Received) :
    (∀ key ∈ received, key.isFinal = false) ∨
      ∃ taken final rest, received = taken ++ final :: rest ∧ final.isFinal = true ∧
        ∀ key ∈ taken, key.isFinal = false := by
  cases found : received.find? isFinal with
  | none => exact .inl fun key mem => by simpa using List.find?_eq_none.mp found key mem
  | some final =>
    obtain ⟨ends, taken, rest, split, before⟩ := List.find?_eq_some_iff_append.mp found
    exact .inr ⟨taken, final, rest, split, ends, fun key mem => by simpa using before key mem⟩

end Received

namespace Editor

variable {path : Resolved} {tree after : FileTree}

/-! ## What is left of the typed lines -/

/-- **What is left of typed lines**, with the number of deletions that go back to before the first of them. A line is
left unless a deletion behind it takes it back. -/
def typed : List Received → Nat × List String
  | [] => (0, [])
  | .malformed :: rest => typed rest
  | .line text :: rest =>
    if text = ":d" then ((typed rest).1 + 1, (typed rest).2)
    else if text = ":p" then typed rest
    else
      match (typed rest).1 with
      | 0 => (0, text :: (typed rest).2)
      | pending + 1 => (pending, (typed rest).2)

/-- **The lines that are left** of those that were loaded and those that were typed. -/
def remaining (loaded : List String) (keys : List Received) : List String :=
  loaded.take (loaded.length - (typed keys).1) ++ (typed keys).2

theorem remaining_nil (loaded : List String) : remaining loaded [] = loaded := by
  simp [remaining, typed]

/-- A deletion takes the last line off, and none when there is none. -/
theorem remaining_delete (loaded : List String) (rest : List Received) :
    remaining loaded (.line ":d" :: rest) = remaining loaded.dropLast rest := by
  have fewer : loaded.length - ((typed rest).1 + 1) = loaded.length - 1 - (typed rest).1 := by omega
  have within : loaded.length - 1 - (typed rest).1 ≤ loaded.length - 1 := Nat.sub_le _ _
  rw [remaining, remaining, typed, if_pos rfl, List.length_dropLast, List.dropLast_eq_take, List.take_take, fewer,
    Nat.min_eq_left within]

/-- The order to print leaves all lines. -/
theorem remaining_print (loaded : List String) (rest : List Received) :
    remaining loaded (.line ":p" :: rest) = remaining loaded rest := by
  rw [remaining, remaining, typed, if_neg (by decide), if_pos rfl]

/-- Any other text is a line behind those that are there. -/
theorem remaining_text {text : String} (noDelete : text ≠ ":d") (noPrint : text ≠ ":p") (loaded : List String)
    (rest : List Received) : remaining loaded (.line text :: rest) = remaining (loaded ++ [text]) rest := by
  rw [remaining, remaining, typed, if_neg noDelete, if_neg noPrint, List.length_append, List.length_singleton]
  cases (typed rest).1 with
  | zero =>
    have all : (loaded ++ [text]).take (loaded.length + 1) = loaded ++ [text] := List.take_of_length_le (by simp)
    simp [all]
  | succ pending =>
    have same : loaded.length + 1 - (pending + 1) = loaded.length - pending := by omega
    rw [same, List.take_append_of_le_length (Nat.sub_le _ _)]

/-! ## Steps and runs -/

section Sitting

variable {writer : Writer} {page : Page} {trouble : Option Trouble}

/-- **A line that is not final** changes the buffer to what is left with it, and with whatever comes behind it. -/
theorem step_of_not_final {received : Received} (goesOn : received.isFinal = false) (editor : Editor)
    (tree : FileTree) (trouble : Option Trouble) :
    ∃ buffer shown, editor.step tree received trouble = .goesOn ⟨editor.path, buffer⟩ shown ∧
      ∀ rest, remaining editor.buffer (received :: rest) = remaining buffer rest := by
  unfold step
  split
  · cases goesOn
  · cases goesOn
  · cases goesOn
  · exact ⟨_, _, rfl, remaining_print _⟩
  · exact ⟨_, _, rfl, remaining_delete _⟩
  · next text _ _ noPrint noDelete => exact ⟨_, _, rfl, remaining_text noDelete noPrint _⟩

/-- How an editor with a buffer ends when it takes a final line: the outcome, and the files that it leaves. -/
inductive Ends (writer : Writer) (path : Resolved) (tree : FileTree) (trouble : Option Trouble) (buffer : List String) :
    Received → EditorOutcome → FileTree → Prop where
  | quit : Ends writer path tree trouble buffer (.line ":q") .discarded tree
  | malformed : Ends writer path tree trouble buffer .malformed (.failed .input) tree
  /-- The buffer was saved. -/
  | saved {after : FileTree} (sent : path.send trouble (Text.encode (savedText buffer)) tree = (after, .ok ())) :
      Ends writer path tree trouble buffer (.line ":wq") .saved after
  /-- The buffer was saved, but that could not be shown. -/
  | untold {after : FileTree} {cause : HostError}
      (sent : path.send trouble (Text.encode (savedText buffer)) tree = (after, .ok ()))
      (breaks : writer.Breaks cause) :
      Ends writer path tree trouble buffer (.line ":wq") (.failed (.writing cause)) after
  /-- The buffer could not be saved. -/
  | unsaved {after : FileTree} {cause : Failure}
      (sent : path.send trouble (Text.encode (savedText buffer)) tree = (after, .error cause)) :
      Ends writer path tree trouble buffer (.line ":wq") (.failed (.saving path cause)) after

/-- An editor that discards its buffer leaves the files as they were. -/
theorem Ends.tree_of_discarded {buffer : List String} {final : Received}
    (ends : Ends writer path tree trouble buffer final .discarded after) : after = tree := by
  cases ends with
  | quit => rfl

/-- An editor that saves has written its buffer, and was told to. -/
theorem Ends.of_saved {buffer : List String} {final : Received}
    (ends : Ends writer path tree trouble buffer final .saved after) :
    final = .line ":wq" ∧ path.write tree (Text.encode (savedText buffer)) = .ok after := by
  cases ends with
  | saved sent => exact ⟨rfl, Resolved.write_of_sent sent⟩

/-- **How a failed editor can have changed the files**: it was about to save, and what it has sent has arrived in part,
or all of it has. -/
inductive Unfinished (writer : Writer) (path : Resolved) (tree : FileTree) (trouble : Option Trouble)
    (bytes : Text.Bytes) (after : FileTree) : EditorFailure → Prop where
  | saving {met : Trouble} {n : Nat} (inTrouble : trouble = some met) (arrived : met.arrived = some n)
      (written : path.write tree (bytes.take n) = .ok after) :
      Unfinished writer path tree trouble bytes after (.saving path (.ofHost path.text (.system met.error)))
  | telling {cause : HostError} (breaks : writer.Breaks cause) (written : path.write tree bytes = .ok after) :
      Unfinished writer path tree trouble bytes after (.writing cause)

/-- An editor that fails at a final line has left the files as they were, or it was about to save. -/
theorem Ends.of_failed {buffer : List String} {final : Received} {cause : EditorFailure}
    (ends : Ends writer path tree trouble buffer final (.failed cause) after) :
    after = tree ∨ final = .line ":wq" ∧
      Unfinished writer path tree trouble (Text.encode (savedText buffer)) after cause := by
  cases ends with
  | malformed => exact .inl rfl
  | untold sent breaks => exact .inr ⟨rfl, .telling breaks (Resolved.write_of_sent sent)⟩
  | unsaved sent =>
    rw [Resolved.send_eq] at sent
    split at sent
    · cases sent
      exact .inl rfl
    · cases sent
    · next after' met written =>
      cases arrived : met.arrived with
      | none =>
        rw [arrived] at sent
        cases sent
        exact .inl rfl
      | some n =>
        rw [arrived] at sent
        cases sent
        rw [arriving, arrived, Option.getD_some] at written
        exact .inr ⟨rfl, .saving rfl arrived written⟩

/-- Nothing is unfinished when all that is sent arrives and no write breaks off. -/
theorem Unfinished.elim {bytes : Text.Bytes} {cause : EditorFailure} (delivers : Delivers trouble)
    (whole : ∀ cause, ¬ writer.Breaks cause) (unfinished : Unfinished writer path tree trouble bytes after cause) :
    False := by
  cases unfinished with
  | saving inTrouble arrived written => cases arrived.symm.trans (delivers _ inTrouble)
  | telling breaks written => exact whole _ breaks

/-- **A line that is not final** lets the editor go on, unless the write breaks off. -/
theorem stepOn_of_not_final {received : Received} (goesOn : received.isFinal = false) (writer : Writer) (page : Page)
    (editor : Editor) (tree : FileTree) (trouble : Option Trouble) :
    (∃ put buffer shown, editor.stepOn writer page tree received trouble = (put, .goesOn ⟨editor.path, buffer⟩ shown) ∧
        ∀ rest, remaining editor.buffer (received :: rest) = remaining buffer rest) ∨
      ∃ put cause, editor.stepOn writer page tree received trouble = (put, .ends (.failed (.writing cause)) tree "") ∧
        writer.Breaks cause := by
  obtain ⟨buffer, shown, stepped, left⟩ := step_of_not_final goesOn editor tree trouble
  unfold stepOn
  rw [stepped]
  dsimp only
  rcases page.put_cases writer (.other shown) with whole | ⟨put, cause, broke, breaks⟩
  · rw [whole]
    exact .inl ⟨_, buffer, shown, rfl, left⟩
  · rw [broke]
    exact .inr ⟨put, cause, rfl, breaks⟩

/-- **A final line ends the editor.** -/
theorem stepOn_of_final {received : Received} (final : received.isFinal = true) (writer : Writer) (page : Page)
    (editor : Editor) (tree : FileTree) (trouble : Option Trouble) :
    ∃ put outcome after shown, editor.stepOn writer page tree received trouble = (put, .ends outcome after shown) ∧
      Ends writer editor.path tree trouble editor.buffer received outcome after := by
  cases received with
  | malformed => exact ⟨page, _, _, _, rfl, .malformed⟩
  | line text =>
    rw [Received.isFinal, Bool.or_eq_true, decide_eq_true_eq, decide_eq_true_eq] at final
    rcases final with rfl | rfl
    · cases sent : editor.path.send trouble (Text.encode (savedText editor.buffer)) tree with
      | mk after outcome =>
        unfold stepOn
        cases outcome with
        | error cause =>
          have taken : editor.step tree (.line ":wq") trouble =
              .ends (.failed (.saving editor.path cause)) after "" := by
            rw [step, sent]
          rw [taken]
          exact ⟨page, _, after, _, rfl, .unsaved sent⟩
        | ok done =>
          have taken : editor.step tree (.line ":wq") trouble =
              .ends .saved after ("written to " ++ editor.path.text ++ "\n") := by
            rw [step, sent]
          rw [taken]
          dsimp only
          rcases page.put_cases writer (.other ("written to " ++ editor.path.text ++ "\n")) with
            whole | ⟨put, cause, broke, breaks⟩
          · rw [whole]
            exact ⟨_, _, after, _, rfl, .saved sent⟩
          · rw [broke]
            exact ⟨put, _, after, _, rfl, .untold sent breaks⟩
    · exact ⟨page, _, _, _, rfl, .quit⟩

/-- **Lines that are not final** are all taken and leave in the buffer what is left of them, unless a write breaks off.
Then the files are as they were. -/
theorem runOn_of_not_final {taken : List Received} (goOn : ∀ key ∈ taken, key.isFinal = false) (writer : Writer)
    (page : Page) (editor : Editor) (tree : FileTree) (rest : List Received) (trouble : Option Trouble) :
    (∃ put, editor.runOn writer page tree (taken ++ rest) trouble =
        Editor.runOn writer put ⟨editor.path, remaining editor.buffer taken⟩ tree rest trouble) ∨
      ∃ put front back cause, taken = front ++ back ∧ writer.Breaks cause ∧
        editor.runOn writer page tree (taken ++ rest) trouble =
          ⟨.failed (.writing cause), tree, put, back ++ rest⟩ := by
  induction taken generalizing editor page with
  | nil =>
    rw [remaining_nil]
    exact .inl ⟨page, rfl⟩
  | cons key taken ih =>
    obtain ⟨goesOn, others⟩ := List.forall_mem_cons.mp goOn
    rw [List.cons_append, runOn]
    rcases stepOn_of_not_final goesOn writer page editor tree trouble with
      ⟨put, buffer, told, stepped, left⟩ | ⟨put, cause, stepped, breaks⟩
    · rw [stepped, left]
      rcases ih others put ⟨editor.path, buffer⟩ with ran | ⟨last, front, back, cause, rfl, breaks, ran⟩
      · exact .inl ran
      · exact .inr ⟨last, key :: front, back, cause, rfl, breaks, ran⟩
    · rw [stepped]
      exact .inr ⟨put, [key], taken, cause, rfl, breaks, rfl⟩

/-- **How a sitting ends**, after the lines that were loaded: a write breaks off before there was a final line, or there
was none, or the first one ends it with what is left of the lines before it. It has taken nothing behind that. -/
inductive SittingEnds (writer : Writer) (path : Resolved) (tree : FileTree) (trouble : Option Trouble)
    (loaded : List String) (keys : List Received) (sitting : Sitting) : Prop where
  | cut {taken : List Received} {cause : HostError} (received : keys = taken ++ sitting.rest)
      (goOn : ∀ key ∈ taken, key.isFinal = false) (breaks : writer.Breaks cause)
      (outcome : sitting.outcome = .failed (.writing cause)) (same : sitting.tree = tree)
  | exhausted (goOn : ∀ key ∈ keys, key.isFinal = false) (outcome : sitting.outcome = .discarded)
      (same : sitting.tree = tree) (rest : sitting.rest = [])
  | final {taken : List Received} {final : Received} (received : keys = taken ++ final :: sitting.rest)
      (goOn : ∀ key ∈ taken, key.isFinal = false) (isFinal : final.isFinal = true)
      (ends : Ends writer path tree trouble (remaining loaded taken) final sitting.outcome sitting.tree)

/-- **A sitting ends in one of these ways.** -/
theorem runOn_ends (page : Page) (editor : Editor) (tree : FileTree) (keys : List Received) :
    SittingEnds writer editor.path tree trouble editor.buffer keys (editor.runOn writer page tree keys trouble) := by
  rcases Received.exists_final keys with none | ⟨taken, final, rest, rfl, isFinal, goOn⟩
  · have whole := runOn_of_not_final none writer page editor tree [] trouble
    rw [List.append_nil] at whole
    rcases whole with ⟨put, ran⟩ | ⟨put, front, back, cause, rfl, breaks, ran⟩
    · rw [ran]
      exact .exhausted none rfl rfl rfl
    · rw [ran]
      refine .cut ?_ (fun key mem => none key (List.mem_append_left back mem)) breaks rfl rfl
      rw [List.append_nil]
  · rcases runOn_of_not_final goOn writer page editor tree (final :: rest) trouble with
      ⟨put, ran⟩ | ⟨put, front, back, cause, rfl, breaks, ran⟩
    · obtain ⟨last, outcome, after, told, stepped, ends⟩ :=
        stepOn_of_final isFinal writer put ⟨editor.path, remaining editor.buffer taken⟩ tree trouble
      rw [ran, runOn, stepped]
      exact .final rfl goOn isFinal ends
    · rw [ran]
      exact .cut (List.append_assoc _ _ _) (fun key mem => goOn key (List.mem_append_left back mem)) breaks rfl rfl

end Sitting

/-! ## What is loaded and what is saved -/

/-- **The lines that are loaded**: those of the file that the path leads to, and none when it leads to no file. -/
def loaded (path : Resolved) (tree : FileTree) : List String :=
  match tree.readFile path.physical with
  | .ok bytes => Text.lines (Text.decodeLossy bytes)
  | .error _ => []

/-- An editor opens on the lines that are loaded. -/
theorem openOn_loaded (path : Resolved) (tree : FileTree) : openOn path tree = .ok ⟨path, loaded path tree⟩ := by
  rw [openOn]
  split
  · next regular =>
    obtain ⟨location, bytes, located, isFile⟩ := FileTree.pathIsRegular_iff.mp regular
    have read : tree.readFile path.physical = .ok bytes := by
      simp only [FileTree.readFile, FileTree.stat, located, isFile]
    rw [Resolved.readText, loaded, read]
    rfl
  · next noFile =>
    have unread (bytes : Text.Bytes) : tree.readFile path.physical ≠ .ok bytes := by
      intro read
      rw [FileTree.readFile] at read
      split at read
      · cases read
      · next bytes asked =>
        obtain ⟨location, located, isFile⟩ := FileTree.stat_ok.mp asked
        exact noFile (FileTree.pathIsRegular_iff.mpr ⟨location, bytes, located, isFile⟩)
      · cases read
    rw [loaded]
    cases read : tree.readFile path.physical with
    | ok bytes => exact absurd read (unread bytes)
    | error cause => rfl

/-- To edit a file is to show the lines that are loaded and to let them be edited, unless they cannot be shown. -/
theorem editOn_eq (writer : Writer) (page : Page) (path : Resolved) (tree : FileTree) (keys : List Received)
    (trouble : Option Trouble) :
    editOn writer page path tree keys trouble =
      match page.put writer (.other (greeting ⟨path, loaded path tree⟩)) with
      | (page, none) => Editor.runOn writer page ⟨path, loaded path tree⟩ tree keys trouble
      | (page, some cause) => ⟨.failed (.writing cause), tree, page, keys⟩ := by
  have opens := openOn_loaded path tree
  unfold editOn
  generalize openOn path tree = opened at opens
  obtain rfl := opens
  rfl

/-- **How a sitting ends** that begins with opening the editor. -/
theorem editOn_ends (writer : Writer) (page : Page) (path : Resolved) (tree : FileTree) (keys : List Received)
    (trouble : Option Trouble) :
    SittingEnds writer path tree trouble (loaded path tree) keys (editOn writer page path tree keys trouble) := by
  rw [editOn_eq]
  rcases page.put_cases writer (.other (greeting ⟨path, loaded path tree⟩)) with whole | ⟨put, cause, broke, breaks⟩
  · rw [whole]
    exact runOn_ends _ ⟨path, loaded path tree⟩ tree keys
  · rw [broke]
    exact .cut (List.nil_append keys).symm nofun breaks rfl rfl

/-- **Lines as they stand in a file**, each with a line feed behind it. -/
def ended (lines : List String) : String :=
  String.join (lines.map (· ++ "\n"))

theorem ended_eq_joined {lines : List String} (ne : lines ≠ []) : ended lines = Text.joinWith "\n" lines ++ "\n" := by
  induction lines with
  | nil => exact absurd rfl ne
  | cons line rest ih =>
    cases rest with
    | nil => simp [ended, Text.joinWith]
    | cons next rest =>
      have others := ih (List.cons_ne_nil next rest)
      rw [ended] at others
      rw [ended, List.map_cons, String.join_cons, others]
      simp [Text.joinWith, String.append_assoc]

/-- **A buffer is saved as its lines**, but for that of one empty line. -/
theorem savedText_eq_ended_iff {buffer : List String} : savedText buffer = ended buffer ↔ buffer ≠ [""] := by
  by_cases empty : buffer = [""]
  · rw [empty]
    decide
  · rw [savedText_eq]
    by_cases nothing : buffer = []
    · simp [nothing, ended]
    · simp [nothing, empty, ended_eq_joined nothing]

end Editor

/-! ## The prompt behind the editor -/

namespace Terminal

/-- The terminal once its editor has been closed, with the files that the editor has left, after the time has run on
`n` times. -/
def closedOn (terminal : Terminal) (tree : FileTree) : Nat → Terminal
  | 0 =>
    { terminal with
      session := { terminal.session with scene := { terminal.session.scene with tree } }
      editor := none }
  | n + 1 => terminal.tick.closedOn tree n

/-- Which editor was open is nothing to a terminal that has closed it. -/
theorem closedOn_editor (terminal : Terminal) (editor : Option Editor) (tree : FileTree) (n : Nat) :
    { terminal with editor }.closedOn tree n = terminal.closedOn tree n := by
  induction n generalizing terminal with
  | zero => rfl
  | succ n ih => exact ih terminal.tick

/-- What a terminal does behind a step with the lines that come after it. -/
def goOn (writer : Writer) (rest : List Received) : Page × Terminal × Status → Sitting
  | (page, terminal, .running) => terminal.tick.runOn writer page rest
  | (page, terminal, .finished) => ⟨terminal, page, none⟩
  | (page, terminal, .failed stop) => ⟨terminal, page, some stop⟩

/-- **What a terminal does behind its editor**: it tells of a failure, and then the prompt goes on with what the editor
has not taken. -/
def behind (writer : Writer) (closed : Terminal) (sitting : Editor.Sitting) : Sitting :=
  match sitting.outcome with
  | .failed cause =>
    match sitting.page.put writer (.other (editorFailureMark ++ cause.message ++ "\n")) with
    | (page, none) => closed.runOn writer page sitting.rest
    | (page, some cause) => ⟨closed, page, some (.writing cause)⟩
  | _ => closed.runOn writer sitting.page sitting.rest

/-- The session is not left by closing the editor. -/
theorem status_closedOn {terminal : Terminal} (stays : terminal.session.exitRequested = false) (tree : FileTree) :
    (terminal.closedOn tree 0).status = .running :=
  if_neg (ne_true_of_eq_false stays)

/-- A terminal whose editor has failed goes on as the prompt behind it. -/
theorem goOn_failEditor {terminal : Terminal} (stays : terminal.session.exitRequested = false) (tree : FileTree)
    (writer : Writer) (page : Page) (cause : EditorFailure) (rest : List Received) :
    ∃ n, goOn writer rest ((terminal.closedOn tree 0).failEditor writer page cause) =
      (terminal.closedOn tree n).behind writer ⟨.failed cause, tree, page, rest⟩ := by
  have running := status_closedOn stays tree
  have closed : { terminal.closedOn tree 0 with editor := none } = terminal.closedOn tree 0 := rfl
  unfold failEditor behind
  rw [closed]
  dsimp only
  cases page.put writer (.other (editorFailureMark ++ cause.message ++ "\n")) with
  | mk put broke =>
    cases broke with
    | none =>
      refine ⟨1, ?_⟩
      dsimp only
      rw [running]
      rfl
    | some met => exact ⟨0, rfl⟩

/-- At the end of the input an open editor is closed, and a last prompt is shown. -/
theorem runOn_nil_of_open {terminal : Terminal} {editor : Editor} (opened : terminal.editor = some editor)
    (stays : terminal.session.exitRequested = false) (writer : Writer) (page : Page) :
    terminal.runOn writer page [] = (terminal.closedOn terminal.session.scene.tree 0).runOn writer page [] := by
  have awaited : terminal.awaitOn writer page = (page, none) := by rw [awaitOn, opened]
  have closed : { terminal with editor := none } = terminal.closedOn terminal.session.scene.tree 0 := rfl
  unfold runOn
  rw [awaited]
  dsimp only
  rw [closeOn, opened]
  dsimp only
  rw [stays, closed]
  generalize last : terminal.closedOn terminal.session.scene.tree 0 = after
  have shut : after.editor = none := last ▸ rfl
  have same : { after with editor := none } = after := by rw [← shut]
  unfold awaitOn closeOn
  rw [shut, same]
  dsimp only
  rw [if_neg Bool.false_ne_true, Page.putAll]
  cases page.put writer (.other after.awaiting) with
  | mk put broke => cases broke <;> rfl

/-- **A terminal with an open editor runs** as the editor does, and then goes on with what the editor has not taken. -/
theorem runOn_of_open {terminal : Terminal} {editor : Editor} (opened : terminal.editor = some editor)
    (stays : terminal.session.exitRequested = false) (writer : Writer) (page : Page) (script : List Received) :
    let sitting := editor.runOn writer page terminal.session.scene.tree script terminal.session.trouble
    ∃ n, terminal.runOn writer page script = (terminal.closedOn sitting.tree n).behind writer sitting := by
  induction script generalizing terminal editor page with
  | nil => exact ⟨0, runOn_nil_of_open opened stays writer page⟩
  | cons received rest ih =>
    have awaited : terminal.awaitOn writer page = (page, none) := by rw [awaitOn, opened]
    have goesOn : terminal.runOn writer page (received :: rest) =
        goOn writer rest (terminal.stepEditorOn writer page editor received) := by
      unfold runOn
      rw [awaited]
      dsimp only
      unfold stepOn
      rw [opened]
      rfl
    rw [goesOn]
    unfold stepEditorOn Editor.runOn
    dsimp only
    cases editor.stepOn writer page terminal.session.scene.tree received terminal.session.trouble with
    | mk put step =>
      cases step with
      | goesOn next shown =>
        have isOpen : { terminal with editor := some next }.tick.editor = some next := rfl
        obtain ⟨n, ran⟩ := ih isOpen stays put
        refine ⟨n + 1, ran.trans ?_⟩
        rw [closedOn]
        exact congrArg (behind writer · _) (closedOn_editor terminal.tick (some next) _ n)
      | ends outcome tree shown =>
        have running := status_closedOn stays tree
        have closed : { terminal with
            session := { terminal.session with scene := { terminal.session.scene with tree } }
            editor := none } = terminal.closedOn tree 0 := rfl
        dsimp only
        rw [closed]
        cases outcome with
        | failed cause => exact goOn_failEditor stays tree writer put cause rest
        | saved | discarded =>
          refine ⟨1, ?_⟩
          dsimp only
          rw [running]
          rfl

/-- The terminal that no longer waits for the editor it was asked for. -/
def answered (terminal : Terminal) : Terminal :=
  { terminal with session := terminal.session.takeEditorRequest.2 }

/-- A terminal that was asked for an editor opens it on the lines that are loaded, unless they cannot be shown. -/
theorem openEditorOn_of_asked {asking : Terminal} {path : Resolved} (asked : asking.session.editorRequest = some path)
    (writer : Writer) (page : Page) :
    let editor : Editor := ⟨path, Editor.loaded path asking.session.scene.tree⟩
    asking.openEditorOn writer page =
      match page.put writer (.other editor.greeting) with
      | (page, none) => (page, { asking.answered with editor := some editor }, .running)
      | (page, some cause) => asking.answered.failEditor writer page (.writing cause) := by
  intro editor
  have request : asking.session.takeEditorRequest = (some path, asking.answered.session) := Prod.ext asked rfl
  have opens : Editor.openOn path asking.answered.session.scene.tree = .ok editor := Editor.openOn_loaded path _
  unfold openEditorOn
  rw [request]
  dsimp only
  rw [opens]
  rfl

/-- **A terminal that was asked for an editor** opens it, runs as the editor does, and then goes on with what the editor
has not taken. -/
theorem goOn_openEditorOn {asking : Terminal} {path : Resolved} (asked : asking.session.editorRequest = some path)
    (stays : asking.session.exitRequested = false) (closed : asking.editor = none) (writer : Writer) (page : Page)
    (script : List Received) :
    let sitting := Editor.editOn writer page path asking.session.scene.tree script asking.session.trouble
    ∃ n, goOn writer script (asking.openEditorOn writer page) =
      (asking.answered.closedOn sitting.tree n).behind writer sitting := by
  have remains : asking.answered.session.exitRequested = false := stays
  have shut : asking.answered.closedOn asking.session.scene.tree 0 = asking.answered := by
    rw [closedOn, answered, closed]
    rfl
  rw [openEditorOn_of_asked asked, Editor.editOn_eq]
  cases page.put writer (.other (Editor.greeting ⟨path, Editor.loaded path asking.session.scene.tree⟩)) with
  | mk put broke =>
    cases broke with
    | none =>
      generalize Editor.loaded path asking.session.scene.tree = buffer
      have isOpen : { asking.answered with editor := some ⟨path, buffer⟩ }.tick.editor = some ⟨path, buffer⟩ := rfl
      obtain ⟨n, ran⟩ := runOn_of_open isOpen remains writer put script
      refine ⟨n + 1, ran.trans ?_⟩
      exact congrArg (behind writer · _) (closedOn_editor asking.answered.tick (some ⟨path, buffer⟩) _ n)
    | some cause =>
      obtain ⟨n, goes⟩ :=
        goOn_failEditor remains asking.session.scene.tree writer put (.writing cause) script
      rw [shut] at goes
      exact ⟨n, goes⟩

end Terminal

namespace Editor

variable {path : Resolved} {tree after : FileTree}

/-- **What writing a file changes**: the one location that the path leads to holds the bytes, and all others are as they
were. -/
theorem changed_of_write {bytes : Text.Bytes} (written : path.write tree bytes = .ok after) :
    ∃ location, tree.writableLocation path.physical = .ok location ∧
      after.locate .follow path.physical = .ok (.found location) ∧ after.kindAt? location = some (.file bytes) ∧
      ∀ other, other ≠ location → after.kindAt? other = tree.kindAt? other := by
  obtain ⟨location, opened, rfl⟩ := map_eq_ok.mp (Resolved.write_eq_ok.mp written)
  obtain ⟨-, noDirectory⟩ := FileTree.exists_place_of_writable opened
  refine ⟨location, opened, FileTree.locate_put_writable opened, Resolved.kindAt?_of_write opened written,
    fun other ne => ?_⟩
  exact FileTree.kindAt?_put_leaf (fun _ => FileTree.kindAt?_below noDirectory)
    (fun _ => FileTree.kindAt?_file_below bytes) ne

section Ends

variable {writer : Writer} {trouble : Option Trouble} {buffer : List String} {keys : List Received} {sitting : Sitting}

/-- An editor that discards its buffer leaves the files as they were. -/
theorem SittingEnds.tree_of_discarded (ends : SittingEnds writer path tree trouble buffer keys sitting)
    (discarded : sitting.outcome = .discarded) : sitting.tree = tree := by
  cases ends with
  | cut received goOn breaks outcome same => exact same
  | exhausted goOn outcome same rest => exact same
  | final received goOn isFinal ends =>
    rw [discarded] at ends
    exact ends.tree_of_discarded

/-- An editor that fails leaves the files as they were, or it was about to save what was left of the lines. -/
theorem SittingEnds.of_failed (ends : SittingEnds writer path tree trouble buffer keys sitting) {cause : EditorFailure}
    (failed : sitting.outcome = .failed cause) :
    sitting.tree = tree ∨ ∃ taken,
      keys = taken ++ .line ":wq" :: sitting.rest ∧ (∀ key ∈ taken, key.isFinal = false) ∧
        Unfinished writer path tree trouble (Text.encode (savedText (remaining buffer taken))) sitting.tree cause := by
  cases ends with
  | cut received goOn breaks outcome same => exact .inl same
  | exhausted goOn outcome same rest => exact .inl same
  | final received goOn isFinal ends =>
    rw [failed] at ends
    refine ends.of_failed.imp_right ?_
    rintro ⟨rfl, unfinished⟩
    exact ⟨_, received, goOn, unfinished⟩

/-- **An editor that does not save** leaves the files as they were when all that is sent arrives and no write breaks
off. -/
theorem SittingEnds.tree_of_unsaved (ends : SittingEnds writer path tree trouble buffer keys sitting)
    (unsaved : sitting.outcome ≠ .saved) (delivers : Delivers trouble) (whole : ∀ cause, ¬ writer.Breaks cause) :
    sitting.tree = tree := by
  cases outcome : sitting.outcome with
  | saved => exact absurd outcome unsaved
  | discarded => exact ends.tree_of_discarded outcome
  | failed cause =>
    rcases ends.of_failed outcome with same | ⟨taken, -, -, unfinished⟩
    · exact same
    · exact (unfinished.elim delivers whole).elim

/-- An editor that saves has written what was left of the lines, and was told to. -/
theorem SittingEnds.of_saved (ends : SittingEnds writer path tree trouble buffer keys sitting)
    (saved : sitting.outcome = .saved) :
    ∃ taken, keys = taken ++ .line ":wq" :: sitting.rest ∧ (∀ key ∈ taken, key.isFinal = false) ∧
      path.write tree (Text.encode (savedText (remaining buffer taken))) = .ok sitting.tree := by
  cases ends with
  | cut received goOn breaks outcome same => cases saved.symm.trans outcome
  | exhausted goOn outcome same rest => cases saved.symm.trans outcome
  | final received goOn isFinal ends =>
    rw [saved] at ends
    obtain ⟨rfl, written⟩ := ends.of_saved
    exact ⟨_, received, goOn, written⟩

/-- **The bytes of the keys** fall into those that were taken and those that are left. -/
theorem SittingEnds.exists_bytes {bytes : Text.Bytes}
    (ends : SittingEnds writer path tree trouble buffer (Received.ofBytes bytes) sitting) :
    ∃ front back, bytes = front ++ back ∧ Received.ofBytes back = sitting.rest ∧
      ((∃ taken final, Received.ofBytes front = taken ++ [final] ∧ final.isFinal = true ∧
          ∀ key ∈ taken, key.isFinal = false) ∨
        (∀ key ∈ Received.ofBytes front, key.isFinal = false) ∧
          (back = [] ∧ sitting.outcome = .discarded ∨
            ∃ cause, sitting.outcome = .failed (.writing cause) ∧ writer.Breaks cause)) := by
  cases ends with
  | cut received goOn breaks outcome same =>
    obtain ⟨front, back, split, rfl, isBack⟩ := Received.exists_of_ofBytes_eq_append received
    exact ⟨front, back, split, isBack, .inr ⟨goOn, .inr ⟨_, outcome, breaks⟩⟩⟩
  | exhausted goOn outcome same rest =>
    exact ⟨bytes, [], (List.append_nil bytes).symm, rest.symm, .inr ⟨goOn, .inl ⟨rfl, outcome⟩⟩⟩
  | final received goOn isFinal ends =>
    rw [← List.singleton_append, ← List.append_assoc] at received
    obtain ⟨front, back, split, isFront, isBack⟩ := Received.exists_of_ofBytes_eq_append received
    exact ⟨front, back, split, isBack, .inl ⟨_, _, isFront, isFinal, goOn⟩⟩

end Ends

/-- **Nothing is written but by `:wq`.** An editor is opened on a path, whatever is there, and gets any bytes as keys,
with any page and any trouble of the storage.

Unless it has saved, the files are as they were, if all that is sent to an open file arrives and no write to the page
breaks off. Without these assumptions: an editor that has discarded its buffer has left the files as they were, and so
has one that has failed, unless it was about to save.

If it has saved, it has ended with `:wq` as its first final line; the one location that the path leads to has changed,
and it holds the loaded lines and the typed ones as far as no deletion has taken them back, each with a line feed behind
it, or no bytes in their place when they are one empty line.

The bytes of the keys fall into those that the editor has taken and those that are left. It has taken all up to its
first final line; or all, and discarded its buffer, when there is none; or none that is final, when a write has broken
off. A terminal that was asked for the editor does what the editor does, and goes on from there with what is left. -/
theorem edit_writes_on_save (writer : Writer) (page : Page) (path : Resolved) (tree : FileTree) (keys : Text.Bytes)
    (trouble : Option Trouble) :
    let sitting := editOn writer page path tree (Received.ofBytes keys) trouble
    (sitting.outcome ≠ .saved → Delivers trouble → (∀ cause, ¬ writer.Breaks cause) → sitting.tree = tree) ∧
      (sitting.outcome = .discarded → sitting.tree = tree) ∧
      (∀ cause, sitting.outcome = .failed cause → sitting.tree = tree ∨ ∃ taken,
        Received.ofBytes keys = taken ++ .line ":wq" :: sitting.rest ∧ (∀ key ∈ taken, key.isFinal = false) ∧
          Unfinished writer path tree trouble (Text.encode (savedText (remaining (loaded path tree) taken)))
            sitting.tree cause) ∧
      (sitting.outcome = .saved → ∃ taken location bytes,
        Received.ofBytes keys = taken ++ .line ":wq" :: sitting.rest ∧ (∀ key ∈ taken, key.isFinal = false) ∧
          tree.writableLocation path.physical = .ok location ∧
          sitting.tree.locate .follow path.physical = .ok (.found location) ∧
          sitting.tree.kindAt? location = some (.file bytes) ∧
          (∀ other, other ≠ location → sitting.tree.kindAt? other = tree.kindAt? other) ∧
          let lines := remaining (loaded path tree) taken
          (bytes = Text.encode (ended lines) ↔ lines ≠ [""]) ∧ (lines = [""] → bytes = [])) ∧
      (∃ front back, keys = front ++ back ∧ Received.ofBytes back = sitting.rest ∧
        ((∃ taken final, Received.ofBytes front = taken ++ [final] ∧ final.isFinal = true ∧
            ∀ key ∈ taken, key.isFinal = false) ∨
          (∀ key ∈ Received.ofBytes front, key.isFinal = false) ∧
            (back = [] ∧ sitting.outcome = .discarded ∨
              ∃ cause, sitting.outcome = .failed (.writing cause) ∧ writer.Breaks cause))) ∧
      ∀ asking : Terminal, asking.session.editorRequest = some path → asking.session.scene.tree = tree →
        asking.session.trouble = trouble → asking.session.exitRequested = false → asking.editor = none →
          ∃ n, Terminal.goOn writer (Received.ofBytes keys) (asking.openEditorOn writer page) =
            (asking.answered.closedOn sitting.tree n).behind writer sitting := by
  intro sitting
  have ends : SittingEnds writer path tree trouble (loaded path tree) (Received.ofBytes keys) sitting :=
    editOn_ends writer page path tree (Received.ofBytes keys) trouble
  refine ⟨ends.tree_of_unsaved, ends.tree_of_discarded, fun cause => ends.of_failed, fun saved => ?_,
    ends.exists_bytes, ?terminal⟩
  case terminal =>
    rintro asking asked rfl rfl stays closed
    exact Terminal.goOn_openEditorOn asked stays closed writer page _
  obtain ⟨taken, received, goOn, written⟩ := ends.of_saved saved
  obtain ⟨location, opened, located, holds, others⟩ := changed_of_write written
  refine ⟨taken, location, _, received, goOn, opened, located, holds, others, ?_, fun empty => ?_⟩
  · rw [Text.encode_inj]
    exact savedText_eq_ended_iff
  · rw [empty]
    rfl

end Editor

namespace Draft

/-- A session over the files. -/
def session (files : Entries) : Session Listener :=
  .start ⟨Commands.builtin ""⟩ ⟨["root"]⟩ (Clock.fixed ⟨2024, 1, 1, 0, 0, 0⟩ 0) (tree files) Listener.start

/-- A terminal that was asked for an editor of the file. -/
def asking (files : Entries) : Terminal :=
  .start { session files with editorRequest := some path } "host" "$ " 0

/-- A file of two lines, and one beside it. -/
def files : Entries :=
  [("e", .file (Text.encode "kept")), ("f", .file (Text.encode "one\r\ntwo"))]

/-- More deletions than there are lines, typed lines of which one is taken back, and a command behind the end. -/
def keys : Text.Bytes :=
  Text.encode ":d\n:d\n:d\nx\ny\n:d\n:p\n é\r\n:wq\necho z\n"

end Draft

namespace Editor

/-- What is left of the typed lines is saved, and the command is run by the prompt. -/
theorem edit_writes_on_save_of_deletions :
    let sitting := editOn Writer.sound [] Draft.path (Draft.tree Draft.files) (Received.ofBytes Draft.keys)
    sitting.outcome = .saved ∧ sitting.rest = [.line "echo z"] ∧
      sitting.tree.kindAt? ["root", "f"] = some (.file (Text.encode "x\n é\n")) ∧
      (∀ other, other ≠ ["root", "f"] → sitting.tree.kindAt? other = (Draft.tree Draft.files).kindAt? other) ∧
      (editOn Writer.sound [] Draft.path (Draft.tree Draft.files) (Received.ofBytes [0x78, 0xFF])).tree =
        Draft.tree Draft.files ∧
      ∃ n, Terminal.goOn Writer.sound (Received.ofBytes Draft.keys)
          ((Draft.asking Draft.files).openEditorOn Writer.sound []) =
        ((Draft.asking Draft.files).answered.closedOn sitting.tree n).behind Writer.sound sitting := by
  intro sitting
  have saved : sitting.outcome = .saved := by decide +kernel
  have left : sitting.rest = [.line "echo z"] := by decide +kernel
  have broken : (editOn Writer.sound [] Draft.path (Draft.tree Draft.files)
      (Received.ofBytes [0x78, 0xFF])).outcome ≠ .saved := by
    decide +kernel
  obtain ⟨-, -, -, changed, -, goesOn⟩ :=
    edit_writes_on_save Writer.sound [] Draft.path (Draft.tree Draft.files) Draft.keys none
  obtain ⟨taken, location, bytes, received, -, opened, -, holds, others, same, -⟩ := changed saved
  have known : Received.ofBytes Draft.keys =
      [.line ":d", .line ":d", .line ":d", .line "x", .line "y", .line ":d", .line ":p", .line " é"] ++
        .line ":wq" :: [.line "echo z"] := by
    decide +kernel
  rw [left, known] at received
  obtain rfl := List.append_cancel_right received
  have place : (Draft.tree Draft.files).writableLocation Draft.path.physical = .ok ["root", "f"] := rfl
  obtain rfl : ["root", "f"] = location := Except.ok.inj (place.symm.trans opened)
  have lines : remaining (loaded Draft.path (Draft.tree Draft.files))
      [.line ":d", .line ":d", .line ":d", .line "x", .line "y", .line ":d", .line ":p", .line " é"] = ["x", " é"] := by
    decide +kernel
  rw [lines] at same
  obtain rfl := same.mpr (by decide)
  have untouched := (edit_writes_on_save Writer.sound [] Draft.path (Draft.tree Draft.files) [0x78, 0xFF] none).1
    broken nofun nofun
  exact ⟨saved, left, holds, others, untouched, goesOn (Draft.asking Draft.files) rfl rfl rfl rfl rfl⟩

/-- **An empty line is not saved.** It is typed into a new file and is left when the editor saves, but the file holds no
line feed. -/
theorem empty_line_is_not_saved :
    let tree := Draft.tree []
    let sitting := editOn Writer.sound [] Draft.path tree (Received.ofBytes (Text.encode "\n:wq\n"))
    sitting.outcome = .saved ∧ remaining (loaded Draft.path tree) [.line ""] = [""] ∧
      sitting.tree.kindAt? ["root", "f"] = some (.file []) ∧ Text.encode (ended [""]) = [0x0A] := by
  decide +kernel

end Editor

end ConfinedShell
