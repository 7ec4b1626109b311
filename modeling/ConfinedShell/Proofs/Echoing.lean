import ConfinedShell.Proofs.Growth
import ConfinedShell.Proofs.Reports
import ConfinedShell.Proofs.Saving

/-!
# What `echo` prints and what it writes

A line that is put together of words with single blanks between them is parted into these words again
(`tokenize_joinWith`). `echo` joins the words behind its name, takes at most one pair of matching quotes off
(`Commands.unquoted`), and prints the text or, in front of a `>`, writes it to a file. The two ways are taken by
different branches of the command, of which only one trims the text; trimming does nothing there.

**What was written is what would have been printed.** After a line that reports that it has written to a file, showing
the file adds what printing adds (`Session.added_cat_written`). The text passes through bytes on its way, and is read
from them as it was (`Text.decodeLossy_encode`). The file is found by the name it was written by, because writing a file
lets the tree grow (`FileTree.Grown`).
-/

set_option autoImplicit false

namespace ConfinedShell

/-! ## Words with blanks between them -/

namespace Text

/-- **A word** is a text without blanks that is not empty. -/
structure IsWord (s : String) : Prop where
  ne : s ≠ ""
  free : IsFree isBlank s.toList

instance (s : String) : Decidable (IsFree isBlank s.toList) :=
  List.decidableBAll (fun c => isBlank c = false) s.toList

instance (s : String) : Decidable (IsWord s) :=
  decidable_of_iff (s ≠ "" ∧ IsFree isBlank s.toList) ⟨fun both => ⟨both.1, both.2⟩, fun word => ⟨word.1, word.2⟩⟩

theorem IsWord.toList_ne {word : String} (isWord : IsWord word) : word.toList ≠ [] :=
  fun nil => isWord.ne (String.toList_eq_nil_iff.mp nil)

/-- A word is the only word of itself, -/
theorem words_word {word : String} (isWord : IsWord word) : words word = [word] := by
  rw [words, wordsOf, List.splitOnP_eq_singleton isWord.free]
  simp [isWord.ne]

/-- and the first word of a text in which a blank is behind it. -/
theorem words_word_append {word : String} (isWord : IsWord word) (rest : String) :
    words (word ++ " " ++ rest) = word :: words rest := by
  have spelt : (word ++ " " ++ rest).toList = word.toList ++ ' ' :: rest.toList := by simp
  have cut := List.splitOnP_append_cons (p := isBlank) word.toList rest.toList (by decide : isBlank ' ' = true)
  rw [words, wordsOf, spelt, cut, List.splitOnP_eq_singleton isWord.free]
  simp [isWord.ne, words, wordsOf]

/-- **Joined words are parted again.** -/
theorem words_joinWith {tokens : List String} (all : ∀ token ∈ tokens, IsWord token) :
    words (joinWith " " tokens) = tokens := by
  induction tokens with
  | nil => decide
  | cons token rest ih =>
    obtain ⟨isWord, others⟩ := List.forall_mem_cons.mp all
    cases rest with
    | nil => exact words_word isWord
    | cons next rest => exact (words_word_append isWord _).trans (congrArg _ (ih others))

/-- **A tidy list** begins and ends with characters that are not blank. -/
structure Tidy (cs : List Char) : Prop where
  begins : ∃ c, cs.head? = some c ∧ isBlank c = false
  ends : ∃ c, cs.getLast? = some c ∧ isBlank c = false

theorem IsWord.tidy {word : String} (isWord : IsWord word) : Tidy word.toList where
  begins := ⟨word.toList.head isWord.toList_ne, List.head?_eq_some_head _, isWord.free _ (List.head_mem _)⟩
  ends := ⟨word.toList.getLast isWord.toList_ne, List.getLast?_eq_some_getLast _, isWord.free _ (List.getLast_mem _)⟩

/-- Whatever stands between two tidy lists. -/
theorem Tidy.append {front back : List Char} (first : Tidy front) (last : Tidy back) (between : List Char) :
    Tidy (front ++ between ++ back) := by
  obtain ⟨c, begins, notBlank⟩ := first.begins
  obtain ⟨d, ends, lastNotBlank⟩ := last.ends
  exact ⟨⟨c, by simp [begins], notBlank⟩, d, by simp [List.getLast?_append, ends], lastNotBlank⟩

/-- Nothing is trimmed off a tidy list. -/
theorem Tidy.trimBlanks {cs : List Char} (tidy : Tidy cs) : trimBlanks cs = cs := by
  have keeps {ds : List Char} (first : ∃ c, ds.head? = some c ∧ isBlank c = false) : ds.dropWhile isBlank = ds := by
    obtain ⟨c, begins, notBlank⟩ := first
    obtain ⟨rest, rfl⟩ := List.head?_eq_some_iff.mp begins
    simp [notBlank]
  rw [Text.trimBlanks, trimEnd, keeps tidy.begins, keeps (List.head?_reverse ▸ tidy.ends), List.reverse_reverse]

theorem tidy_joinWith {tokens : List String} (all : ∀ token ∈ tokens, IsWord token) (ne : tokens ≠ []) :
    Tidy (joinWith " " tokens).toList := by
  induction tokens with
  | nil => exact absurd rfl ne
  | cons token rest ih =>
    obtain ⟨isWord, others⟩ := List.forall_mem_cons.mp all
    cases rest with
    | nil => exact isWord.tidy
    | cons next rest =>
      have spelt : (joinWith " " (token :: next :: rest)).toList =
          token.toList ++ " ".toList ++ (joinWith " " (next :: rest)).toList := by
        simp [joinWith]
      rw [spelt]
      exact isWord.tidy.append (ih others (List.cons_ne_nil _ _)) _

/-- **Joined words are trimmed already.** -/
theorem trim_joinWith {tokens : List String} (all : ∀ token ∈ tokens, IsWord token) :
    trim (joinWith " " tokens) = joinWith " " tokens := by
  by_cases ne : tokens = []
  · rw [ne]
    decide
  · rw [trim, (tidy_joinWith all ne).trimBlanks, String.ofList_toList]

end Text

/-- A line of words is parted into its name and its arguments. -/
theorem tokenize_joinWith {name : String} {arguments : List String}
    (all : ∀ token ∈ name :: arguments, Text.IsWord token) :
    tokenize (Text.trim (Text.joinWith " " (name :: arguments))) = some (name, arguments) := by
  rw [Text.trim_joinWith all, tokenize, Text.words_joinWith all]

/-! ## Quotes -/

namespace Commands

/-- A text that **quotes** a body has the body between two marks, which are both double or both single. -/
def Quotes (text body : String) : Prop :=
  ∃ mark ∈ ['\x22', '\x27'], text.toList = mark :: body.toList ++ [mark]

/-- **A text without its outer quotes**: the body that it quotes, or all of it when it quotes none. -/
inductive Unquoted : String → String → Prop where
  | bare {text : String} (unquoted : ∀ body, ¬ Quotes text body) : Unquoted text text
  | body {text body : String} (quotes : Quotes text body) : Unquoted text body

theorem stripMark?_eq_some {mark : Char} {cs body : List Char} :
    stripMark? mark cs = some body ↔ cs = mark :: body ++ [mark] := by
  cases cs with
  | nil => simp [stripMark?]
  | cons first rest =>
    rw [stripMark?]
    constructor
    · intro stripped
      split at stripped
      · next both =>
        obtain ⟨rfl, isLast⟩ := both
        obtain ⟨front, rfl⟩ := List.getLast?_eq_some_iff.mp isLast
        rw [List.dropLast_concat] at stripped
        cases stripped
        rfl
      · cases stripped
    · intro spelt
      obtain ⟨rfl, rfl⟩ := List.cons.inj spelt
      simp

/-- **At most one pair of matching quotes** is taken off. -/
theorem unquoted (text : String) : Unquoted text (unquote text) := by
  have taken {mark : Char} {body : List Char} (mem : mark ∈ ['\x22', '\x27'])
      (stripped : stripMark? mark text.toList = some body) : Unquoted text (String.ofList body) := by
    refine .body ⟨mark, mem, ?_⟩
    rw [String.toList_ofList]
    exact stripMark?_eq_some.mp stripped
  rw [unquote]
  split
  · next stripped => exact taken (by simp) stripped
  · next noDouble =>
    split
    · next stripped => exact taken (by simp) stripped
    · next noSingle =>
      refine .bare fun body ⟨mark, mem, spelt⟩ => ?_
      have stripped := stripMark?_eq_some.mpr spelt
      simp only [List.mem_cons, List.not_mem_nil, or_false] at mem
      rcases mem with rfl | rfl
      · rw [noDouble] at stripped
        cases stripped
      · rw [noSingle] at stripped
        cases stripped

/-! ## The two ways of `echo` -/

variable {around : Surroundings} {scene : Scene} {tokens : List String} {file : String}

/-- Without a `>` the text is printed. -/
theorem echo_ok (ne : tokens ≠ []) (unmarked : ">" ∉ tokens) :
    echo.run around tokens scene = .ok (.text (unquote (Text.joinWith " " tokens))) scene := by
  have some : tokens.isEmpty = false := by simpa using ne
  have plain : (!tokens.contains ">") = true := by simpa using unmarked
  rw [echo]
  dsimp only
  rw [some, if_neg Bool.false_ne_true, if_pos plain]
  rfl

/-- With a `>` behind it the same text is written. -/
theorem ensures_echo_written (all : ∀ token ∈ tokens, Text.IsWord token) (unmarked : ">" ∉ tokens) :
    Action.Ensures scene (echo.run around (tokens ++ [">", file]))
      (fun _ after => ∃ path tree, around.sandbox.resolve scene.tree scene.cwd file = .ok path ∧
        path.write scene.tree (Text.encode (unquote (Text.joinWith " " tokens))) = .ok tree ∧
        after = { scene with tree }) fun _ => True := by
  have before : ∀ token ∈ tokens, decide (token ≠ ">") = true := fun token mem =>
    decide_eq_true fun isMark => unmarked (isMark ▸ mem)
  have text : (tokens ++ [">", file]).takeWhile (· ≠ ">") = tokens := by
    rw [List.takeWhile_append_of_pos before]
    simp
  have named : ((tokens ++ [">", file]).dropWhile (· ≠ ">")).drop 1 = [file] := by
    rw [List.dropWhile_append_of_pos before]
    simp
  rw [echo]
  dsimp only
  rw [text, named, Text.trim_joinWith all]
  split
  · exact .fail
  split
  · next plain => simp at plain
  split
  · exact .fail
  exact .resolve fun path resolved => .attempt
    (fun tree _ sent => ⟨path, tree, resolved, Resolved.write_of_sent sent, rfl⟩) fun _ _ _ => .inr trivial

end Commands

/-! ## What was written is shown -/

namespace Session

variable {σ : Type} {session : Session σ} {suffix file : String} {tokens : List String}

/-- A file that a checked path was used to write can be read by the same name. -/
theorem reads_of_write {after : Session σ} {path : Resolved} {bytes : Text.Bytes} {tree : FileTree}
    (stands : session.sandbox.Stands session.scene.tree) (sandbox : after.sandbox = session.sandbox)
    (scene : after.scene = { session.scene with tree })
    (resolved : session.sandbox.resolve session.scene.tree session.scene.cwd file = .ok path)
    (written : path.write session.scene.tree bytes = .ok tree) : after.Reads file bytes := by
  obtain ⟨grown, exist⟩ := FileTree.grown_of_writeFile (Resolved.write_eq_ok.mp written)
  have again : session.sandbox.resolve tree session.scene.cwd file = .ok path :=
    Sandbox.resolveVirtual_of_grown grown stands resolved exist
  refine ⟨path, ?_, ?_⟩
  · rw [sandbox, scene]
    exact again
  · rw [scene]
    exact Editor.readFile_of_write written

/-- **What is written is what is printed.** Take any words, none of which is a `>`, and a line that hands them to
`echo` with a `>` and the name of a file behind them. If the line reports that it has written to the file, then the
file holds, whatever it held before, the bytes of the words with single blanks between them, less at most one pair of
matching quotes around the whole. The line leaves the current directory as it is, and showing the file then adds the
same lines to the transcript as handing the words to `echo` alone. -/
theorem added_cat_written (builtin : session.registry = ⟨Commands.builtin suffix⟩)
    (stands : session.sandbox.Stands session.scene.tree) (ne : tokens ≠ [])
    (all : ∀ token ∈ tokens, Text.IsWord token) (unmarked : ">" ∉ tokens) (isWord : Text.IsWord file) {now : Moment}
    (reported : session.added now (Text.joinWith " " ("echo" :: tokens ++ [">", file])) = ["written to " ++ file])
    (later aside : Moment) :
    let written := session.process now (Text.joinWith " " ("echo" :: tokens ++ [">", file]))
    written.scene.cwd = session.scene.cwd ∧
      written.added later (Text.joinWith " " ["cat", file]) =
        session.added aside (Text.joinWith " " ("echo" :: tokens)) ∧
      ∃ text, Commands.Unquoted (Text.joinWith " " tokens) text ∧ written.Reads file (Text.encode text) := by
  intro written
  have isEcho : Text.IsWord "echo" := by decide
  have isCat : Text.IsWord "cat" := by decide
  have isMark : Text.IsWord ">" := by decide
  have wordsWritten : ∀ token ∈ "echo" :: tokens ++ [">", file], Text.IsWord token := by
    simpa [or_imp, forall_and] using ⟨isEcho, all, isMark, isWord⟩
  have wordsShown : ∀ token ∈ ["cat", file], Text.IsWord token := by simp [isCat, isWord]
  have tokensWrite := tokenize_joinWith wordsWritten
  have tokensPrint := tokenize_joinWith (List.forall_mem_cons.mpr ⟨isEcho, all⟩)
  have tokensShow := tokenize_joinWith wordsShown
  have fine : ¬ Complaint ("written to " ++ file) := fun complaint => by
    simpa using complaint.head?
  -- The line that writes has left the file, whatever the name leads through.
  obtain ⟨output, after, ends, -⟩ := ended_of_added tokensWrite reported fine
  have isBuiltin : session.registry.find? "echo" = some Commands.echo := by
    rw [builtin]
    rfl
  obtain ⟨path, tree, resolved, wrote, rfl⟩ :=
    (Commands.ensures_echo_written all unmarked).of_ok (ends.run isBuiltin)
  have left : written.scene = { session.scene with tree } := ends.scene_process
  obtain ⟨registry, sandbox, -⟩ :=
    session.process_leaves now (Text.joinWith " " ("echo" :: tokens ++ [">", file]))
  have reads : written.Reads file (Text.encode (Commands.unquote (Text.joinWith " " tokens))) :=
    reads_of_write stands sandbox left resolved wrote
  -- Printing and showing lay out one text.
  have printed : session.added aside (Text.joinWith " " ("echo" :: tokens)) =
      Text.rows (Commands.unquote (Text.joinWith " " tokens)) :=
    (added_of_run tokensPrint isBuiltin (Commands.echo_ok ne unmarked) nofun).1
  have shown := (added_cat (registry.trans builtin) reads later tokensShow).1
  rw [Text.decodeLossy_encode] at shown
  exact ⟨by rw [left], shown.trans printed.symm, _, Commands.unquoted _, reads⟩

end Session

/-! ## A file behind a link -/

namespace Slate

/-- A directory below the root with a link to a file that stands beside it. -/
def tree : FileTree :=
  .directory [("root", .directory
    [("d", .directory [("l", .link "../f")]), ("f", .file (Text.encode "old\r\nlines"))])]

/-- A session in the directory. -/
def session : Session Unit :=
  { Session.start ⟨Commands.builtin ""⟩ ⟨["root"]⟩ (Clock.fixed ⟨2024, 1, 1, 0, 0, 0⟩ 0) tree () with
    scene := ⟨tree, VirtualPath.parse "/d"⟩ }

theorem stands : session.sandbox.Stands session.scene.tree :=
  ⟨by simp [session, Session.start, PlainName], _, rfl⟩

/-- Quotes inside of quotes, some that match nothing, and a word that has a `>` in it. -/
def tokens : List String :=
  ["\x22it's", ">>", "\x22'é\x22"]

end Slate

namespace Session

/-- The text is written through the link, with the outer quotes alone taken off. -/
theorem added_cat_written_of_link :
    Slate.session.added 0 "echo \x22it's >> \x22'é\x22 > l" = ["written to l"] ∧
      let written := Slate.session.process 0 "echo \x22it's >> \x22'é\x22 > l"
      written.added 1 "cat l" = ["it's >> \x22'é"] ∧ written.scene.cwd = VirtualPath.parse "/d" ∧
        (∃ text, Commands.Unquoted "\x22it's >> \x22'é\x22" text ∧ written.Reads "l" (Text.encode text)) ∧
        written.scene.tree.bytesAt? ["root", "f"] = some (Text.encode "it's >> \x22'é") := by
  have words : ∀ token ∈ Slate.tokens, Text.IsWord token := by decide +kernel
  have line : Text.joinWith " " ("echo" :: Slate.tokens ++ [">", "l"]) = "echo \x22it's >> \x22'é\x22 > l" := by
    decide +kernel
  have showing : Text.joinWith " " ["cat", "l"] = "cat l" := by decide +kernel
  have text : Text.joinWith " " Slate.tokens = "\x22it's >> \x22'é\x22" := by decide +kernel
  have reported : Slate.session.added 0 (Text.joinWith " " ("echo" :: Slate.tokens ++ [">", "l"])) =
      ["written to l"] := by
    decide +kernel
  have printed : Slate.session.added 2 (Text.joinWith " " ("echo" :: Slate.tokens)) = ["it's >> \x22'é"] := by
    decide +kernel
  have builtin : Slate.session.registry = ⟨Commands.builtin ""⟩ := rfl
  have whole := added_cat_written builtin Slate.stands (by decide) words (by decide)
    (by decide : Text.IsWord "l") reported 1 2
  rw [line] at reported whole
  rw [showing, text, printed] at whole
  obtain ⟨stays, shown, reads⟩ := whole
  exact ⟨reported, shown, stays, reads, by decide +kernel⟩

end Session

end ConfinedShell
