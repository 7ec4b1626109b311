import ConfinedShell.Proofs.CurrentDirectory
import ConfinedShell.Proofs.Echoing
import ConfinedShell.Proofs.Plans
import ConfinedShell.Proofs.Seeding

/-!
# What is created is found again

A path whose end is missing is resolved as far as it exists, and one that exists is resolved as a whole. Creating
something at the path changes which of the two is done, and it must not change the answer: each way of creating lets the
tree grow (`Resolved.Creates.grown`), and in a grown tree the path is resolved to what it was resolved to before
(`Resolved.Creates.resolves`). So a directory that `mkdir` has made can be entered by the same text, and it is the
current directory then (`Sandbox.stable_under_creation`).

Links may stand anywhere on the way, and more than one name may be missing at its end. What was created must not be a
link itself: the operations of a checked path create none.
-/

set_option autoImplicit false

namespace ConfinedShell

open FileTree (Grown)

/-! ## Creating -/

namespace FileTree

variable {tree after : FileTree} {path : Location}

/-- A file that is touched is written with some bytes. -/
theorem exists_writeFile_of_touchFile (touched : tree.touchFile path = .ok after) :
    ∃ bytes, tree.writeFile path bytes = .ok after := by
  obtain ⟨location, opened, rfl⟩ := exists_of_touchFile touched
  exact ⟨_, map_eq_ok.mpr ⟨location, opened, rfl⟩⟩

/-- Making one directory lets the tree grow, and the path leads to something then. -/
theorem grown_of_makeDirectory (made : tree.makeDirectory path = .ok after) :
    Grown tree after ∧ after.pathExists path = true := by
  have isDirectory := pathIsDirectory_of_makeDirectory made
  obtain ⟨holder, name, located, rfl⟩ := exists_of_makeDirectory made
  obtain ⟨entries, stands, missing⟩ := locate_vacant located
  exact ⟨.put_vacant ((at?_child stands name).trans missing) directory_noLink,
    pathExists_of_pathIsDirectory isDirectory⟩

end FileTree

namespace Resolved

/-- **An operation creates** what a checked path means, or puts new bytes there: the ways in which it can have
succeeded. -/
inductive Creates (path : Resolved) (before after : FileTree) : Prop where
  | write {bytes : Text.Bytes} (succeeded : path.write before bytes = .ok after)
  | file (succeeded : path.createFile before = .ok after)
  | directory (succeeded : path.createDirectory before = .ok after)
  | directories (succeeded : path.createDirectories before = (after, .ok ()))
  | copy {source : Resolved} {count : Nat} (succeeded : source.copyTo path before = .ok (count, after))

namespace Creates

variable {sandbox : Sandbox} {before after : FileTree} {path : Resolved}

/-- **Whatever is created, the tree has grown**, and the path leads to something. -/
theorem grown (creates : path.Creates before after) (stands : sandbox.Stands before) :
    Grown before after ∧ path.exists? after = true := by
  cases creates with
  | write succeeded => exact FileTree.grown_of_writeFile (write_eq_ok.mp succeeded)
  | file succeeded =>
    obtain ⟨bytes, written⟩ := FileTree.exists_writeFile_of_touchFile (told_eq_ok.mp succeeded)
    exact FileTree.grown_of_writeFile written
  | directory succeeded => exact FileTree.grown_of_makeDirectory (told_eq_ok.mp succeeded)
  | directories succeeded =>
    obtain ⟨grown, isDirectory⟩ := Seed.grown_of_createDirectories stands succeeded
    exact ⟨grown, FileTree.pathExists_of_pathIsDirectory isDirectory⟩
  | copy succeeded =>
    obtain ⟨-, bytes, -, written, -⟩ := copyTo_eq_ok.mp succeeded
    exact FileTree.grown_of_writeFile (write_eq_ok.mp written)

/-- **A virtual path is resolved as before** when something has been created at what it was resolved to. -/
theorem resolves (creates : path.Creates before after) (stands : sandbox.Stands before) {virtual : VirtualPath}
    (checked : sandbox.resolveVirtual before virtual = .ok path) :
    sandbox.resolveVirtual after virtual = .ok path ∧ path.exists? after = true := by
  obtain ⟨grown, there⟩ := creates.grown stands
  exact ⟨Sandbox.resolveVirtual_of_grown grown stands checked there, there⟩

end Creates

end Resolved

/-! ## Paths that are typed -/

namespace Text

/-- What a piece of a list holds is in the list. -/
theorem mem_of_mem_splitOnP {p : Char → Bool} {cs piece : List Char} {c : Char} (cut : piece ∈ cs.splitOnP p)
    (mem : c ∈ piece) : c ∈ cs := by
  induction cs generalizing piece with
  | nil =>
    rw [List.splitOnP_nil, List.mem_singleton] at cut
    rwa [cut] at mem
  | cons d ds ih =>
    rw [List.splitOnP_cons_eq_if_modifyHead] at cut
    split at cut
    · rcases List.mem_cons.mp cut with rfl | cut
      · cases mem
      · exact List.mem_cons_of_mem d (ih cut mem)
    · obtain ⟨first, others, pieces⟩ := List.exists_cons_of_ne_nil (List.splitOnP_ne_nil p ds)
      rw [pieces, List.modifyHead_cons] at cut
      rcases List.mem_cons.mp cut with rfl | cut
      · rcases List.mem_cons.mp mem with rfl | mem
        · exact List.mem_cons_self
        · exact List.mem_cons_of_mem d (ih (pieces ▸ List.mem_cons_self) mem)
      · exact List.mem_cons_of_mem d (ih (pieces ▸ List.mem_cons_of_mem first cut) mem)

/-- A word takes one row. -/
theorem rows_word {word : String} (isWord : IsWord word) : rows word = [word] := by
  have free : '\n' ∉ word.toList := fun mem => by cases isWord.free _ mem
  have noReturn : word.toList.getLast? ≠ some '\r' := fun last => by cases isWord.free _ (List.mem_of_getLast? last)
  rw [rows, linesWith_of_free _ free, if_neg isWord.toList_ne, chopReturn_eq_self_iff.mpr noReturn]
  simp

/-- A word of a line holds no blank. -/
theorem isFree_of_mem_words {line word : String} (mem : word ∈ words line) : IsFree isBlank word.toList := by
  obtain ⟨cs, among, rfl⟩ := List.mem_map.mp mem
  rw [String.toList_ofList]
  exact fun _ => not_blank_of_mem_wordsOf among

end Text

/-- The arguments of a line hold no blanks. -/
theorem isFree_of_tokenize {line name argument : String} {arguments : List String}
    (tokens : tokenize line = some (name, arguments)) (mem : argument ∈ arguments) :
    Text.IsFree Text.isBlank argument.toList := by
  rw [tokenize] at tokens
  split at tokens
  · cases tokens
  · next words =>
    cases tokens
    exact Text.isFree_of_mem_words (words ▸ List.mem_cons_of_mem _ mem)

/-- Following components adds no segment that is not one of them. -/
theorem mem_or_mem_of_mem_follow {cs base : List String} {segment : String} (mem : segment ∈ cs.foldl follow base) :
    segment ∈ base ∨ segment ∈ cs := by
  induction cs generalizing base with
  | nil => exact .inl mem
  | cons component rest ih =>
    rcases ih mem with mem | mem
    · rw [follow] at mem
      split at mem
      · exact .inl mem
      split at mem
      · exact .inl (List.dropLast_subset _ mem)
      · rcases List.mem_append.mp mem with mem | mem
        · exact .inl mem
        · exact .inr (List.mem_cons.mpr (.inl (List.mem_singleton.mp mem)))
    · exact .inr (List.mem_cons_of_mem _ mem)

namespace VirtualPath

variable {path : VirtualPath} {input : String}

/-- A path **can be typed** when no blank is in it. -/
def Typable (path : VirtualPath) : Prop :=
  ∀ segment ∈ path.segments, Text.IsFree Text.isBlank segment.toList

theorem typable_root : root.Typable :=
  nofun

/-- A typed path leads from a path that can be typed to one that can. -/
theorem Typable.join (typable : path.Typable) (typed : Text.IsFree Text.isBlank input.toList) :
    (path.join input).Typable := by
  intro segment mem
  rcases mem_or_mem_of_mem_follow mem with mem | mem
  · split at mem
    · cases mem
    · exact typable segment mem
  · obtain ⟨piece, cut, rfl⟩ := List.mem_map.mp mem
    rw [String.toList_ofList]
    exact fun c mem => typed c (Text.mem_of_mem_splitOnP cut mem)

/-- Such a path is written as one word. -/
theorem Typable.isWord_text (typable : path.Typable) : Text.IsWord path.text := by
  rw [text]
  split
  · decide
  next below =>
  obtain ⟨first, rest, segments⟩ := List.exists_cons_of_ne_nil (fun top => below (List.isEmpty_iff.mpr top))
  constructor
  · rw [segments, List.map_cons, String.join_cons]
    simp
  · intro c mem
    simp only [String.toList_join, List.mem_flatMap, List.mem_map] at mem
    obtain ⟨_, ⟨segment, among, rfl⟩, mem⟩ := mem
    rw [String.toList_append] at mem
    rcases List.mem_append.mp mem with mem | mem
    · obtain rfl : c = '/' := by simpa using mem
      decide
    · exact typable segment among c mem

end VirtualPath

/-! ## Commands that create and enter a directory -/

/-- What making a directory comes to. -/
def Sandbox.making (sandbox : Sandbox) (scene : Scene) (input : String) : Except Failure (Output × FileTree) := do
  let path ← sandbox.resolve scene.tree scene.cwd input
  (path.createDirectory scene.tree).map (Prod.mk (.text "directory created"))

/-- A directory is made at a path that was resolved. -/
theorem Sandbox.making_ok {sandbox : Sandbox} {scene : Scene} {input : String} {output : Output} {after : FileTree}
    (made : sandbox.making scene input = .ok (output, after)) :
    ∃ path, sandbox.resolve scene.tree scene.cwd input = .ok path ∧ path.createDirectory scene.tree = .ok after := by
  obtain ⟨path, resolved, made⟩ := bind_eq_ok.mp made
  obtain ⟨tree, performed, same⟩ := map_eq_ok.mp made
  cases same
  exact ⟨path, resolved, performed⟩

namespace Commands

variable {around : Surroundings} {scene : Scene} {input : String} {path : Resolved}

theorem mkdir_run (around : Surroundings) (scene : Scene) (input : String) :
    scene.ComesTo False (mkdir.run around [input] scene) (around.sandbox.making scene input) :=
  Action.comesTo_ofExcept fun _ => Action.comesTo_change

/-- A directory that a text is resolved to is entered. -/
theorem cd_ok (resolved : around.sandbox.resolve scene.tree scene.cwd input = .ok path)
    (isDirectory : path.isDirectory scene.tree = true) : cd.run around [input] scene =
      .ok (.text ("current directory: " ++ path.text)) { scene with cwd := path.virtualPath } := by
  refine (Action.bind_of_ok (Action.resolve_ok resolved)).trans ?_
  change (if path.isDirectory scene.tree = true then _ else _ : Action Output) scene = _
  rw [if_pos isDirectory]
  rfl

end Commands

namespace Session

variable {σ : Type} {session : Session σ} {now : Moment} {line name suffix p : String} {arguments : List String}

/-- The current directory can be typed after a line when it could be before. -/
theorem typable_process (builtin : session.registry = ⟨Commands.builtin suffix⟩)
    (typable : session.scene.cwd.Typable) (now : Moment) (line : String) :
    (session.process now line).scene.cwd.Typable := by
  have comes := session.comes_process builtin now line
  generalize (session.process now line).scene = after at comes ⊢
  cases comes with
  | nothing => exact typable
  | interrupted tokens ended remains =>
    cases remains
    exact typable
  | effect tokens ended effect =>
    cases effect with
    | nothing => exact typable
    | @entered input path resolved _ =>
      have same : path.virtualPath = session.scene.cwd.join input := (Sandbox.resolveVirtual_ok resolved).1
      exact same ▸ typable.join (isFree_of_tokenize tokens (List.mem_singleton_self input))
    | performed => exact typable

/-- So it can after the lines of a run. -/
theorem typable_processAll (builtin : session.registry = ⟨Commands.builtin suffix⟩)
    (typable : session.scene.cwd.Typable) (lines : List (Moment × String)) :
    (session.processAll lines).scene.cwd.Typable := by
  induction lines generalizing session with
  | nil => exact typable
  | cons entry rest ih =>
    obtain ⟨now, line⟩ := entry
    obtain ⟨registry, -⟩ := session.process_leaves now line
    rw [processAll]
    exact ih (registry.trans builtin) (typable_process builtin typable now line)

/-- `cd` ends in a directory that its operand is resolved to, -/
theorem ends_cd (builtin : session.registry = ⟨Commands.builtin suffix⟩) (now : Moment)
    (tokens : tokenize (Text.trim line) = some ("cd", [p])) {path : Resolved}
    (resolved : session.sandbox.resolve session.scene.tree session.scene.cwd p = .ok path)
    (isDirectory : path.isDirectory session.scene.tree = true) :
    session.Ends now line "cd" [p] (.text ("current directory: " ++ path.text))
      { session.scene with cwd := path.virtualPath } := by
  have found : session.registry.find? "cd" = some Commands.cd := by
    rw [builtin]
    rfl
  exact .of_run tokens found (Commands.cd_ok resolved isDirectory)

/-- and `pwd` ends where it is. -/
theorem ends_pwd (builtin : session.registry = ⟨Commands.builtin suffix⟩) (now : Moment)
    (tokens : tokenize (Text.trim line) = some ("pwd", arguments)) :
    session.Ends now line "pwd" arguments (.text session.scene.cwd.text) session.scene := by
  have found : session.registry.find? "pwd" = some Commands.pwd := by
    rw [builtin]
    rfl
  exact .of_run tokens found rfl

/-- A line by which `mkdir` ends has made the directory that its operand is resolved to. -/
theorem Ends.made (builtin : session.registry = ⟨Commands.builtin suffix⟩) {output : Output} {after : Scene}
    (ends : session.Ends now line "mkdir" [p] output after) : ∃ path tree,
      session.sandbox.resolve session.scene.tree session.scene.cwd p = .ok path ∧
        path.createDirectory session.scene.tree = .ok tree ∧ after = { session.scene with tree } := by
  have concludes : session.Concludes False now line "mkdir" [p] (session.sandbox.making session.scene p) :=
    concludes_of_run builtin (by simp [Commands.builtin, Commands.files]) rfl ends.tokens (Commands.mkdir_run _ _ _)
  obtain ⟨tree, making, same⟩ := concludes.of_ends ends
  obtain ⟨path, resolved, created⟩ := Sandbox.making_ok making
  exact ⟨path, tree, resolved, created, same⟩

/-- **What is made is entered.** After a line by which `mkdir` has made a directory, `cd` ends with the same operand,
and the path that the operand is joined to is the current directory then. -/
theorem Ends.enters (builtin : session.registry = ⟨Commands.builtin suffix⟩)
    (stands : session.sandbox.Stands session.scene.tree) {output : Output} {after : Scene}
    (ends : session.Ends now line "mkdir" [p] output after) {entered : String} (later : Moment)
    (enters : tokenize (Text.trim entered) = some ("cd", [p])) :
    (session.process now line).Ends later entered "cd" [p]
      (.text ("current directory: " ++ (session.scene.cwd.join p).text)) ⟨after.tree, session.scene.cwd.join p⟩ := by
  obtain ⟨path, tree, resolved, created, rfl⟩ := ends.made builtin
  have same : path.virtualPath = session.scene.cwd.join p := (Sandbox.resolveVirtual_ok resolved).1
  obtain ⟨again, -⟩ := (Resolved.Creates.directory created).resolves stands resolved
  have isDirectory : path.isDirectory tree = true :=
    FileTree.pathIsDirectory_of_makeDirectory (Resolved.told_eq_ok.mp created)
  obtain ⟨registry, sandbox, -⟩ := session.process_leaves now line
  have scene := ends.scene_process
  generalize session.process now line = there at registry sandbox scene ⊢
  have resolvedThere : there.sandbox.resolve there.scene.tree there.scene.cwd p = .ok path := by
    rw [scene, sandbox]
    exact again
  have ended := ends_cd (registry.trans builtin) later enters resolvedThere (by rw [scene]; exact isDirectory)
  rwa [Resolved.text, same, scene] at ended

/-- and then `pwd` shows that path. It is one line when the current directory can be typed, as it always can
(`typable_processAll`). -/
theorem Ends.shows (builtin : session.registry = ⟨Commands.builtin suffix⟩)
    (stands : session.sandbox.Stands session.scene.tree) {output : Output} {after : Scene}
    (ends : session.Ends now line "mkdir" [p] output after) {entered asked : String} {later last : Moment}
    (enters : tokenize (Text.trim entered) = some ("cd", [p]))
    (asks : tokenize (Text.trim asked) = some ("pwd", arguments)) :
    let inside := (session.process now line).process later entered
    inside.Ends last asked "pwd" arguments (.text (session.scene.cwd.join p).text) inside.scene ∧
      (session.scene.cwd.Typable → inside.added last asked = [(session.scene.cwd.join p).text]) := by
  intro inside
  have scene : inside.scene = ⟨after.tree, session.scene.cwd.join p⟩ :=
    (ends.enters builtin stands later enters).scene_process
  have registry : inside.registry = ⟨Commands.builtin suffix⟩ := by
    obtain ⟨first, -⟩ := session.process_leaves now line
    obtain ⟨second, -⟩ := (session.process now line).process_leaves later entered
    rw [← builtin, ← first, ← second]
  have shows := ends_pwd registry last asks
  rw [scene] at shows ⊢
  refine ⟨shows, fun typable => ?_⟩
  rw [shows.added]
  exact Text.rows_word (typable.join (isFree_of_tokenize ends.tokens (List.mem_singleton_self p))).isWord_text

end Session

/-- **Resolution is stable under creation.** When a virtual path is resolved in a standing sandbox, and something is
then created at what it was resolved to, the same path is resolved to the same place, and something is there.

So after a line by which `mkdir` ends, whatever links are on the way, `cd` ends with the same operand in the directory
that the operand is joined to, and `pwd` shows its path. -/
theorem Sandbox.stable_under_creation {sandbox : Sandbox} {tree : FileTree} (stands : sandbox.Stands tree) :
    (∀ {virtual : VirtualPath} {path : Resolved} {after : FileTree},
      sandbox.resolveVirtual tree virtual = .ok path → path.Creates tree after →
        sandbox.resolveVirtual after virtual = .ok path ∧ path.exists? after = true) ∧
    ∀ {σ : Type} {session : Session σ} {suffix made entered asked p : String} {arguments : List String}
      {first second third : Moment} {output : Output} {after : Scene},
      session.registry = ⟨Commands.builtin suffix⟩ → session.sandbox = sandbox → session.scene.tree = tree →
      session.Ends first made "mkdir" [p] output after → tokenize (Text.trim entered) = some ("cd", [p]) →
      tokenize (Text.trim asked) = some ("pwd", arguments) →
        let target := session.scene.cwd.join p
        let there := session.process first made
        let inside := there.process second entered
        there.Ends second entered "cd" [p] (.text ("current directory: " ++ target.text)) ⟨after.tree, target⟩ ∧
          inside.Ends third asked "pwd" arguments (.text target.text) inside.scene ∧
          (session.scene.cwd.Typable → inside.added third asked = [target.text]) := by
  refine ⟨fun checked creates => creates.resolves stands checked, ?_⟩
  intro σ session suffix made entered asked p arguments first second third output after builtin isSandbox isTree ends
    enters asks
  rw [← isSandbox, ← isTree] at stands
  exact ⟨ends.enters builtin stands second enters, ends.shows builtin stands enters asks⟩

/-! ## Through links -/

namespace Homestead

/-- A link to a link to a directory. -/
def tree : FileTree :=
  .directory [("root", .directory
    [("alias", .link "real"), ("real", .directory []), ("twice", .link "/root/./alias")])]

def session : Session Unit :=
  .start ⟨Commands.builtin ""⟩ ⟨["root"]⟩ (Clock.fixed ⟨2024, 1, 1, 0, 0, 0⟩ 0) tree ()

theorem stands : session.sandbox.Stands tree :=
  ⟨by simp [session, Session.start, PlainName], _, rfl⟩

/-- Directories that are missing three names deep are made behind both links. A directory is made there from within as
well, and entered by the text that it was made with. -/
theorem stable_under_creation_of_links :
    let virtual := VirtualPath.parse "/twice/a/b/c"
    let path : Resolved := ⟨virtual, ["root", "real", "a", "b", "c"]⟩
    let after := (path.createDirectories tree).1
    let here := session.processAll [(0, "cd twice")]
    (session.sandbox.resolveVirtual tree virtual = .ok path ∧ path.exists? tree = false ∧
        session.sandbox.resolveVirtual after virtual = .ok path ∧ path.exists? after = true) ∧
      here.added 1 "mkdir ../alias/./new" = ["directory created"] ∧
      ((here.process 1 "mkdir ../alias/./new").process 2 "cd ../alias/./new").added 3 "pwd" = ["/alias/new"] := by
  intro virtual path after here
  have resolved : session.sandbox.resolveVirtual tree virtual = .ok path := ok_of_toOption (by decide +kernel)
  have created : path.createDirectories tree = (after, .ok ()) := Seed.eq_of_toOption (by decide +kernel)
  have stable := (Sandbox.stable_under_creation stands).1 resolved (.directories created)
  have missing : path.exists? tree = false := by decide +kernel
  have tokens : tokenize (Text.trim "mkdir ../alias/./new") = some ("mkdir", ["../alias/./new"]) ∧
      tokenize (Text.trim "cd ../alias/./new") = some ("cd", ["../alias/./new"]) ∧
      tokenize (Text.trim "pwd") = some ("pwd", []) := by
    decide +kernel
  have reported : here.added 1 "mkdir ../alias/./new" = ["directory created"] := by decide +kernel
  have target : (here.scene.cwd.join "../alias/./new").text = "/alias/new" := by decide +kernel
  obtain ⟨output, left, ends, -⟩ := Session.ended_of_added tokens.1 reported (by decide +kernel)
  have typable : here.scene.cwd.Typable := Session.typable_processAll rfl VirtualPath.typable_root _
  have standsHere : here.sandbox.Stands here.scene.tree := stands
  obtain ⟨-, -, shown⟩ := (Sandbox.stable_under_creation standsHere).2 rfl rfl rfl ends tokens.2.1 tokens.2.2
  refine ⟨⟨resolved, missing, stable⟩, reported, ?_⟩
  rw [shown typable, target]

end Homestead

end ConfinedShell
