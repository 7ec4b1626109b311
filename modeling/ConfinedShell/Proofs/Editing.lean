import ConfinedShell.Editor
import ConfinedShell.Proofs.Parallel

/-!
# Editors and the root

An editor reads one file when it opens and writes one when it saves, both by the same path. A path **leads
inside** (`Resolved.LeadsInside`) when the file that would be opened for writing by it lies in the root. An
editor on such a path changes nothing outside and shows nothing from there, whatever its keys are; and an
editor on any other path changes something outside by some keys (`Editor.leadsInside_iff_confined`).
-/

set_option autoImplicit false

namespace ConfinedShell

open FileTree (Alike SameOutside)

/-! ## Paths that lead inside -/

namespace Resolved

variable {sandbox : Sandbox} {tree : FileTree} {path : Resolved}

/-- **A path leads inside** when the file that would be opened for writing by it lies in the root. -/
def LeadsInside (sandbox : Sandbox) (tree : FileTree) (path : Resolved) : Prop :=
  ∀ location, tree.writableLocation path.physical = .ok location → sandbox.root <+: location

/-- A secure path leads inside. -/
theorem Secure.leadsInside (secure : path.Secure sandbox tree) : path.LeadsInside sandbox tree := by
  intro location opened
  obtain ⟨rfl, -⟩ := FileTree.writableLocation_ok secure.straight opened
  exact secure.inside

/-- A regular file that a path leads to is the one that is opened for writing. -/
theorem exists_writable_of_isRegular (regular : path.isRegular tree = true) :
    ∃ location bytes, tree.locate .follow path.physical = .ok (.found location) ∧
      tree.at? location = some (.file bytes) ∧
      tree.writableLocation path.physical = .ok location := by
  obtain ⟨location, bytes, located, stands⟩ := FileTree.pathIsRegular_iff.mp regular
  refine ⟨location, bytes, located, stands, ?_⟩
  obtain ⟨names, length, walks⟩ := FileTree.locate_ok.mp located
  have wanted := FileTree.locate_ok.mpr ⟨names, length, walks.create stands⟩
  rw [FileTree.writableLocation, wanted]
  dsimp only
  rw [stands]

/-- After a file was written, its location holds the bytes. -/
theorem kindAt?_of_write {bytes : Text.Bytes} {after : FileTree} {location : Location}
    (opened : tree.writableLocation path.physical = .ok location)
    (written : path.write tree bytes = .ok after) :
    after.kindAt? location = some (.file bytes) := by
  obtain ⟨_, opened', rfl⟩ := map_eq_ok.mp (write_eq_ok.mp written)
  rw [opened] at opened'
  cases opened'
  rw [FileTree.kindAt?, FileTree.at?_put_writable opened]
  rfl

end Resolved

/-- How an editor ends that is one for the file that stands for its own somewhere else. -/
def EditorOutcome.carried (carry : Resolved → Resolved) : EditorOutcome → EditorOutcome
  | .failed (.reading path cause) => .failed (.reading (carry path) cause)
  | .failed (.saving path cause) => .failed (.saving (carry path) cause)
  | outcome => outcome

theorem EditorOutcome.carried_id (outcome : EditorOutcome) : outcome.carried id = outcome := by
  match outcome with
  | .saved => rfl
  | .discarded => rfl
  | .failed (.reading _ _) => rfl
  | .failed (.saving _ _) => rfl
  | .failed .input => rfl
  | .failed (.writing _) => rfl

namespace Editor

variable {editor : Editor} {sandbox : Sandbox} {tree other : FileTree} {path : Resolved}
variable {received : Received} {trouble : Option Trouble}

/-! ## Opening -/

/-- **An editor shows nothing from outside** when its path leads inside: it opens on the same lines in
alike trees. -/
theorem openOn_eq (leads : path.LeadsInside sandbox tree) (alike : Alike sandbox.root tree other) :
    openOn path other = openOn path tree := by
  rw [openOn, openOn, Resolved.isRegular_eq alike]
  split
  · next regular =>
    obtain ⟨location, bytes, located, -, opened⟩ := Resolved.exists_writable_of_isRegular regular
    have read : path.readText other = path.readText tree := by
      rw [Resolved.readText, Resolved.readText, FileTree.readFile, FileTree.readFile,
        alike.stat_eq fun place reached => ?_]
      rw [located] at reached
      cases reached
      exact leads location opened
    rw [read]
  · rfl

/-- Opening an editor does not fail: a regular file can be read. -/
theorem exists_openOn (path : Resolved) (tree : FileTree) :
    ∃ editor, openOn path tree = .ok editor ∧ editor.path = path := by
  rw [openOn]
  split
  · next regular =>
    obtain ⟨location, bytes, located, isFile, -⟩ := Resolved.exists_writable_of_isRegular regular
    have read : path.readText tree = .ok (Text.decodeLossy bytes) := by
      simp only [Resolved.readText, FileTree.readFile, FileTree.stat, located, isFile,
        Resolved.told, Except.map]
    rw [read]
    exact ⟨_, rfl, rfl⟩
  · exact ⟨_, rfl, rfl⟩

/-! ## One step -/

/-- An editor that goes on is one for the same file. -/
theorem path_of_goesOn {next : Editor} {shown : String}
    (stepped : editor.step tree received trouble = .goesOn next shown) : next.path = editor.path := by
  unfold step at stepped
  split at stepped
  · cases stepped
  · split at stepped <;> cases stepped
  · cases stepped
  · cases stepped
    rfl
  · cases stepped
    rfl
  · cases stepped
    rfl

/-- An editor that ends has written to its file or left everything as it was. -/
theorem tree_of_ends {outcome : EditorOutcome} {after : FileTree} {shown : String}
    (stepped : editor.step tree received trouble = .ends outcome after shown) :
    after = tree ∨ ∃ bytes, editor.path.write tree bytes = .ok after := by
  unfold step at stepped
  split at stepped
  · cases stepped
    exact .inl rfl
  · split at stepped
    · next written =>
      cases stepped
      exact Resolved.write_of_send written
    · next written =>
      cases stepped
      exact Resolved.write_of_send written
  · cases stepped
    exact .inl rfl
  · cases stepped
  · cases stepped
  · cases stepped

/-- An editor for the file that stands for its own somewhere else. -/
def carried (carry : Resolved → Resolved) (editor : Editor) : Editor :=
  { editor with path := carry editor.path }

/-- **Two steps of an editor do the same**: it goes on as the same editor, or it ends in the same way and leaves
related trees. The second editor is one for the file that stands for that of the first one. -/
inductive SameStep (carry : Resolved → Resolved) (related : FileTree → FileTree → Prop) : Step → Step → Prop where
  | goesOn (editor : Editor) (shown : String) :
      SameStep carry related (.goesOn editor shown) (.goesOn (editor.carried carry) shown)
  | ends (outcome : EditorOutcome) (shown : String) {tree other : FileTree}
      (same : related tree other) :
      SameStep carry related (.ends outcome tree shown) (.ends (outcome.carried carry) other shown)

/-- An editor does the same in related trees, when writing to its file does. -/
theorem step_same {carry : Resolved → Resolved} {related : FileTree → FileTree → Prop}
    (same : related tree other) (keeps : (carry editor.path).virtualPath = editor.path.virtualPath)
    (writes : ∀ bytes,
      SameEnd related (editor.path.write tree bytes) ((carry editor.path).write other bytes))
    (received : Received) (trouble : Option Trouble) :
    SameStep carry related (editor.step tree received trouble)
      ((editor.carried carry).step other received trouble) := by
  unfold step
  split
  · exact .ends _ _ same
  · have named : (carry editor.path).text = editor.path.text := congrArg VirtualPath.text keeps
    have sent := SameAttempt.send same named writes trouble (Text.encode (savedText editor.buffer))
    dsimp only [carried]
    generalize editor.path.send trouble _ tree = one at sent ⊢
    generalize (carry editor.path).send trouble _ other = two at sent ⊢
    obtain ⟨after, _⟩ := one
    obtain ⟨after', outcome⟩ := two
    obtain ⟨left, rfl⟩ := sent
    cases outcome with
    | error cause => exact .ends (.failed (.saving editor.path cause)) _ left
    | ok done =>
      dsimp only
      rw [named]
      exact .ends .saved _ left
  · exact .ends .discarded _ same
  · exact .goesOn _ _
  · exact .goesOn { editor with buffer := editor.buffer.dropLast } _
  · next text _ _ _ _ => exact .goesOn { editor with buffer := editor.buffer ++ [text] } _

/-! ## A run -/

/-- **An editor changes nothing outside** when its path leads inside. -/
theorem run_sameOutside (leads : editor.path.LeadsInside sandbox tree) (shown : String)
    (keys : List Received) : SameOutside sandbox.root tree (editor.run tree shown keys trouble).tree := by
  induction keys generalizing editor shown with
  | nil => exact .refl _ _
  | cons received rest ih =>
    rw [run]
    split
    · next other more stepped =>
      refine ih ?_ _
      rw [path_of_goesOn stepped]
      exact leads
    · next outcome after more stepped =>
      rcases tree_of_ends stepped with rfl | ⟨bytes, written⟩
      · exact .refl _ _
      · obtain ⟨location, opened, rfl⟩ := map_eq_ok.mp (Resolved.write_eq_ok.mp written)
        exact .put (leads location opened) tree _

/-- What an editor does with its keys depends on where its path leads, and not on what it leads to. -/
theorem run_eq {root : Location} (alike : Alike root tree other) (editor : Editor) (shown : String)
    (keys : List Received) :
    (editor.run other shown keys trouble).outcome = (editor.run tree shown keys trouble).outcome ∧
      (editor.run other shown keys trouble).shown = (editor.run tree shown keys trouble).shown := by
  induction keys generalizing editor shown with
  | nil => exact ⟨rfl, rfl⟩
  | cons received rest ih =>
    have writes (bytes : Text.Bytes) : SameEnd (fun _ _ => True) (editor.path.write tree bytes)
        (editor.path.write other bytes) := by
      rw [Resolved.write_eq, Resolved.write_eq, FileTree.writeFile, FileTree.writeFile, alike.writableLocation_eq]
      refine SameEnd.told ?_
      cases tree.writableLocation editor.path.physical with
      | error cause => exact .error cause
      | ok location => exact .ok trivial
    have steps : SameStep id (fun _ _ => True) (editor.step tree received trouble)
        (editor.step other received trouble) := step_same trivial rfl writes received trouble
    rw [run, run]
    generalize editor.step tree received trouble = stepped at steps ⊢
    generalize editor.step other received trouble = stepped' at steps ⊢
    cases steps with
    | goesOn next more => exact ih next _
    | ends outcome more => exact ⟨outcome.carried_id, rfl⟩

/-! ## Keys that write -/

/-- Keys that replace whatever is in the buffer by one line, and save it. -/
def replacing (editor : Editor) (line : String) : List Received :=
  List.replicate editor.buffer.length (.line ":d") ++ [.line line, .line ":wq"]

/-- Deleting as many lines as there are leaves none. -/
theorem run_delete (editor : Editor) (tree : FileTree) (shown : String) (rest : List Received) :
    editor.run tree shown (List.replicate editor.buffer.length (.line ":d") ++ rest) =
      Editor.run ⟨editor.path, []⟩ tree shown rest := by
  generalize count : editor.buffer.length = n
  induction n generalizing editor with
  | zero =>
    obtain ⟨path, buffer⟩ := editor
    obtain rfl : buffer = [] := List.eq_nil_of_length_eq_zero count
    rfl
  | succ n ih =>
    have fewer : (Editor.mk editor.path editor.buffer.dropLast).buffer.length = n := by
      rw [List.length_dropLast, count, Nat.add_sub_cancel]
    rw [List.replicate_succ, List.cons_append, run]
    show Editor.run ⟨editor.path, editor.buffer.dropLast⟩ tree (shown ++ "") _ = _
    rw [String.append_empty]
    exact ih ⟨editor.path, editor.buffer.dropLast⟩ fewer

/-- What is saved by keys that replace. -/
theorem tree_replacing {line : String} {after : FileTree} (editor : Editor) (shown : String)
    (typed : ∀ tree, Editor.step ⟨editor.path, []⟩ tree (.line line) =
      .goesOn ⟨editor.path, [line]⟩ "")
    (written : editor.path.write tree (Text.encode (savedText [line])) = .ok after) :
    (editor.run tree shown (editor.replacing line)).tree = after := by
  have saves : Editor.step ⟨editor.path, [line]⟩ tree (.line ":wq") =
      .ends .saved after ("written to " ++ editor.path.text ++ "\n") := by
    simp only [step, Resolved.send_eq, arriving, written]
  rw [replacing, run_delete, run, typed]
  dsimp only
  rw [run, saves]

/-- **An editor is confined** with its keys and whatever the storage does: it changes nothing outside, and nothing that
it shows depends on contents outside. -/
def Confined (sandbox : Sandbox) (tree : FileTree) (path : Resolved) (keys : List Received)
    (trouble : Option Trouble) : Prop :=
  SameOutside sandbox.root tree (edit path tree keys trouble).tree ∧
    ∀ other, Alike sandbox.root tree other →
      (edit path other keys trouble).outcome = (edit path tree keys trouble).outcome ∧
        (edit path other keys trouble).shown = (edit path tree keys trouble).shown

/-- An editor is confined when its path leads inside, -/
theorem confined_of_leadsInside (leads : path.LeadsInside sandbox tree) (keys : List Received)
    (trouble : Option Trouble) : Confined sandbox tree path keys trouble := by
  obtain ⟨editor, opens, rfl⟩ := exists_openOn path tree
  refine ⟨?_, fun other alike => ?_⟩
  · rw [edit, opens]
    exact run_sameOutside leads _ keys
  · rw [edit, edit, openOn_eq leads alike, opens]
    exact run_eq alike editor _ keys

/-- and not otherwise, even if the storage gives no trouble. -/
theorem leadsInside_of_confined (confined : ∀ keys, Confined sandbox tree path keys none) :
    path.LeadsInside sandbox tree := by
  obtain ⟨editor, opens, rfl⟩ := exists_openOn path tree
  intro location opened
  -- Saving two different texts cannot leave the same bytes at a location outside.
  refine Decidable.byContradiction fun outside => ?_
  have stays (line : String)
      (typed : ∀ tree, Editor.step ⟨editor.path, []⟩ tree (.line line) =
        .goesOn ⟨editor.path, [line]⟩ "") :
      tree.kindAt? location = some (.file (Text.encode (savedText [line]))) := by
    have written : editor.path.write tree (Text.encode (savedText [line])) =
        .ok (tree.put location (.file (Text.encode (savedText [line])))) := by
      rw [Resolved.write_eq, FileTree.writeFile, opened]
      rfl
    have kept := (confined (editor.replacing line)).1 location outside
    rw [edit, opens] at kept
    dsimp only at kept
    rw [tree_replacing editor _ typed written, Resolved.kindAt?_of_write opened written] at kept
    exact kept.symm
  have one := stays "x" fun _ => rfl
  rw [stays "y" fun _ => rfl] at one
  exact absurd one (by decide)

end Editor

end ConfinedShell
