import ConfinedShell.Proofs.Plans
import ConfinedShell.Proofs.Sparing
import ConfinedShell.Proofs.VirtualStore

/-!
# A move conserves the tree

The host takes a node out of its place and sets it at another one. `FileTree.Moved` says what this leaves: the node is
as a whole at the one place, nothing is at the other, neither place is within the other, and no third location has
changed.
Whatever the host renames was moved (`FileTree.Renamed.moved`), and where no links are involved, a node takes the place
of one of its own sort (`FileTree.TakesPlace`).

Over a linkless root an operand is what it spells, and the place that a move goes to is known from the two operands and
the question whether the second one is a directory (`Sandbox.effective`). From this it follows when `mv` moves, what it
leaves then, and when it leaves everything as it is (`Session.mv_conserves`).
-/

set_option autoImplicit false

namespace ConfinedShell

namespace FileTree

variable {tree before after : FileTree} {source target : Location}

/-- **A node was moved** from one location to another: it is there as a whole and no longer where it was, neither place
is within the other, and no third location has changed. What was replaced is of the same sort. -/
structure Moved (before after : FileTree) (source target : Location) : Prop where
  notInto : ¬ source <+: target
  notAbove : ¬ target <+: source
  whole : ∃ node, before.at? source = some node ∧ after.at? target = some node ∧
    ∀ old, before.at? target = some old → checkReplace node old = .ok ()
  gone : after.at? source = none
  elsewhere : ∀ location, ¬ source <+: location → ¬ target <+: location →
    after.kindAt? location = before.kindAt? location

/-- **A node that was renamed was moved.** -/
theorem Renamed.moved {node : FileTree} (renamed : before.Renamed after node source target) :
    before.Moved after source target := by
  obtain ⟨found, ⟨entries, holds⟩, rfl, notInto, notAbove, differ, fits⟩ := renamed
  have ne : target ≠ [] := by
    rintro rfl
    exact notAbove List.nil_prefix
  have below : source ≠ [] := by
    rintro rfl
    exact notInto List.nil_prefix
  obtain ⟨holder, name, rfl⟩ := (List.eq_nil_or_concat target).resolve_left ne
  obtain ⟨origin, last, rfl⟩ := (List.eq_nil_or_concat source).resolve_left below
  simp only [List.concat_eq_append, List.dropLast_concat] at *
  have apart : ¬ origin ++ [last] <+: holder ++ [name] := fun inside =>
    (List.prefix_concat_iff.mp inside).elim differ notInto
  have apart' : ¬ holder ++ [name] <+: origin ++ [last] := fun inside =>
    (List.prefix_concat_iff.mp inside).elim (Ne.symm differ) notAbove
  refine ⟨apart, apart', ⟨node, found, ?_, fits⟩, ?_, fun location notBelow notBelow' => ?_⟩
  · have held := kindAt?_eq_directory.mpr ⟨entries, holds⟩
    rw [← kindAt?_remove_outside notInto] at held
    obtain ⟨others, stands⟩ := kindAt?_eq_directory.mp held
    exact at?_put_child stands name node
  · have none : ((before.remove (origin ++ [last])).put (holder ++ [name]) node).kindAt? (origin ++ [last]) = none := by
      rw [kindAt?_put_outside apart', kindAt?, at?_remove_self below]
      rfl
    exact Option.map_eq_none_iff.mp none
  · rw [kindAt?_put_outside notBelow', kindAt?_remove_outside notBelow]

/-- What may **take the place** of what is at a location: anything where nothing is, a file that of a file, and a
directory that of an empty one. -/
inductive TakesPlace (tree : FileTree) (source target : Location) : Prop where
  | free (vacant : tree.at? target = none)
  | file {bytes old : Text.Bytes} (moves : tree.at? source = some (file bytes))
      (gives : tree.at? target = some (file old))
  | directory {entries : Entries} (moves : tree.at? source = some (directory entries))
      (gives : tree.at? target = some (directory []))

/-- Where no links are involved, what is replaced is of the sort of what takes its place. -/
theorem Moved.takesPlace (moved : Moved before after source target)
    (noLink : ∀ text, before.at? source ≠ some (link text) ∧ before.at? target ≠ some (link text)) :
    before.TakesPlace source target := by
  obtain ⟨node, found, -, fits⟩ := moved.whole
  cases held : before.at? target with
  | none => exact .free held
  | some old =>
    have fits := fits old held
    cases old with
    | link text => exact absurd held (noLink text).2
    | file old =>
      cases node with
      | link text => exact absurd found (noLink text).1
      | file bytes => exact .file found held
      | directory entries => cases fits
    | directory inner =>
      obtain ⟨isDirectory, rfl⟩ := checkReplace_directory fits
      cases node with
      | directory entries => exact .directory found held
      | file bytes => cases isDirectory
      | link text => cases isDirectory

end FileTree

namespace Sandbox

variable {sandbox : Sandbox} {tree before after : FileTree} {scene : Scene} {first second : String}

/-- **The effective destination** of a move or a copy: in a directory, the entry with the last name of the source. -/
def effective (sandbox : Sandbox) (tree : FileTree) (source destination : VirtualPath) : VirtualPath :=
  match source.fileName? with
  | some name => if (sandbox.spelt destination).isDirectory tree then destination.child name else destination
  | none => destination

namespace Linkless

/-- Over a linkless root the destination is the effective one. -/
theorem destination (linkless : sandbox.Linkless scene.tree) (source : VirtualPath) :
    sandbox.destination scene (sandbox.spelt source) second =
      .ok (sandbox.spelt (sandbox.effective scene.tree source (scene.cwd.join second))) := by
  have resolved : sandbox.resolve scene.tree scene.cwd second = .ok (sandbox.spelt (scene.cwd.join second)) :=
    linkless.resolveVirtual _
  rw [Sandbox.destination, resolved, effective, virtualPath_spelt]
  cases source.fileName? with
  | none => rfl
  | some name =>
    change (if _ then _ else _) = _
    split
    · exact linkless.resolveVirtual _
    · rfl

/-- **What moving comes to** over a linkless root. -/
theorem moving (linkless : sandbox.Linkless scene.tree) :
    sandbox.moving scene first second =
      let source := sandbox.spelt (scene.cwd.join first)
      let target := sandbox.spelt (sandbox.effective scene.tree (scene.cwd.join first) (scene.cwd.join second))
      if source.exists? scene.tree then
        if target = source then .ok (.silent, scene.tree)
        else (source.moveTo target scene.tree).map (Prod.mk (.text "move complete"))
      else .error (.notFound source.text) := by
  have resolved : sandbox.resolve scene.tree scene.cwd first = .ok (sandbox.spelt (scene.cwd.join first)) :=
    linkless.resolveVirtual _
  rw [Sandbox.moving, resolved]
  change (if _ then _ else sandbox.destination _ _ _ >>= _) = _
  rw [linkless.destination]
  dsimp only
  cases (sandbox.spelt (scene.cwd.join first)).exists? scene.tree <;> rfl

/-- A move over a linkless root to another path has moved, and there are no links at either place. -/
theorem moved_of_moveTo {source target : VirtualPath} (linkless : sandbox.Linkless before)
    (differ : sandbox.spelt target ≠ sandbox.spelt source)
    (moved : (sandbox.spelt source).moveTo (sandbox.spelt target) before = .ok after) :
    before.Moved after (sandbox.spelt source).physical (sandbox.spelt target).physical ∧
      before.TakesPlace (sandbox.spelt source).physical (sandbox.spelt target).physical := by
  rw [Resolved.moveTo] at moved
  split at moved
  · cases moved
  have fromStraight := linkless.straight source
  have toStraight := linkless.straight target
  obtain ⟨origin, place, fromLocated, toLocated, outcome⟩ :=
    FileTree.exists_of_rename fromStraight.plain toStraight.plain (Resolved.told_eq_ok.mp moved)
  obtain rfl : origin = (sandbox.spelt source).physical := fromStraight.locate fromLocated
  have there : place.location = (sandbox.spelt target).physical := toStraight.locate toLocated
  rcases outcome with ⟨rfl, -⟩ | ⟨node, renamed⟩
  · exact absurd (by rw [physical_spelt_inj.mp there]) differ
  · rw [there] at renamed
    have noLink (path : VirtualPath) (text : String) : before.at? (sandbox.spelt path).physical ≠ some (.link text) :=
      fun isLink => linkless.noLink _ text (List.prefix_append _ _) (FileTree.kindAt?_eq_link.mpr isLink)
    have moved := renamed.moved
    exact ⟨moved, moved.takesPlace fun text => ⟨noLink source text, noLink target text⟩⟩

end Linkless

end Sandbox

/-! ## A line that moves -/

namespace Session

variable {σ : Type} {session : Session σ} {suffix line first second : String}

/-- **A move conserves the tree.** Take a session over a linkless root and a line that calls `mv` with two operands.
When it reports that the move is complete, the node at the source is at the effective destination as a whole and
nothing else has changed, and the destination is not within the source. When the two are the same and something is
there, the line adds nothing and leaves everything as it is. When nothing is there, whatever the destination is, the
line fails and says so. -/
theorem mv_conserves (builtin : session.registry = ⟨Commands.builtin suffix⟩)
    (linkless : session.sandbox.Linkless session.scene.tree)
    (tokens : tokenize (Text.trim line) = some ("mv", [first, second])) (now : Moment) :
    let source := session.scene.cwd.join first
    let target := session.sandbox.effective session.scene.tree source (session.scene.cwd.join second)
    let there := (session.sandbox.spelt source).exists? session.scene.tree
    let after := (session.process now line).scene
    (session.added now line = ["move complete"] →
        session.scene.tree.Moved after.tree (session.sandbox.spelt source).physical
            (session.sandbox.spelt target).physical ∧
          session.scene.tree.TakesPlace (session.sandbox.spelt source).physical
            (session.sandbox.spelt target).physical ∧ after.cwd = session.scene.cwd) ∧
      (there = true → target = source → session.added now line = [] ∧ after = session.scene) ∧
      (there = false → session.Fails now line "mv" (.notFound source.text) ∧ after = session.scene) := by
  intro source target there after
  have concludes := concludes_mv builtin now tokens
  rw [linkless.moving] at concludes
  dsimp only at concludes
  refine ⟨fun reported => ?_, fun found same => ?_, fun missing => ?_⟩
  · obtain ⟨output, tree, moved, shown⟩ := concludes.of_added reported (by decide)
    rw [moved] at concludes
    have left : after = { session.scene with tree } := concludes.ends.scene_process
    split at moved
    · split at moved
      · cases moved
        cases shown
      · next differ =>
        obtain ⟨tree, performed, same⟩ := map_eq_ok.mp moved
        cases same
        obtain ⟨moved, takesPlace⟩ := linkless.moved_of_moveTo differ performed
        exact ⟨left ▸ moved, takesPlace, by rw [left]⟩
    · cases moved
  · have stays : session.sandbox.spelt target = session.sandbox.spelt source := congrArg _ same
    rw [if_pos found, if_pos stays] at concludes
    exact ⟨concludes.ends.added, concludes.ends.scene_process⟩
  · have notThere : ¬ (session.sandbox.spelt source).exists? session.scene.tree = true := by
      rw [Bool.not_eq_true]
      exact missing
    rw [if_neg notThere] at concludes
    exact ⟨concludes.fails, concludes.scene_process⟩

/-- A run of lines leaves a linkless root linkless, and the commands and the sandbox as they are. -/
theorem linkless_processAll (builtin : session.registry = ⟨Commands.builtin suffix⟩)
    (linkless : session.sandbox.Linkless session.scene.tree) (lines : List (Moment × String)) :
    (session.processAll lines).registry = ⟨Commands.builtin suffix⟩ ∧
      (session.processAll lines).sandbox.Linkless (session.processAll lines).scene.tree := by
  induction lines generalizing session with
  | nil => exact ⟨builtin, linkless⟩
  | cons first rest ih =>
    obtain ⟨now, line⟩ := first
    obtain ⟨registry, sandbox, -⟩ := session.process_leaves now line
    obtain ⟨kept, -⟩ := linkless_process builtin linkless now line
    rw [← sandbox] at kept
    rw [processAll]
    exact ih (registry.trans builtin) kept

end Session

namespace Errand

open Session

/-- A directory replaces an empty one, which is the current directory. The current directory stays when it would be
moved to itself, and what is not there is not moved. -/
theorem mv_conserves_of_replacing :
    let here := session.processAll (replacing.take 5)
    (here.added 6 "mv /b /a" = ["move complete"] ∧
        here.scene.tree.Moved (here.process 6 "mv /b /a").scene.tree ["root", "b"] ["root", "a", "b"]) ∧
      (here.added 6 "mv . .." = [] ∧ (here.process 6 "mv . ..").scene = here.scene) ∧
      here.Fails 6 "mv c /b/d" "mv" (.notFound "/a/b/c") := by
  intro here
  have tokens : tokenize (Text.trim "mv /b /a") = some ("mv", ["/b", "/a"]) ∧
      tokenize (Text.trim "mv . ..") = some ("mv", [".", ".."]) ∧
      tokenize (Text.trim "mv c /b/d") = some ("mv", ["c", "/b/d"]) := by
    decide +kernel
  have reported : here.added 6 "mv /b /a" = ["move complete"] := by decide +kernel
  have source : (here.sandbox.spelt (here.scene.cwd.join "/b")).physical = ["root", "b"] := by decide +kernel
  have target : (here.sandbox.spelt (here.sandbox.effective here.scene.tree (here.scene.cwd.join "/b")
      (here.scene.cwd.join "/a"))).physical = ["root", "a", "b"] := by
    decide +kernel
  have found : (here.sandbox.spelt (here.scene.cwd.join ".")).exists? here.scene.tree = true := by decide +kernel
  have same : here.sandbox.effective here.scene.tree (here.scene.cwd.join ".") (here.scene.cwd.join "..") =
      here.scene.cwd.join "." := by
    decide +kernel
  have missing : (here.sandbox.spelt (here.scene.cwd.join "c")).exists? here.scene.tree = false := by decide +kernel
  have name : (here.scene.cwd.join "c").text = "/a/b/c" := by decide +kernel
  obtain ⟨builtin, linkless⟩ : here.registry = ⟨Commands.builtin ""⟩ ∧ here.sandbox.Linkless here.scene.tree :=
    linkless_processAll rfl Errand.linkless (replacing.take 5)
  -- From here on, what the session has become is given by these facts alone.
  clear_value here
  obtain ⟨moved, -⟩ := (mv_conserves builtin linkless tokens.1 6).1 reported
  obtain ⟨fails, -⟩ := (mv_conserves builtin linkless tokens.2.2 6).2.2 missing
  rw [source, target] at moved
  rw [name] at fails
  exact ⟨⟨reported, moved⟩, (mv_conserves builtin linkless tokens.2.1 6).2.1 found same, fails⟩

/-- **Not every move onto itself is silent**: when nothing is there, the line says so. -/
theorem mv_of_nothing_onto_itself :
    session.sandbox.Linkless session.scene.tree ∧
      tokenize (Text.trim "mv ghost ghost") = some ("mv", ["ghost", "ghost"]) ∧
      session.sandbox.effective session.scene.tree (session.scene.cwd.join "ghost") (session.scene.cwd.join "ghost") =
        session.scene.cwd.join "ghost" ∧
      session.added 0 "mv ghost ghost" = ["Error in mv: /ghost: no such file or directory"] ∧
      session.added 0 "mv ghost ghost" ≠ [] :=
  ⟨linkless, by decide +kernel, by decide +kernel, by decide +kernel, by decide +kernel⟩

end Errand

end ConfinedShell
