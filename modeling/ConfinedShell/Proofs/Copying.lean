import ConfinedShell.Proofs.Leading
import ConfinedShell.Proofs.Plans
import ConfinedShell.Proofs.Saving

/-!
# A copy keeps its source

The host empties the file that is copied to before it reads the file that is copied. So a copy would destroy a file that
is copied onto itself, and all that prevents it is the comparison of two locations. This module shows that they tell.

**A copy that succeeds** writes the bytes of the source to another location. A write lets the tree grow, and by that
the source, the destination and every other file are known afterwards (`Sandbox.Copied`).

**A copy onto the same file fails**, however the file is spelt: the second operand may lead to the file as well, or to
the directory that holds it, or to a directory with an entry that leads back to it (`Sandbox.SameFile`).
-/

set_option autoImplicit false

namespace ConfinedShell

open FileTree (Grown)

/-! ## A copy that succeeds -/

namespace FileTree

variable {tree after : FileTree} {source path : Location}

/-- Only a file is of the kind of a file. -/
theorem kindAt?_eq_file {location : Location} {bytes : Text.Bytes} :
    tree.kindAt? location = some (.file bytes) ↔ tree.at? location = some (file bytes) := by
  constructor
  · intro h
    obtain ⟨node, found, kind⟩ := Option.map_eq_some_iff.mp h
    cases node <;> simp [FileTree.kind] at kind
    rw [found, kind]
  · exact kindAt?_of_at?

/-- What is copied are the bytes of the source, unless it has found one file by both paths. -/
theorem at?_of_copied {bytes : Text.Bytes} (fromStraight : tree.Straight source) (toStraight : tree.Straight path)
    (differ : source ≠ path) (copied : tree.copied source path = .ok bytes) :
    tree.locate .follow source = .ok (.found source) ∧ tree.at? source = some (file bytes) := by
  obtain ⟨origin, held, location, located, isFile, opened, rfl⟩ := exists_of_copied copied
  obtain rfl : origin = source := fromStraight.locate located
  obtain ⟨rfl, -⟩ := writableLocation_ok toStraight opened
  rw [if_neg (Ne.symm differ)]
  exact ⟨located, isFile⟩

/-- What a write by a straight path leaves. -/
theorem writeFile_ok {bytes : Text.Bytes} (straight : tree.Straight path)
    (written : tree.writeFile path bytes = .ok after) :
    (tree.at? path = none ∨ ∃ old, tree.at? path = some (file old)) ∧ after.at? path = some (file bytes) ∧
      ∀ other, other ≠ path → after.kindAt? other = tree.kindAt? other := by
  obtain ⟨location, opened, rfl⟩ := map_eq_ok.mp written
  obtain ⟨rfl, noDirectory⟩ := writableLocation_ok straight opened
  refine ⟨free_of_writable opened, at?_put_writable opened _, fun other ne => ?_⟩
  exact kindAt?_put_leaf (fun _ => kindAt?_below noDirectory) (fun _ => kindAt?_file_below _) ne

end FileTree

namespace Sandbox

variable {sandbox : Sandbox} {before after : FileTree} {source place : Resolved}

/-- **A file was copied**: the destination, where nothing was or a file, holds the bytes of the source, which has kept
them, and no other location has changed. Both paths mean what they meant and read the bytes. -/
structure Copied (sandbox : Sandbox) (before after : FileTree) (source place : Resolved) (bytes : Text.Bytes) :
    Prop where
  held : before.at? source.physical = some (.file bytes)
  free : before.at? place.physical = none ∨ ∃ old, before.at? place.physical = some (.file old)
  apart : source.physical ≠ place.physical
  kept : after.at? source.physical = some (.file bytes)
  arrived : after.at? place.physical = some (.file bytes)
  elsewhere : ∀ location, location ≠ place.physical → after.kindAt? location = before.kindAt? location
  reads : ∀ path ∈ [source, place], sandbox.resolveVirtual after path.virtualPath = .ok path ∧
    after.readFile path.physical = .ok bytes

/-- **A copy by secure paths that succeeds has copied the file.** -/
theorem copied_of_copyTo {count : Nat} (stands : sandbox.Stands before)
    (secure : ∀ path ∈ [source, place], path.Secure sandbox before)
    (good : ∀ path ∈ [source, place], sandbox.resolveVirtual before path.virtualPath = .ok path)
    (copied : source.copyTo place before = .ok (count, after)) :
    ∃ bytes, sandbox.Copied before after source place bytes := by
  have fromStraight := (secure source (by simp)).straight
  have toStraight := (secure place (by simp)).straight
  obtain ⟨differ, bytes, sent, written, -⟩ := Resolved.copyTo_eq_ok.mp copied
  obtain ⟨located, held⟩ := FileTree.at?_of_copied fromStraight toStraight differ sent
  have written := Resolved.write_eq_ok.mp written
  obtain ⟨free, arrived, elsewhere⟩ := FileTree.writeFile_ok toStraight written
  obtain ⟨grown, exist⟩ := FileTree.grown_of_writeFile written
  have kept : after.at? source.physical = some (.file bytes) := by
    rw [← FileTree.kindAt?_eq_file, elsewhere _ differ, FileTree.kindAt?_eq_file]
    exact held
  have reached := grown.locate located
  have again (path : Resolved) (mem : path ∈ [source, place]) (there : path.exists? after = true) :
      sandbox.resolveVirtual after path.virtualPath = .ok path :=
    Sandbox.resolveVirtual_of_grown grown stands (good path mem) there
  refine ⟨bytes, held, free, differ, kept, arrived, elsewhere, fun path mem => ?_⟩
  have either : path = source ∨ path = place := by simpa using mem
  rcases either with rfl | rfl
  · refine ⟨again _ mem (FileTree.pathExists_iff.mpr ⟨_, _, reached, kept⟩), ?_⟩
    simp only [FileTree.readFile, FileTree.stat, reached, kept]
  · exact ⟨again _ mem exist, Editor.readFile_of_write (Resolved.write_eq_ok.mpr written)⟩

/-! ## Two operands for one file -/

/-- **Two operands denote one file**: the second one leads to it as well, or to a directory in which the entry with the
last name of the first one leads back to it, or to the directory that holds it under this name. -/
inductive SameFile (sandbox : Sandbox) (scene : Scene) (first second : String) (origin : Location) : Prop where
  | file (leads : sandbox.Leads scene.tree (scene.cwd.join second) origin)
  | entry {holder : Location} {entries : Entries} {name : String}
      (leads : sandbox.Leads scene.tree (scene.cwd.join second) holder)
      (isDirectory : scene.tree.at? holder = some (.directory entries))
      (named : (scene.cwd.join first).fileName? = some name)
      (back : sandbox.Leads scene.tree ((scene.cwd.join second).child name) origin)
  | holder {holder : Location} {name : String} (leads : sandbox.Leads scene.tree (scene.cwd.join second) holder)
      (named : (scene.cwd.join first).fileName? = some name) (holds : origin = holder ++ [name])

/-- **The destination is the file**, or else a directory by a path by which the host does not see one. -/
theorem SameFile.destination {scene : Scene} {first second : String} {origin : Location} {bytes : Text.Bytes}
    (same : sandbox.SameFile scene first second origin) (stands : sandbox.Stands scene.tree)
    (leads : sandbox.Leads scene.tree (scene.cwd.join first) origin)
    (isFile : scene.tree.at? origin = some (.file bytes))
    (resolved : sandbox.resolve scene.tree scene.cwd first = .ok source)
    (goes : sandbox.destination scene source second = .ok place) (fits : sandbox.Fits place.virtualPath) :
    place.physical = origin ∨ ∃ entries, scene.tree.at? place.physical = some (.directory entries) := by
  obtain ⟨direct, checked, ends⟩ := destination_ok goes
  have written : direct.virtualPath = scene.cwd.join second := (resolveVirtual_ok checked).1
  rw [(resolveVirtual_ok resolved).1, written] at ends
  obtain ⟨names, -, walks⟩ := FileTree.locate_ok.mp leads
  cases same with
  | file alsoLeads =>
    have here := alsoLeads.physical_eq checked
    rcases ends with ⟨-, rfl⟩ | ⟨name, inside, -, -⟩
    · exact .inl here
    · -- The file is no directory.
      obtain ⟨location, entries, located, isDirectory⟩ := FileTree.pathIsDirectory_iff.mp inside
      rw [here] at located
      have real : scene.tree.Real origin := walks.real (stands.real.above List.nil_prefix)
      obtain rfl : location = origin := real.straight.locate located
      cases isFile.symm.trans isDirectory
  | @entry holder entries name leadsTo isDirectory named back =>
    have here := leadsTo.physical_eq checked
    rcases ends with ⟨-, rfl⟩ | ⟨other, -, named', looked⟩
    · exact .inr ⟨entries, here ▸ isDirectory⟩
    · cases named.symm.trans named'
      exact .inl (back.physical_eq looked)
  | @holder holder name leadsTo named holds =>
    subst holds
    have here := leadsTo.physical_eq checked
    rcases ends with ⟨-, rfl⟩ | ⟨other, -, named', looked⟩
    · exact .inr (here ▸ FileTree.directory_of_at?_append isFile (List.cons_ne_nil _ _))
    · cases named.symm.trans named'
      have mem : name ∈ (scene.cwd.join first).segments := List.mem_of_getLast? named
      have taken : HostName name := ⟨walks.short nofun name (by simp),
        FileTree.checkNames_ok names name (List.mem_append_right _ mem)⟩
      rw [(resolveVirtual_ok looked).1] at fits
      have back := leadsTo.child ((scene.cwd.join first).isSegment name mem) taken isFile nofun fits
      exact .inl (back.physical_eq looked)

end Sandbox

/-! ## A line that copies -/

namespace Session

variable {σ : Type} {session : Session σ} {suffix line first second : String} {now : Moment}

/-- A line that copies has copied a file, by paths that it has looked up. -/
theorem copied_of_copying (stands : session.sandbox.Stands session.scene.tree)
    (tokens : tokenize (Text.trim line) = some ("cp", [first, second])) (fits : session.Fits line) {output : Output}
    {after : FileTree} (copied : session.sandbox.copying session.scene first second = .ok (output, after)) :
    output = .text "copy complete" ∧ ∃ source place bytes,
      session.sandbox.resolve session.scene.tree session.scene.cwd first = .ok source ∧
      session.sandbox.destination session.scene source second = .ok place ∧
      session.sandbox.Fits place.virtualPath ∧ session.sandbox.Copied session.scene.tree after source place bytes := by
  obtain ⟨source, place, count, resolved, isFile, goes, performed, rfl⟩ := Sandbox.copying_ok copied
  rw [Fits, lookups, tokens] at fits
  have checked := (Commands.Performs.cp resolved isFile goes).checked
  have good (path : Resolved) (mem : path ∈ [source, place]) :=
    (checked path (by simpa [Operation.paths] using mem)).good
  have fit (path : Resolved) (mem : path ∈ [source, place]) : session.sandbox.Fits path.virtualPath :=
    fits _ (checked path (by simpa [Operation.paths] using mem)).listed
  obtain ⟨bytes, all⟩ := Sandbox.copied_of_copyTo stands
    (fun path mem => Resolved.secure_of_fits (fit path mem) stands (good path mem)) good performed
  exact ⟨rfl, source, place, bytes, resolved, goes, fit place (by simp), all⟩

/-- **A copy keeps its source.** Let the host take every path that a line looks up which calls `cp` with two operands.
If the line succeeds, it reports so, and the bytes that the source had held are at the source and at the destination
afterwards, which is another location; no other location has changed, and both are read by the paths that they were
copied by. If the first operand leads to a file and the two denote the same one, the line fails, and the file with all
the rest stays as it is. -/
theorem cp_keeps_source (builtin : session.registry = ⟨Commands.builtin suffix⟩)
    (stands : session.sandbox.Stands session.scene.tree)
    (tokens : tokenize (Text.trim line) = some ("cp", [first, second])) (fits : session.Fits line) (now : Moment) :
    let before := session.scene.tree
    let after := (session.process now line).scene
    (∀ output left, session.Ends now line "cp" [first, second] output left →
      session.added now line = ["copy complete"] ∧ ∃ source place bytes,
        session.sandbox.resolve before session.scene.cwd first = .ok source ∧
        session.sandbox.destination session.scene source second = .ok place ∧
        session.sandbox.Copied before after.tree source place bytes) ∧
      ∀ origin bytes, session.sandbox.Leads before (session.scene.cwd.join first) origin →
        before.at? origin = some (.file bytes) → session.sandbox.SameFile session.scene first second origin →
        (∃ cause, session.Fails now line "cp" cause) ∧ after = session.scene := by
  intro before after
  have concludes := concludes_cp builtin now tokens
  refine ⟨fun output left ends => ?_, fun origin bytes leads isFile same => ?_⟩
  · obtain ⟨tree, copied, rfl⟩ := concludes.of_ends ends
    obtain ⟨rfl, source, place, bytes, resolved, goes, -, all⟩ := copied_of_copying stands tokens fits copied
    have left : after = { session.scene with tree } := ends.scene_process
    exact ⟨ends.added, source, place, bytes, resolved, goes, left ▸ all⟩
  · cases outcome : session.sandbox.copying session.scene first second with
    | error cause =>
      rw [outcome] at concludes
      exact ⟨⟨cause, concludes.fails⟩, concludes.scene_process⟩
    | ok result =>
      obtain ⟨-, source, place, copied, resolved, goes, fit, all⟩ := copied_of_copying stands tokens fits outcome
      have here : source.physical = origin := leads.physical_eq resolved
      rcases same.destination stands leads isFile resolved goes fit with there | ⟨entries, isDirectory⟩
      · exact absurd (here.trans there.symm) all.apart
      · rcases all.free with none | ⟨old, isOld⟩
        · cases none.symm.trans isDirectory
        · cases isOld.symm.trans isDirectory

end Session

/-! ## Links on both sides -/

namespace Archive

/-- Two directories, one with a file and the other with a link to the file, and a link to the first one. -/
def tree : FileTree :=
  .directory [("root", .directory
    [("d", .directory [("f", .file (Text.encode "kept"))]), ("e", .directory [("f", .link "../d/f")]),
      ("l", .link "./e/../d")])]

/-- A session in the second directory. -/
def session : Session Unit :=
  { Session.start ⟨Commands.builtin ""⟩ ⟨["root"]⟩ (Clock.fixed ⟨2024, 1, 1, 0, 0, 0⟩ 0) tree () with
    scene := ⟨tree, VirtualPath.parse "/e"⟩ }

theorem stands : session.sandbox.Stands session.scene.tree :=
  ⟨by simp [session, Session.start, PlainName], _, rfl⟩

end Archive

namespace Session

/-- Through one link the file is copied beside the other, and it is not copied onto itself through both of them. -/
theorem cp_keeps_source_of_links :
    Archive.session.sandbox.Copied Archive.tree (Archive.session.process 0 "cp ../l/f copy").scene.tree
        ⟨Archive.session.scene.cwd.join "../l/f", ["root", "d", "f"]⟩
        ⟨Archive.session.scene.cwd.join "copy", ["root", "e", "copy"]⟩ (Text.encode "kept") ∧
      (∃ cause, Archive.session.Fails 0 "cp ../l/f ." "cp" cause) ∧
      (Archive.session.process 0 "cp ../l/f .").scene = Archive.session.scene := by
  have builtin : Archive.session.registry = ⟨Commands.builtin ""⟩ := rfl
  have fits : Archive.session.Fits "cp ../l/f copy" ∧ Archive.session.Fits "cp ../l/f ." := by decide +kernel
  have tokens : tokenize (Text.trim "cp ../l/f copy") = some ("cp", ["../l/f", "copy"]) ∧
      tokenize (Text.trim "cp ../l/f .") = some ("cp", ["../l/f", "."]) := by
    decide +kernel
  constructor
  · obtain ⟨after, dispatched⟩ : ∃ after, (Archive.session.noted (Text.trim "cp ../l/f copy")).dispatch 0 "cp"
        ["../l/f", "copy"] = .ok (.text "copy complete") after := ⟨_, rfl⟩
    obtain ⟨-, source, place, bytes, resolved, goes, copied⟩ :=
      (cp_keeps_source builtin Archive.stands tokens.1 fits.1 0).1 _ _ ⟨tokens.1, dispatched⟩
    have isSource : Archive.session.sandbox.resolve Archive.tree Archive.session.scene.cwd "../l/f" =
      .ok ⟨Archive.session.scene.cwd.join "../l/f", ["root", "d", "f"]⟩ := rfl
    cases isSource.symm.trans resolved
    have isPlace : Archive.session.sandbox.destination Archive.session.scene
        ⟨Archive.session.scene.cwd.join "../l/f", ["root", "d", "f"]⟩ "copy" =
      .ok ⟨Archive.session.scene.cwd.join "copy", ["root", "e", "copy"]⟩ := rfl
    cases isPlace.symm.trans goes
    have isText : Archive.tree.at? ["root", "d", "f"] = some (.file (Text.encode "kept")) := rfl
    cases isText.symm.trans copied.held
    exact copied
  · have leads : Archive.session.sandbox.Leads Archive.tree (Archive.session.scene.cwd.join "../l/f")
        ["root", "d", "f"] := ok_of_toOption (by decide +kernel)
    have into : Archive.session.sandbox.Leads Archive.tree (Archive.session.scene.cwd.join ".")
        ["root", "e"] := ok_of_toOption (by decide +kernel)
    have back : Archive.session.sandbox.Leads Archive.tree ((Archive.session.scene.cwd.join ".").child "f")
        ["root", "d", "f"] := ok_of_toOption (by decide +kernel)
    have named : (Archive.session.scene.cwd.join "../l/f").fileName? = some "f" := by decide +kernel
    exact (cp_keeps_source builtin Archive.stands tokens.2 fits.2 0).2 _ _ leads rfl (.entry into rfl named back)

end Session

end ConfinedShell
