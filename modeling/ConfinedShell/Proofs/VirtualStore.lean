import ConfinedShell.Proofs.LinkFree

/-!
# The store is the virtual tree

A session over the commands of the shell is given one thing after another to do: it processes lines, it
hands out the paths that an editor is asked for, an editor saves by such a path, seeds are planted
(`Session.Reaches`). None of this brings a link into a linkless root. So whatever happens, virtual paths and
physical ones say the same: each path is resolved, to what it spells, and no failure is one of the sandbox
(`Session.resolves_as_spelt`).
-/

set_option autoImplicit false

namespace ConfinedShell

/-! ## Lines -/

namespace Session

variable {σ : Type} {session : Session σ}

/-- **A line leaves a linkless root linkless**, and it asks for an editor on a path that is spelt. -/
theorem linkless_process {suffix : String} (builtin : session.registry = ⟨Commands.builtin suffix⟩)
    (linkless : session.sandbox.Linkless session.scene.tree) (now : Moment) (line : String) :
    session.sandbox.Linkless (session.process now line).scene.tree ∧
      ∀ path, (session.process now line).editorRequest = some path →
        path = session.sandbox.spelt path.virtualPath ∨ session.editorRequest = some path := by
  obtain ⟨one, asks⟩ := process_changes builtin now line
  constructor
  · rcases one with same | ⟨operation, checked, -, performed⟩
    · rw [same]
      exact linkless
    · exact linkless.perform (fun path mem => linkless.eq_spelt (checked path mem).good) performed
  · exact fun path asked => (asks path asked).imp_left fun ⟨_, checked⟩ => linkless.eq_spelt checked.good

/-- **A line fails on its own account** over a linkless root: no path that it looks up is rejected. -/
theorem Fails.isOwn {suffix : String} (builtin : session.registry = ⟨Commands.builtin suffix⟩)
    (linkless : session.sandbox.Linkless session.scene.tree) {now : Moment} {line name : String}
    {failure : Failure} (fails : session.Fails now line name failure) : failure.IsOwn := by
  cases fails with
  | unknown tokens missing => exact fun _ same => nomatch same
  | @fault suffix arguments command fault after tokens found own ended =>
    have inSandbox : ((session.noted (Text.trim line)).surroundings now).sandbox = session.sandbox := rfl
    have careful := careful_of_find? builtin found inSandbox arguments session.scene
    exact careful.isOwn_of_fault (fun path _ => ⟨_, linkless.resolveVirtual path⟩) ended

end Session

/-! ## Editors -/

/-- The failure that an editor has met, if any. -/
def EditorFailure.cause? : EditorFailure → Option Failure
  | reading _ cause | saving _ cause => some cause
  | input | writing _ => none

namespace Editor

variable {sandbox : Sandbox} {tree : FileTree} {path : Resolved}

/-- A run of an editor writes to its file at most once. -/
theorem tree_run (editor : Editor) (tree : FileTree) (shown : String) (keys : List Received)
    (trouble : Option Trouble) :
    (editor.run tree shown keys trouble).tree = tree ∨
      ∃ bytes, editor.path.write tree bytes = .ok (editor.run tree shown keys trouble).tree := by
  induction keys generalizing editor shown with
  | nil => exact .inl rfl
  | cons received rest ih =>
    rw [run]
    split
    · next next more stepped =>
      rw [← path_of_goesOn stepped]
      exact ih next _
    · next stepped => exact tree_of_ends stepped

/-- **An editor leaves a linkless root linkless** when its path is spelt. -/
theorem linkless_edit (linkless : sandbox.Linkless tree) (spelt : path = sandbox.spelt path.virtualPath)
    (keys : List Received) (trouble : Option Trouble) : sandbox.Linkless (edit path tree keys trouble).tree := by
  obtain ⟨editor, opens, rfl⟩ := exists_openOn path tree
  rw [edit, opens]
  dsimp only
  rcases tree_run editor tree editor.greeting keys trouble with same | ⟨bytes, written⟩
  · rw [same]
    exact linkless
  · have performs : (Operation.write editor.path bytes).perform tree =
        .ok (editor.run tree editor.greeting keys trouble).tree := written
    refine linkless.perform (fun other mem => ?_) performs
    rw [List.mem_singleton.mp mem]
    exact spelt

/-- A failure with which an editor ends was met when it was saving. -/
theorem isOwn_of_step {editor : Editor} {received : Received} {trouble : Option Trouble} {failure : EditorFailure}
    {after : FileTree} {shown : String}
    (stepped : editor.step tree received trouble = .ends (.failed failure) after shown) {cause : Failure}
    (met : failure.cause? = some cause) : cause.IsOwn := by
  unfold step at stepped
  split at stepped
  · cases stepped
    cases met
  · split at stepped
    · cases stepped
    · next failed =>
      cases stepped
      cases met
      exact Resolved.isOwn_of_send failed
  · cases stepped
  · cases stepped
  · cases stepped
  · cases stepped

/-- **An editor fails on its own account**: it has no path checked. -/
theorem isOwn_of_failed {keys : List Received} {trouble : Option Trouble} {failure : EditorFailure}
    (failed : (edit path tree keys trouble).outcome = .failed failure) {cause : Failure}
    (met : failure.cause? = some cause) : cause.IsOwn := by
  obtain ⟨editor, opens, -⟩ := exists_openOn path tree
  rw [edit, opens] at failed
  dsimp only at failed
  generalize editor.greeting = shown at failed
  clear opens
  induction keys generalizing editor shown with
  | nil => cases failed
  | cons received rest ih =>
    rw [run] at failed
    split at failed
    · next next more stepped => exact ih next _ failed
    · next outcome after more stepped =>
      dsimp only at failed
      rw [failed] at stepped
      exact isOwn_of_step stepped met

end Editor

/-! ## Whatever happens -/

namespace Session

variable {σ : Type} {start session : Session σ}

/-- **What may happen to a session**, one thing after another. With it go the paths that are held: what was
resolved at some time, and what was handed out for the editor. -/
inductive Reaches (start : Session σ) : Session σ → List Resolved → Prop where
  | start : Reaches start start []
  /-- A line is processed. -/
  | line {session : Session σ} {held : List Resolved} (reached : Reaches start session held)
      (now : Moment) (line : String) : Reaches start (session.process now line) held
  /-- A path is resolved. -/
  | resolve {session : Session σ} {held : List Resolved} (reached : Reaches start session held)
      {cwd : VirtualPath} {input : String} {path : Resolved}
      (resolved : session.sandbox.resolve session.scene.tree cwd input = .ok path) :
      Reaches start session (path :: held)
  /-- The path that an editor is asked for is handed out. -/
  | take {session : Session σ} {held : List Resolved} (reached : Reaches start session held)
      {path : Resolved} (asked : session.takeEditorRequest.1 = some path) :
      Reaches start session.takeEditorRequest.2 (path :: held)
  /-- An editor is run on a path that is held. -/
  | edit {session : Session σ} {held : List Resolved} (reached : Reaches start session held)
      {path : Resolved} (mem : path ∈ held) (keys : List Received) (trouble : Option Trouble) :
      Reaches start (session.withTree (Editor.edit path session.scene.tree keys trouble).tree) held
  /-- A seed is planted, as far as that succeeds. -/
  | seed {session : Session σ} {held : List Resolved} (reached : Reaches start session held)
      (seed : Seed) (fate : SeedFile → Option Trouble) :
      Reaches start (session.withTree (seed.plant session.sandbox session.scene.tree fate).1) held
  /-- Something happens to the transcript, the schedule or the subscribers. -/
  | aside {session next : Session σ} {held : List Resolved} (reached : Reaches start session held)
      (registry : next.registry = session.registry) (sandbox : next.sandbox = session.sandbox)
      (scene : next.scene = session.scene) (request : next.editorRequest = session.editorRequest) :
      Reaches start next held

/-- **What every session that is reached has in common**: the commands, the sandbox, a linkless root, and
that each path that is held or waits is spelt. -/
structure Linkless (suffix : String) (sandbox : Sandbox) (session : Session σ) (held : List Resolved) :
    Prop where
  builtin : session.registry = ⟨Commands.builtin suffix⟩
  inSandbox : session.sandbox = sandbox
  store : sandbox.Linkless session.scene.tree
  held : ∀ path ∈ held, path = sandbox.spelt path.virtualPath
  waiting : ∀ path, session.editorRequest = some path → path = sandbox.spelt path.virtualPath

/-- Other files may be put in their place, if the root is linkless in them. -/
theorem Linkless.withTree {suffix : String} {sandbox : Sandbox} {held : List Resolved}
    (linkless : session.Linkless suffix sandbox held) {tree : FileTree} (store : sandbox.Linkless tree) :
    (session.withTree tree).Linkless suffix sandbox held :=
  { linkless with store }

/-- **Nothing that may happen brings a link in.** -/
theorem Reaches.linkless {suffix : String} {sandbox : Sandbox} {held : List Resolved}
    (linkless : start.Linkless suffix sandbox []) (reached : start.Reaches session held) :
    session.Linkless suffix sandbox held := by
  induction reached with
  | start => exact linkless
  | @line session held _ now line ih =>
    obtain ⟨registry, same, -⟩ := session.process_leaves now line
    obtain ⟨builtin, rfl, store, spelt, waiting⟩ := ih
    obtain ⟨kept, asks⟩ := linkless_process builtin store now line
    exact ⟨registry.trans builtin, same, kept, spelt, fun path asked =>
      (asks path asked).elim id (waiting path)⟩
  | resolve _ resolved ih =>
    obtain ⟨builtin, rfl, store, spelt, waiting⟩ := ih
    have checked := store.eq_spelt resolved
    exact ⟨builtin, rfl, store, List.forall_mem_cons.mpr ⟨checked ▸ rfl, spelt⟩, waiting⟩
  | take _ asked ih =>
    exact { ih with
      held := List.forall_mem_cons.mpr ⟨ih.waiting _ asked, ih.held⟩
      waiting := fun _ none => nomatch none }
  | edit _ mem keys trouble ih => exact ih.withTree (Editor.linkless_edit ih.store (ih.held _ mem) keys trouble)
  | seed _ seed fate ih =>
    obtain rfl := ih.inSandbox
    exact ih.withTree (ih.store.plant seed fate).linkless
  | aside _ registry sandbox scene request ih =>
    exact ⟨registry.trans ih.builtin, sandbox.trans ih.inSandbox, scene ▸ ih.store, ih.held,
      fun path asked => ih.waiting path (request ▸ asked)⟩

/-- **Paths mean what they spell, whatever happens.** A session starts over a root without links. In every
session that is reached from it there is still none; every text is resolved in every directory, to the
physical path which the joined path spells; no line, no seed and no editor fails because a path was
rejected; and of the paths that are held, two are physically the same when they are virtually the same, and
only then. -/
theorem resolves_as_spelt {suffix : String} {held : List Resolved}
    (builtin : start.registry = ⟨Commands.builtin suffix⟩)
    (linkless : start.sandbox.Linkless start.scene.tree) (unasked : start.editorRequest = none)
    (reached : start.Reaches session held) :
    start.sandbox.Linkless session.scene.tree ∧
      (∀ (cwd : VirtualPath) (input : String),
        session.sandbox.resolve session.scene.tree cwd input =
          .ok ⟨cwd.join input, start.sandbox.root ++ (cwd.join input).segments⟩) ∧
      (∀ now line name path, ¬ session.Fails now line name (.pathEscape path)) ∧
      (∀ (seed : Seed) fate path,
        (seed.plant session.sandbox session.scene.tree fate).2 ≠ .error (.pathEscape path)) ∧
      (∀ path ∈ held, ∀ keys trouble failure,
        (Editor.edit path session.scene.tree keys trouble).outcome = .failed failure →
          ∀ escaped, failure.cause? ≠ some (.pathEscape escaped)) ∧
      ∀ one ∈ held, ∀ other ∈ held,
        one.physical = other.physical ↔ one.virtualPath = other.virtualPath := by
  have waiting : ∀ path, start.editorRequest = some path → path = start.sandbox.spelt path.virtualPath := by
    intro path asked
    rw [unasked] at asked
    cases asked
  obtain ⟨builtin, inSandbox, linkless, spelt, -⟩ :=
    reached.linkless ⟨builtin, rfl, linkless, (fun _ mem => nomatch mem), waiting⟩
  rw [← inSandbox] at linkless spelt ⊢
  refine ⟨linkless, fun cwd input => linkless.resolveVirtual (cwd.join input), ?_, ?_, ?_, ?_⟩
  · intro now line name path fails
    exact fails.isOwn builtin linkless path rfl
  · intro seed fate path failed
    exact (linkless.plant seed fate).own _ failed path rfl
  · intro path mem keys trouble failure failed escaped met
    exact Editor.isOwn_of_failed failed met escaped rfl
  · intro one memOne other memOther
    rw [spelt one memOne, spelt other memOther]
    exact Sandbox.physical_spelt_inj

end Session

/-! ## An errand -/

namespace Errand

/-- A session over an empty root. -/
def session : Session Unit :=
  Session.start ⟨Commands.builtin ""⟩ ⟨["root"]⟩ (Clock.fixed ⟨2024, 1, 1, 0, 0, 0⟩ 0)
    (.directory [("root", .directory [])]) ()

/-- The path of a file that is to be made in `a`. -/
def path : Resolved :=
  ⟨VirtualPath.root.join "a/note", ["root", "a", "note"]⟩

/-- The directory is made, and the path is handed out for an editor. -/
def taken : Session Unit :=
  ((session.process 0 "mkdir a").process 0 "nano a/note").takeEditorRequest.2

/-- The editor saves a line. -/
def edited : Session Unit :=
  taken.withTree (Editor.edit path taken.scene.tree [.line "x", .line ":wq"]).tree

/-- The directory is moved, and a seed is planted. -/
def seeded : Session Unit :=
  let moved := edited.process 1 "mv a b"
  moved.withTree (Seed.plant ⟨["/a/c"], [⟨"/b/d/e", "y"⟩]⟩ moved.sandbox moved.scene.tree).1

theorem linkless : session.sandbox.Linkless session.scene.tree := by
  have root : session.scene.tree.at? session.sandbox.root = some (.directory []) := rfl
  refine ⟨⟨by simp [session, Session.start, PlainName], _, root⟩, ?_⟩
  rintro location target ⟨rest, rfl⟩
  rw [FileTree.kindAt?_append root]
  exact FileTree.directory_noLink rest target

theorem reaches : session.Reaches seeded [path] := by
  have asked : ((session.process 0 "mkdir a").process 0 "nano a/note").takeEditorRequest.1 =
      some path := by decide +kernel
  have handed : session.Reaches taken [path] := .take (.line (.line .start 0 "mkdir a") 0 "nano a/note") asked
  exact .seed (.line (.edit handed List.mem_cons_self _ none) 1 "mv a b") _ _

/-- A path into the directory that was moved away is still resolved, and the seed has made another one. -/
theorem resolves_as_spelt_of_errand :
    session.Reaches seeded [path] ∧ session.sandbox.Linkless session.scene.tree ∧
      seeded.sandbox.resolve seeded.scene.tree VirtualPath.root "a/note" = .ok path ∧
      seeded.scene.tree.kindAt? ["root", "a", "note"] = none ∧
      seeded.scene.tree.kindAt? ["root", "b", "note"] = some (.file (Text.encode "x\n")) ∧
      seeded.scene.tree.kindAt? ["root", "b", "d", "e"] = some (.file (Text.encode "y")) := by
  obtain ⟨-, resolves, -⟩ := Session.resolves_as_spelt rfl linkless rfl reaches
  exact ⟨reaches, linkless, resolves VirtualPath.root "a/note", by decide +kernel, by decide +kernel,
    by decide +kernel⟩

end Errand

end ConfinedShell
