import ConfinedShell.Proofs.VirtualStore

/-!
# The current directory is there

The current directory is a virtual path that a session remembers; nothing ties it to the directory which it
led to when `cd` was called. Over a linkless root it leads to a directory all the same, after every line of a
run, as long as no line moves that directory or one above it away (`Session.hasDirectory_processAll`).

Only two sorts of operation could take a directory from its place (`Operation.TakesAway`): `rmdir` does not,
because it spares the current directory by name, and a move from elsewhere can only put another directory
there, in the place of an empty one (`FileTree.kindAt?_of_rename`).
-/

set_option autoImplicit false

namespace ConfinedShell

/-! ## What stays a directory -/

namespace FileTree

variable {tree : FileTree} {source destination here : Location} {node : FileTree}

/-- A node takes the place of a directory when it is one itself, and the other one is empty. -/
theorem checkReplace_directory {entries : Entries}
    (fits : checkReplace node (directory entries) = .ok ()) : node.kind = .directory ∧ entries = [] := by
  cases node with
  | file bytes => cases fits
  | link target => cases fits
  | directory inner =>
    cases entries with
    | nil => exact ⟨rfl, rfl⟩
    | cons entry rest => cases fits

/-- **A directory in the way of a move** is a directory afterwards, unless it is in what is moved: if it was
the destination, it was empty, and another directory has taken its place. -/
theorem kindAt?_of_rename (notInto : ¬ source <+: destination.dropLast)
    (notAbove : ¬ destination <+: source.dropLast)
    (fits : ∀ old, tree.at? destination = some old → checkReplace node old = .ok ())
    (isDirectory : tree.kindAt? here = some .directory) (stays : ¬ source <+: here) :
    ((tree.remove source).put destination node).kindAt? here = some .directory := by
  by_cases inside : destination <+: here
  · obtain ⟨rest, rfl⟩ := inside
    obtain ⟨entries, stands⟩ := kindAt?_eq_directory.mp isDirectory
    cases rest with
    | cons name rest =>
      -- What holds another directory is not empty, so nothing may take its place.
      obtain ⟨others, holds⟩ := directory_of_at?_append stands (List.cons_ne_nil name rest)
      obtain ⟨-, rfl⟩ := checkReplace_directory (fits _ holds)
      rw [at?_append, holds] at stands
      cases stands
    | nil =>
      rw [List.append_nil] at stays stands ⊢
      obtain ⟨moved, -⟩ := checkReplace_directory (fits _ stands)
      rcases List.eq_nil_or_concat destination with rfl | ⟨holder, name, rfl⟩
      · exact absurd List.nil_prefix notAbove
      rw [List.concat_eq_append] at notInto stands ⊢
      rw [List.dropLast_concat] at notInto
      have held := kindAt?_eq_directory.mpr (directory_of_at?_append stands (List.cons_ne_nil name []))
      rw [← kindAt?_remove_outside notInto] at held
      obtain ⟨others, holds⟩ := kindAt?_eq_directory.mp held
      rw [kindAt?_of_at? (at?_put_child holds name node), moved]
  · rw [kindAt?_put_outside inside, kindAt?_remove_outside stays, isDirectory]

end FileTree

namespace Operation

variable {sandbox : Sandbox} {tree after : FileTree} {here : Location}

/-- **The directories that an operation may take away**: the one that it removes, and all that it moves. -/
def TakesAway : Operation → Location → Prop
  | .removeDirectory path, here => here = path.physical
  | .move source _, here => source.physical <+: here
  | _, _ => False

/-- **A directory stays one** when an operation on secure paths does not take it away. -/
theorem keeps_directory {operation : Operation}
    (secure : ∀ path ∈ operation.paths, path.Secure sandbox tree)
    (performed : operation.perform tree = .ok after) (stays : ¬ operation.TakesAway here)
    (isDirectory : tree.kindAt? here = some .directory) : after.kindAt? here = some .directory := by
  by_cases touches : operation.Touches here
  · obtain ⟨entries, stands⟩ := FileTree.kindAt?_eq_directory.mp isDirectory
    cases does_of_perform secure performed with
    | write noDirectory | createFile noDirectory | removeFile noDirectory | copy noDirectory =>
      exact absurd (touches ▸ stands) (noDirectory entries)
    | createDirectory missing =>
      rw [touches, missing] at stands
      cases stands
    | removeDirectory empty => exact absurd touches stays
    | stay => exact isDirectory
    | move found notInto notAbove fits =>
      exact FileTree.kindAt?_of_rename notInto notAbove fits isDirectory stays
  · rw [operation.kindAt?_eq secure performed touches, isDirectory]

end Operation

/-- **`rmdir` spares the current directory** and all that it is in. -/
theorem Commands.ensures_rmdir_spares (around : Surroundings) (scene : Scene) (input : String) :
    Action.Ensures scene (rmdir.run around [input])
      (fun _ _ => ∀ path, around.sandbox.resolve scene.tree scene.cwd input = .ok path →
        ¬ path.virtualPath.segments <+: scene.cwd.segments) fun _ => False := by
  refine .oneArgument fun input given => .resolve fun path resolved => .get ?_
  split
  · exact .fail
  · next spared =>
    refine .change fun tree removed other again => ?_
    cases given
    cases resolved.symm.trans again
    exact fun above => spared (List.isPrefixOf_iff_prefix.mpr above)

namespace Session

variable {σ : Type} {session : Session σ}

/-! ## One line -/

/-- **The current directory is there** when its path is resolved, and to a directory. -/
def HasDirectory (session : Session σ) : Prop :=
  ∃ path, session.sandbox.resolveVirtual session.scene.tree session.scene.cwd = .ok path ∧
    path.isDirectory session.scene.tree = true

/-- Over a linkless root the path of the current directory spells a directory then, and one that the host
takes. -/
theorem hasDirectory_iff (linkless : session.sandbox.Linkless session.scene.tree) :
    session.HasDirectory ↔
      let here := (session.sandbox.spelt session.scene.cwd).physical
      (∀ name ∈ here, HostName name) ∧ pathBytes here < pathLimit ∧
        session.scene.tree.kindAt? here = some .directory := by
  have leads : session.HasDirectory ↔
      (session.sandbox.spelt session.scene.cwd).isDirectory session.scene.tree = true := by
    simp [HasDirectory, linkless.resolveVirtual]
  exact leads.trans (linkless.straight session.scene.cwd).pathIsDirectory_iff

/-- **A line moves the current directory away** when it is a successful `mv`, and its source is the current
directory or one that this is in. -/
def movesAway (session : Session σ) (now : Moment) (line : String) : Bool :=
  match tokenize (Text.trim line) with
  | some ("mv", [first, second]) =>
    match session.sandbox.resolve session.scene.tree session.scene.cwd first,
        (session.noted (Text.trim line)).dispatch now "mv" [first, second] with
    | .ok source, .ok _ _ => source.virtualPath.segments.isPrefixOf session.scene.cwd.segments
    | _, _ => false
  | _ => false

/-- **The operation of a line spares the current directory** when the line does not move it away. -/
theorem not_takesAway {suffix : String} (builtin : session.registry = ⟨Commands.builtin suffix⟩)
    (linkless : session.sandbox.Linkless session.scene.tree) {now : Moment} {line name : String}
    {arguments : List String} {output : Output} {after : Scene} {operation : Operation}
    (tokens : tokenize (Text.trim line) = some (name, arguments))
    (ended : (session.noted (Text.trim line)).dispatch now name arguments = .ok output after)
    (performs : Commands.Performs session.sandbox session.scene name arguments operation)
    (stays : session.movesAway now line = false) :
    ¬ operation.TakesAway (session.sandbox.spelt session.scene.cwd).physical := by
  have spelt {input : String} {path : Resolved}
      (resolved : session.sandbox.resolve session.scene.tree session.scene.cwd input = .ok path) :
      path.physical = session.sandbox.root ++ path.virtualPath.segments := by
    rw [linkless.eq_spelt resolved]
    rfl
  cases performs with
  | @rmdir input path resolved =>
    have found : session.registry.find? "rmdir" = some Commands.rmdir := by
      rw [builtin]
      rfl
    rw [dispatch] at ended
    have ran : Commands.rmdir.run ((session.noted (Text.trim line)).surroundings now) [input]
        session.scene = .ok output after := by
      have known : (session.noted (Text.trim line)).registry.find? "rmdir" = some Commands.rmdir := found
      rw [known] at ended
      exact ended
    have spared := (Commands.ensures_rmdir_spares _ session.scene input).of_ok ran path resolved
    intro same
    have equal : session.sandbox.root ++ session.scene.cwd.segments = path.physical := same
    rw [spelt resolved] at equal
    exact spared (List.append_cancel_left equal ▸ List.prefix_rfl)
  | @mv first second source place resolved there goes =>
    intro above
    have below : session.sandbox.root ++ source.virtualPath.segments <+:
        session.sandbox.root ++ session.scene.cwd.segments := spelt resolved ▸ above
    have inside := List.isPrefixOf_iff_prefix.mpr ((List.prefix_append_right_inj _).mp below)
    simp only [movesAway, tokens, resolved, ended, inside] at stays
    cases stays
  | mkdir | touch | rm | echo | cp => exact id

/-- **A line leaves a current directory** that is there, when it does not move it away: the one that was, or
the one that it enters. -/
theorem hasDirectory_process {suffix : String} (builtin : session.registry = ⟨Commands.builtin suffix⟩)
    (linkless : session.sandbox.Linkless session.scene.tree) (has : session.HasDirectory) {now : Moment}
    {line : String} (stays : session.movesAway now line = false) :
    (session.process now line).HasDirectory := by
  obtain ⟨-, sandbox, -⟩ := session.process_leaves now line
  have kept := (linkless_process builtin linkless now line).1
  rw [← sandbox] at kept
  have comes := session.comes_process builtin now line
  have secure {operation : Operation} {name : String} {arguments : List String}
      (performs : Commands.Performs session.sandbox session.scene name arguments operation) :
      ∀ path ∈ operation.paths, path.Secure session.sandbox session.scene.tree := by
    intro path mem
    rw [linkless.eq_spelt (performs.checked path mem).good]
    exact linkless.secure _
  generalize left : (session.process now line).scene = after at comes
  cases comes with
  | nothing =>
    rw [HasDirectory, sandbox, left]
    exact has
  | @interrupted name arguments fault after tokens ended remains =>
    -- A write may end in the middle, but what it writes to is no directory.
    obtain ⟨taken, short, isDirectory⟩ := (hasDirectory_iff linkless).mp has
    cases remains with
    | @part operation path bytes count error tree met performs sends written =>
      have spared : ¬ (Operation.write path (bytes.take count)).TakesAway
          (session.sandbox.spelt session.scene.cwd).physical := id
      have within : ∀ other ∈ (Operation.write path (bytes.take count)).paths,
          other.Secure session.sandbox session.scene.tree :=
        fun other mem => secure performs other (Operation.mem_paths_of_part sends mem)
      rw [hasDirectory_iff kept, sandbox, left]
      exact ⟨taken, short, Operation.keeps_directory within written spared isDirectory⟩
  | effect tokens ended effect =>
    cases effect with
    | nothing =>
      rw [HasDirectory, sandbox, left]
      exact has
    | @entered input path resolved isDirectory =>
      have same := (Sandbox.resolveVirtual_ok resolved).1
      rw [HasDirectory, sandbox, left]
      exact ⟨path, same ▸ resolved, isDirectory⟩
    | @performed _ _ operation tree performs succeeded =>
      -- The path is what it was, and the host takes it still; only what stands there may have changed.
      obtain ⟨taken, short, isDirectory⟩ := (hasDirectory_iff linkless).mp has
      have spared := not_takesAway builtin linkless tokens ended performs stays
      rw [hasDirectory_iff kept, sandbox, left]
      exact ⟨taken, short, operation.keeps_directory (secure performs) succeeded spared isDirectory⟩

/-! ## A run -/

/-- Whether no line of a run moves the directory away that is the current one at its turn. -/
def neverMovesAway (session : Session σ) : List (Moment × String) → Bool
  | [] => true
  | (now, line) :: rest => !session.movesAway now line && (session.process now line).neverMovesAway rest

/-- A current directory that is there stays there over the lines of a run. -/
theorem HasDirectory.processAll {suffix : String} {lines taken : List (Moment × String)}
    (builtin : session.registry = ⟨Commands.builtin suffix⟩)
    (linkless : session.sandbox.Linkless session.scene.tree) (has : session.HasDirectory)
    (stays : session.neverMovesAway lines = true) (part : taken <+: lines) :
    (session.processAll taken).HasDirectory := by
  induction lines generalizing session taken with
  | nil =>
    rw [List.prefix_nil.mp part]
    exact has
  | cons entry rest ih =>
    obtain ⟨now, line⟩ := entry
    rcases List.prefix_cons_iff.mp part with rfl | ⟨others, rfl, within⟩
    · exact has
    rw [neverMovesAway, Bool.and_eq_true, Bool.not_eq_true'] at stays
    obtain ⟨first, later⟩ := stays
    obtain ⟨registry, sandbox, -⟩ := session.process_leaves now line
    have kept := (linkless_process builtin linkless now line).1
    rw [← sandbox] at kept
    have next := hasDirectory_process builtin linkless has first
    rw [processAll]
    exact ih (registry.trans builtin) kept next later within

/-- **The current directory stays a directory.** A session starts at `/` over a root that is there and holds
no links, and it processes lines of which none moves the directory away that is the current one then, or one
above it. After each of the lines the current directory is there. -/
theorem hasDirectory_processAll {suffix : String} {lines taken : List (Moment × String)}
    (builtin : session.registry = ⟨Commands.builtin suffix⟩)
    (linkless : session.sandbox.Linkless session.scene.tree) (atRoot : session.scene.cwd = VirtualPath.root)
    (rootIsThere : session.scene.tree.pathIsDirectory session.sandbox.root = true)
    (stays : session.neverMovesAway lines = true) (part : taken <+: lines) :
    (session.processAll taken).HasDirectory := by
  have has : session.HasDirectory := by
    refine ⟨session.sandbox.spelt session.scene.cwd, linkless.resolveVirtual _, ?_⟩
    rw [Resolved.isDirectory, Sandbox.physical_spelt, atRoot, VirtualPath.segments_root, List.append_nil]
    exact rootIsThere
  exact has.processAll builtin linkless stays part

end Session

namespace Errand

/-- Lines by which another directory is moved into the place of the current one, which is empty. -/
def replacing : List (Moment × String) :=
  [(0, "mkdir a"), (0, "mkdir a/b"), (0, "mkdir b"), (0, "touch b/note"), (1, "cd a/b"), (2, "mv /b /a"),
   (3, "rmdir .."), (4, "rm note")]

/-- The current directory is there before the move and after it, and in the end. -/
theorem hasDirectory_processAll_of_replacing :
    session.neverMovesAway replacing = true ∧
      (session.processAll (replacing.take 5)).HasDirectory ∧
      (session.processAll (replacing.take 6)).HasDirectory ∧
      (session.processAll (replacing.take 6)).scene.tree.kindAt? ["root", "a", "b", "note"] =
        some (.file []) ∧
      (session.processAll replacing).HasDirectory ∧
      (session.processAll replacing).scene.cwd.segments = ["a", "b"] := by
  have stays : session.neverMovesAway replacing = true := by decide +kernel
  have rootIsThere : session.scene.tree.pathIsDirectory session.sandbox.root = true := by decide +kernel
  have has {taken : List (Moment × String)} (part : taken <+: replacing) :
      (session.processAll taken).HasDirectory :=
    Session.hasDirectory_processAll rfl linkless rfl rootIsThere stays part
  exact ⟨stays, has (List.take_prefix 5 _), has (List.take_prefix 6 _), by decide +kernel,
    has List.prefix_rfl, by decide +kernel⟩

/-- A line that moves the current directory away leaves none. -/
example : (session.processAll [(0, "mkdir a"), (1, "cd a"), (2, "mv /a /b")]).scene.cwd.segments = ["a"] ∧
    (session.processAll [(0, "mkdir a"), (1, "cd a"), (2, "mv /a /b")]).scene.tree.kindAt? ["root", "a"] =
      none := by
  decide +kernel

end Errand

end ConfinedShell
