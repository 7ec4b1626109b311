import ConfinedShell.Proofs.BareOperations
import ConfinedShell.Proofs.Effects
import ConfinedShell.Proofs.Elsewhere
import ConfinedShell.Proofs.PathLaws

/-!
# Commands in a sandbox on its own

A command gets at the files by what its arguments are resolved to, and says what it has found in terms of virtual
paths. So it ends in the same way below the root of a sandbox and in the bare sandbox over the subtree there
(`Commands.mirrored_of_mem_builtin`). As in `Action.Ensures`, there is one rule for each step that commands are made
of; `Action.Mirrored` compares the two runs of a step. A command that looks up no path acts on nothing, and does
not read the sandbox that it is given.
-/

set_option autoImplicit false

namespace ConfinedShell

/-- The bare sandbox over the subtree at a location, as another place. -/
def Elsewhere.bare (root : Location) : Elsewhere :=
  ⟨Sandbox.bare, Resolved.bare, (·.below root), fun _ => rfl, fun _ => rfl⟩

/-- The surroundings of a command in the bare sandbox. -/
def Surroundings.bare (around : Surroundings) : Surroundings :=
  { around with sandbox := Sandbox.bare, storage := around.storage.below around.sandbox.root }

namespace Action

/-! ## Two runs of an action -/

/-- **An action is mirrored** by another one, which runs in the bare sandbox over a subtree, when both end in the
same way. -/
def Mirrored (sandbox : Sandbox) (sub : FileTree) (scene : Scene) (action mirror : Action Output) : Prop :=
  SameResult (.bare sandbox.root) sandbox.Holds (action scene) (mirror ⟨sub, scene.cwd⟩)

namespace Mirrored

variable {α : Type} {around : Surroundings} {sub : FileTree} {scene : Scene}

/-- A failure is the same. -/
theorem fail (holds : around.sandbox.Holds scene.tree sub) {cause : Failure} :
    Mirrored around.sandbox sub scene (Action.fail cause) (Action.fail cause) :=
  .error _ rfl holds

/-- An output is the same. -/
theorem done (holds : around.sandbox.Holds scene.tree sub) {output : Output} :
    Mirrored around.sandbox sub scene (pure output) (pure (output.elsewhere (.bare around.sandbox.root))) :=
  .ok _ rfl holds

/-- What is asked of the scene is the scene. -/
theorem get {next mirror : Scene → Action Output}
    (goesOn : Mirrored around.sandbox sub scene (next scene) (mirror ⟨sub, scene.cwd⟩)) :
    Mirrored around.sandbox sub scene (MonadState.get >>= next) (MonadState.get >>= mirror) :=
  goesOn

/-- A path is resolved to what it spells. -/
theorem resolve (holds : around.sandbox.Holds scene.tree sub) {input : String}
    {next mirror : Resolved → Action Output}
    (goesOn : Mirrored around.sandbox sub scene (next (around.sandbox.spelt (scene.cwd.join input)))
      (mirror (Sandbox.bare.spelt (scene.cwd.join input)))) :
    Mirrored around.sandbox sub scene (Action.resolve around input >>= next)
      (Action.resolve around.bare input >>= mirror) := by
  have resolved : Action.resolve around input scene = .ok (around.sandbox.spelt (scene.cwd.join input)) scene :=
    Action.resolve_ok (holds.linkless.resolveVirtual _)
  have mirrored : Action.resolve around.bare input ⟨sub, scene.cwd⟩ =
      .ok (Sandbox.bare.spelt (scene.cwd.join input)) ⟨sub, scene.cwd⟩ :=
    Action.resolve_ok (holds.bare.linkless.resolveVirtual _)
  rw [Mirrored, bind_of_ok resolved, bind_of_ok mirrored]
  exact goesOn

/-- A file reads as the same text. -/
theorem query (holds : around.sandbox.Holds scene.tree sub) {path : VirtualPath} (fits : around.sandbox.Fits path)
    {next mirror : String → Action Output}
    (goesOn : ∀ text, Mirrored around.sandbox sub scene (next text) (mirror text)) :
    Mirrored around.sandbox sub scene (Action.query (around.sandbox.spelt path).readText >>= next)
      (Action.query (Sandbox.bare.spelt path).readText >>= mirror) := by
  have answered : Mirrored around.sandbox sub scene
      (Action.ofExcept ((around.sandbox.spelt path).readText scene.tree) >>= next)
      (Action.ofExcept ((Sandbox.bare.spelt path).readText sub) >>= mirror) := by
    rw [holds.readText fits]
    cases (Sandbox.bare.spelt path).readText sub with
    | error cause => exact fail holds
    | ok text => exact goesOn text
  exact answered

/-- There is one argument. -/
theorem oneArgument (holds : around.sandbox.Holds scene.tree sub) {info : CommandInfo} {arguments : List String}
    {next mirror : String → Action Output}
    (goesOn : ∀ input, arguments = [input] → Mirrored around.sandbox sub scene (next input) (mirror input)) :
    Mirrored around.sandbox sub scene (Action.oneArgument info arguments >>= next)
      (Action.oneArgument info arguments >>= mirror) := by
  match arguments with
  | [input] => exact goesOn input rfl
  | [] => exact fail holds
  | _ :: _ :: _ => exact fail holds

/-- There are two arguments. -/
theorem twoArguments (holds : around.sandbox.Holds scene.tree sub) {info : CommandInfo} {arguments : List String}
    {next mirror : String × String → Action Output}
    (goesOn : ∀ first second, arguments = [first, second] →
      Mirrored around.sandbox sub scene (next (first, second)) (mirror (first, second))) :
    Mirrored around.sandbox sub scene (Action.twoArguments info arguments >>= next)
      (Action.twoArguments info arguments >>= mirror) := by
  match arguments with
  | [first, second] => exact goesOn first second rfl
  | [] => exact fail holds
  | [_] => exact fail holds
  | _ :: _ :: _ :: _ => exact fail holds

/-- An operation ends in the same way. -/
theorem change (holds : around.sandbox.Holds scene.tree sub) {operation : Operation}
    (suits : operation.Suits around.sandbox) (trouble : Option Trouble) {output : Output} :
    Mirrored around.sandbox sub scene (Action.change (operation.performIn trouble) >>= fun _ => pure output)
      (Action.change ((operation.map Resolved.bare).performIn trouble) >>= fun _ =>
        pure (output.elsewhere (.bare around.sandbox.root))) := by
  rw [Mirrored]
  rcases (holds.performIn suits trouble).cases with
    ⟨cause, failed, failed'⟩ | ⟨tree, inner, performed, performed', holds'⟩
  · rw [change_of_error failed, change_of_error failed']
    exact .error _ rfl holds
  · rw [change_of_ok performed, change_of_ok performed']
    exact .ok output rfl holds'

/-- An attempt ends in the same way. -/
theorem attempt {attempted mirrored : FileTree → FileTree × Except Failure α}
    (same : SameAttempt around.sandbox.Holds (attempted scene.tree) (mirrored sub)) {output : Output} :
    Mirrored around.sandbox sub scene (Action.attempt attempted >>= fun _ => pure output)
      (Action.attempt mirrored >>= fun _ => pure (output.elsewhere (.bare around.sandbox.root))) := by
  obtain ⟨left, outcome⟩ := same
  rw [Mirrored]
  cases ended : (attempted scene.tree).2 with
  | error cause =>
    rw [attempt_of_error (Prod.ext rfl ended), attempt_of_error (Prod.ext rfl (outcome.trans ended))]
    exact .error _ rfl left
  | ok a =>
    rw [attempt_of_ok (Prod.ext rfl ended), attempt_of_ok (Prod.ext rfl (outcome.trans ended))]
    exact .ok output rfl left

end Mirrored

end Action

open ConfinedShell.Action (Mirrored)

namespace Commands

variable {around : Surroundings} {sub : FileTree} {scene : Scene} {arguments : List String}

/-! ## Commands on files and directories -/

/-- The root is a directory. -/
theorem ne_root_of_noDirectory (holds : around.sandbox.Holds scene.tree sub) {place : VirtualPath}
    (noDirectory : (Sandbox.bare.spelt place).isDirectory sub ≠ true) : place.segments ≠ [] := by
  intro isRoot
  obtain ⟨entries, rfl⟩ := holds.isDirectory
  have top := (holds.bare.linkless.straight place).pathIsDirectory_iff
  rw [Sandbox.physical_bare, isRoot] at top
  refine noDirectory ?_
  show FileTree.pathIsDirectory _ place.segments = true
  rw [isRoot]
  exact top.mpr ⟨(fun _ mem => nomatch mem), by decide, rfl⟩

/-- **A copy or a move goes to the same place**, which is the root only if the source is. -/
theorem mirrored_destination (holds : around.sandbox.Holds scene.tree sub) {source : VirtualPath} {input : String}
    (fits : ∀ path ∈ destinations around.sandbox scene (around.sandbox.spelt source) input,
      around.sandbox.Fits path)
    {next mirror : Resolved → Action Output}
    (goesOn : ∀ place, around.sandbox.Fits place → (source.segments ≠ [] → place.segments ≠ []) →
      Mirrored around.sandbox sub scene (next (around.sandbox.spelt place)) (mirror (Sandbox.bare.spelt place))) :
    Mirrored around.sandbox sub scene (destination around (around.sandbox.spelt source) input >>= next)
      (destination around.bare (Sandbox.bare.spelt source) input >>= mirror) := by
  have fit := fits _ List.mem_cons_self
  rw [destination, destination, bind_assoc, bind_assoc]
  refine .resolve holds ?_
  simp only [Sandbox.virtualPath_spelt]
  cases named : source.fileName? with
  | none =>
    have isRoot : source.segments = [] := List.getLast?_eq_none_iff.mp named
    exact goesOn _ fit fun notRoot => absurd isRoot notRoot
  | some name =>
    dsimp only
    rw [bind_assoc, bind_assoc]
    refine .get ?_
    dsimp only
    rw [holds.pathIsDirectory fit]
    split
    · next inside =>
      -- What the source is called is looked up in the directory, and that is no root.
      have segment := source.isSegment name (List.mem_of_getLast? named)
      have below := (scene.cwd.join input).segments_child segment
      have listed : (scene.cwd.join input).child name ∈
          destinations around.sandbox scene (around.sandbox.spelt source) input := by
        rw [destinations, Sandbox.resolve, holds.linkless.resolveVirtual, Sandbox.virtualPath_spelt, named]
        dsimp only
        rw [holds.pathIsDirectory fit, if_pos inside]
        exact List.mem_cons_of_mem _ (List.mem_singleton_self _)
      have mirrored : around.bare.sandbox.resolveVirtual sub ((scene.cwd.join input).child name) =
          .ok (Sandbox.bare.spelt ((scene.cwd.join input).child name)) := holds.bare.linkless.resolveVirtual _
      rw [holds.linkless.resolveVirtual, mirrored]
      refine goesOn _ (fits _ listed) fun _ => ?_
      rw [below]
      exact List.concat_ne_nil _ _
    · next outside => exact goesOn _ fit fun _ => ne_root_of_noDirectory holds outside

theorem mirrored_cd (holds : around.sandbox.Holds scene.tree sub)
    (fits : ∀ path ∈ lookups around.sandbox scene "cd" arguments, around.sandbox.Fits path) :
    Mirrored around.sandbox sub scene (cd.run around arguments) (cd.run around.bare arguments) := by
  refine .oneArgument holds fun input given => .resolve holds (.get ?_)
  subst given
  dsimp only
  rw [holds.pathIsDirectory (fits _ (List.mem_singleton_self _))]
  split
  · exact .ok _ rfl holds
  · exact .fail holds

/-- The entries of a directory are the same, or the failure to list them is. -/
theorem mirrored_listing (holds : around.sandbox.Holds scene.tree sub) {path : VirtualPath}
    (fits : around.sandbox.Fits path) :
    Mirrored around.sandbox sub scene
      (do
        let scene ← get
        match (around.sandbox.spelt path).readDirectory around.storage scene.tree with
        | .error cause => Action.fail (.command ("listing error: " ++ cause.message))
        | .ok [] => return .silent
        | .ok entries => return .text (Text.joinWith "   " (listedNames entries)))
      (do
        let scene ← get
        match (Sandbox.bare.spelt path).readDirectory around.bare.storage scene.tree with
        | .error cause => Action.fail (.command ("listing error: " ++ cause.message))
        | .ok [] => return .silent
        | .ok entries => return .text (Text.joinWith "   " (listedNames entries))) := by
  refine .get ?_
  have listed := holds.readDirectory fits around.storage
  dsimp only [Surroundings.bare]
  rw [listed]
  split
  · exact .fail holds
  · exact .done holds
  · exact .done holds

theorem mirrored_ls (holds : around.sandbox.Holds scene.tree sub)
    (fits : ∀ path ∈ lookups around.sandbox scene "ls" arguments, around.sandbox.Fits path) :
    Mirrored around.sandbox sub scene (ls.run around arguments) (ls.run around.bare arguments) := by
  match arguments with
  | [] => exact .resolve holds (mirrored_listing holds (fits _ (List.mem_singleton_self _)))
  | [path] => exact .resolve holds (mirrored_listing holds (fits _ (List.mem_singleton_self _)))
  | _ :: _ :: _ => exact .fail holds

/-- An operation on one path that is looked up ends in the same way. -/
theorem mirrored_change (holds : around.sandbox.Holds scene.tree sub) {path : VirtualPath}
    (fits : around.sandbox.Fits path) (operation : Operation) {output : Output}
    (acts : operation.paths = [around.sandbox.spelt path]) (noMove : operation.isMove = false) :
    Mirrored around.sandbox sub scene
      (Action.change (operation.performIn around.storage.trouble) >>= fun _ => pure output)
      (Action.change ((operation.map Resolved.bare).performIn around.storage.trouble) >>= fun _ =>
        pure (output.elsewhere (.bare around.sandbox.root))) := by
  refine .change holds (operation.suits_of_paths [path] acts ?_ fun moving => ?_) _
  · exact List.forall_mem_singleton.mpr fits
  · rw [noMove] at moving
    cases moving

theorem mirrored_mkdir (holds : around.sandbox.Holds scene.tree sub)
    (fits : ∀ path ∈ lookups around.sandbox scene "mkdir" arguments, around.sandbox.Fits path) :
    Mirrored around.sandbox sub scene (mkdir.run around arguments) (mkdir.run around.bare arguments) := by
  refine .oneArgument holds fun input given => .resolve holds ?_
  subst given
  exact mirrored_change holds (fits _ (List.mem_singleton_self _)) (.createDirectory _) rfl rfl

/-- What is removed is compared with the current directory by its virtual path. -/
theorem mirrored_rmdir (holds : around.sandbox.Holds scene.tree sub)
    (fits : ∀ path ∈ lookups around.sandbox scene "rmdir" arguments, around.sandbox.Fits path) :
    Mirrored around.sandbox sub scene (rmdir.run around arguments) (rmdir.run around.bare arguments) := by
  refine .oneArgument holds fun input given => .resolve holds (.get ?_)
  subst given
  show Mirrored _ _ _ (if (scene.cwd.join input).segments.isPrefixOf scene.cwd.segments then _ else _)
    (if (scene.cwd.join input).segments.isPrefixOf scene.cwd.segments then _ else _)
  split
  · exact .fail holds
  · exact mirrored_change holds (fits _ (List.mem_singleton_self _)) (.removeDirectory _) rfl rfl

theorem mirrored_touch (holds : around.sandbox.Holds scene.tree sub)
    (fits : ∀ path ∈ lookups around.sandbox scene "touch" arguments, around.sandbox.Fits path) :
    Mirrored around.sandbox sub scene (touch.run around arguments) (touch.run around.bare arguments) := by
  refine .oneArgument holds fun input given => .resolve holds ?_
  subst given
  exact mirrored_change holds (fits _ (List.mem_singleton_self _)) (.createFile _) rfl rfl

theorem mirrored_rm (holds : around.sandbox.Holds scene.tree sub)
    (fits : ∀ path ∈ lookups around.sandbox scene "rm" arguments, around.sandbox.Fits path) :
    Mirrored around.sandbox sub scene (rm.run around arguments) (rm.run around.bare arguments) := by
  refine .oneArgument holds fun input given => .resolve holds (.get ?_)
  subst given
  have fit := fits _ (List.mem_singleton_self _)
  dsimp only
  rw [holds.pathIsDirectory fit]
  split
  · exact .fail holds
  · exact mirrored_change holds fit (.removeFile _) rfl rfl

theorem mirrored_cp (holds : around.sandbox.Holds scene.tree sub)
    (fits : ∀ path ∈ lookups around.sandbox scene "cp" arguments, around.sandbox.Fits path) :
    Mirrored around.sandbox sub scene (cp.run around arguments) (cp.run around.bare arguments) := by
  refine .twoArguments holds fun first second given => .resolve holds (.get ?_)
  subst given
  have fit := fits _ mem_following
  dsimp only
  rw [holds.pathIsDirectory fit]
  split
  · exact .fail holds
  next noDirectory =>
  refine .get ?_
  dsimp only
  rw [holds.isRegular fit]
  split
  · exact .fail holds
  next regular =>
  refine mirrored_destination holds (fun path mem => fits path ?_) fun place placeFits _ => ?_
  · have good := holds.linkless.resolveVirtual (scene.cwd.join first)
    refine mem_following_of_mem good ?_
    rw [holds.pathIsDirectory fit, holds.isRegular fit, if_pos (by simp_all)]
    exact mem
  · have paths : ∀ path ∈ [scene.cwd.join first, place], around.sandbox.Fits path :=
      List.forall_mem_cons.mpr ⟨fit, List.forall_mem_singleton.mpr placeFits⟩
    rw [Operation.copy_eq_attempt, Operation.copy_eq_attempt]
    exact .attempt (holds.attempt (Operation.suits_of_paths (.copy _ _) _ rfl paths nofun) _)

theorem mirrored_mv (holds : around.sandbox.Holds scene.tree sub)
    (fits : ∀ path ∈ lookups around.sandbox scene "mv" arguments, around.sandbox.Fits path) :
    Mirrored around.sandbox sub scene (mv.run around arguments) (mv.run around.bare arguments) := by
  refine .twoArguments holds fun first second given => .resolve holds (.get ?_)
  subst given
  have fit := fits _ mem_following
  dsimp only
  rw [holds.exists? fit]
  split
  · exact .fail holds
  next there =>
  refine mirrored_destination holds (fun path mem => fits path ?_) fun place placeFits notRoot => ?_
  · have good := holds.linkless.resolveVirtual (scene.cwd.join first)
    refine mem_following_of_mem good ?_
    rw [holds.exists? fit, if_pos (by simpa using there)]
    exact mem
  · have same (sandbox : Sandbox) : sandbox.spelt place = sandbox.spelt (scene.cwd.join first) ↔
        place = scene.cwd.join first :=
      ⟨fun same => congrArg Resolved.virtualPath same, fun same => congrArg sandbox.spelt same⟩
    by_cases onto : place = scene.cwd.join first
    · rw [if_pos ((same _).mpr onto), if_pos ((same _).mpr onto)]
      exact .done holds
    · rw [if_neg (mt (same _).mp onto), if_neg (mt (same _).mp onto)]
      have paths : ∀ path ∈ [scene.cwd.join first, place], around.sandbox.Fits path :=
        List.forall_mem_cons.mpr ⟨fit, List.forall_mem_singleton.mpr placeFits⟩
      refine .change holds (Operation.suits_of_paths (.move _ _) _ rfl paths fun _ path isLast => ?_) none
      obtain rfl : place = path := Option.some.inj isLast
      -- Only the root is moved to the root, and it is not moved onto itself.
      intro isRoot
      by_cases fromRoot : (scene.cwd.join first).segments = []
      · exact onto (VirtualPath.ext (isRoot.trans fromRoot.symm))
      · exact notRoot fromRoot isRoot

/-! ## Commands on text -/

/-- A file that is looked up reads as the same text. -/
theorem mirrored_readFile (holds : around.sandbox.Holds scene.tree sub) {input : String}
    (fits : around.sandbox.Fits (scene.cwd.join input)) {next mirror : String → Action Output}
    (goesOn : ∀ text, Mirrored around.sandbox sub scene (next text) (mirror text)) :
    Mirrored around.sandbox sub scene (readFile around input >>= next)
      (readFile around.bare input >>= mirror) := by
  rw [readFile, readFile, bind_assoc, bind_assoc]
  exact .resolve holds (.query holds fits goesOn)

theorem mirrored_cat (holds : around.sandbox.Holds scene.tree sub)
    (fits : ∀ path ∈ lookups around.sandbox scene "cat" arguments, around.sandbox.Fits path) :
    Mirrored around.sandbox sub scene (cat.run around arguments) (cat.run around.bare arguments) := by
  refine .oneArgument holds fun input given => ?_
  subst given
  exact mirrored_readFile holds (fits _ (List.mem_singleton_self _)) fun text => .done holds

theorem mirrored_echo (holds : around.sandbox.Holds scene.tree sub)
    (fits : ∀ path ∈ lookups around.sandbox scene "echo" arguments, around.sandbox.Fits path) :
    Mirrored around.sandbox sub scene (echo.run around arguments) (echo.run around.bare arguments) := by
  unfold echo
  dsimp only
  split
  · exact .fail holds
  split
  · exact .done holds
  next redirected =>
  split
  · exact .fail holds
  next named =>
  have fit : around.sandbox.Fits
      (scene.cwd.join (Text.joinWith " " ((arguments.dropWhile (· ≠ ">")).drop 1))) := by
    refine fits _ ?_
    show _ ∈ if _ then _ else _
    rw [if_pos (by simp_all)]
    exact List.mem_singleton_self _
  refine .resolve holds (.attempt ?_)
  exact holds.attempt (Operation.suits_of_paths (.write _ _) [_] rfl (List.forall_mem_singleton.mpr fit) nofun) _

/-- Some lines, as an output, are the same elsewhere. -/
theorem mirrored_lines (holds : around.sandbox.Holds scene.tree sub) (lines : List String) :
    Mirrored around.sandbox sub scene (pure (linesOutput lines)) (pure (linesOutput lines)) := by
  cases lines with
  | nil => exact .done holds
  | cons line lines => exact .done holds

theorem mirrored_grep (holds : around.sandbox.Holds scene.tree sub)
    (fits : ∀ path ∈ lookups around.sandbox scene "grep" arguments, around.sandbox.Fits path) :
    Mirrored around.sandbox sub scene (grep.run around arguments) (grep.run around.bare arguments) := by
  refine .twoArguments holds fun pattern file given => ?_
  subst given
  exact mirrored_readFile holds (fits _ (List.mem_singleton_self _)) fun text => mirrored_lines holds _

/-- A number of lines and a file are taken from the arguments. -/
theorem mirrored_countAndFile (holds : around.sandbox.Holds scene.tree sub) {info : CommandInfo}
    {next mirror : Nat × String → Action Output}
    (goesOn : ∀ count file n, arguments = ["-n", count, file] → Text.count? count = some n →
      Mirrored around.sandbox sub scene (next (n, file)) (mirror (n, file))) :
    Mirrored around.sandbox sub scene (countAndFile info arguments >>= next)
      (countAndFile info arguments >>= mirror) := by
  unfold countAndFile
  split
  · next count file =>
    cases counted : Text.count? count with
    | none => exact .fail holds
    | some n => exact goesOn count file n rfl counted
  · exact .fail holds

theorem mirrored_head (holds : around.sandbox.Holds scene.tree sub)
    (fits : ∀ path ∈ lookups around.sandbox scene "head" arguments, around.sandbox.Fits path) :
    Mirrored around.sandbox sub scene (head.run around arguments) (head.run around.bare arguments) := by
  refine mirrored_countAndFile holds fun count file n given counted => ?_
  subst given
  have fit := fits _ (mem_lookups_of_count (.inl rfl) counted)
  exact mirrored_readFile holds fit fun text => mirrored_lines holds _

theorem mirrored_tail (holds : around.sandbox.Holds scene.tree sub)
    (fits : ∀ path ∈ lookups around.sandbox scene "tail" arguments, around.sandbox.Fits path) :
    Mirrored around.sandbox sub scene (tail.run around arguments) (tail.run around.bare arguments) := by
  refine mirrored_countAndFile holds fun count file n given counted => ?_
  subst given
  have fit := fits _ (mem_lookups_of_count (.inr rfl) counted)
  exact mirrored_readFile holds fit fun text => mirrored_lines holds _

theorem mirrored_diff (holds : around.sandbox.Holds scene.tree sub)
    (fits : ∀ path ∈ lookups around.sandbox scene "diff" arguments, around.sandbox.Fits path) :
    Mirrored around.sandbox sub scene (diff.run around arguments) (diff.run around.bare arguments) := by
  refine .twoArguments holds fun first second given => .resolve holds (.resolve holds (.get ?_))
  subst given
  have good := holds.linkless.resolveVirtual (scene.cwd.join first)
  have leftFits := fits _ mem_following
  have rightFits := fits _ (mem_following_of_mem good (List.mem_singleton_self _))
  dsimp only
  rw [holds.isRegular leftFits, holds.isRegular rightFits]
  split
  · exact .fail holds
  refine .query holds leftFits fun leftText => .query holds rightFits fun rightText => ?_
  split
  · exact .done holds
  · exact .done holds

/-! ## Commands on the shell, the system and the network -/

theorem mirrored_nano (holds : around.sandbox.Holds scene.tree sub)
    (fits : ∀ path ∈ lookups around.sandbox scene "nano" arguments, around.sandbox.Fits path) :
    Mirrored around.sandbox sub scene (nano.run around arguments) (nano.run around.bare arguments) := by
  refine .oneArgument holds fun input given => .resolve holds (.get ?_)
  subst given
  dsimp only
  rw [holds.pathIsDirectory (fits _ (List.mem_singleton_self _))]
  split
  · exact .fail holds
  · exact .ok _ rfl holds

/-- A careful command that looks up no path ends in the same way anywhere. -/
theorem mirrored_of_lookups_nil (holds : around.sandbox.Holds scene.tree sub) {moves : Prop}
    {action : Action Output} (careful : Careful around.sandbox around.storage [] moves scene action) :
    Mirrored around.sandbox sub scene action action := by
  rw [Mirrored]
  rcases careful.ends_of_lookups_nil with ⟨output, noEditor, runs⟩ | ⟨fault, runs⟩
  · have kept : output.elsewhere (.bare around.sandbox.root) = output := by
      cases output with
      | edit path => exact absurd rfl (noEditor path)
      | _ => rfl
    have ends : SameResult (.bare around.sandbox.root) around.sandbox.Holds (.ok output scene)
        (.ok (output.elsewhere (.bare around.sandbox.root)) ⟨sub, scene.cwd⟩) := .ok output rfl holds
    rw [runs scene rfl, runs ⟨sub, scene.cwd⟩ rfl]
    rwa [kept] at ends
  · rw [runs scene rfl, runs ⟨sub, scene.cwd⟩ rfl]
    exact .error fault rfl holds

/-- **Every command of the shell ends in the same way in the bare sandbox.** -/
theorem mirrored_of_mem_builtin (holds : around.sandbox.Holds scene.tree sub) {suffix : String} {command : Command}
    (mem : command ∈ builtin suffix)
    (fits : ∀ path ∈ lookups around.sandbox scene command.info.name arguments, around.sandbox.Fits path) :
    Mirrored around.sandbox sub scene (command.run around arguments) (command.run around.bare arguments) := by
  -- A command of which no path is looked up does not read the sandbox.
  have idle (none : lookups around.sandbox scene command.info.name arguments = [])
      (blind : command.run around.bare arguments = command.run around arguments) :
      Mirrored around.sandbox sub scene (command.run around arguments) (command.run around.bare arguments) := by
    have careful := careful_of_mem_builtin around scene arguments mem
    rw [none] at careful
    rw [blind]
    exact mirrored_of_lookups_nil holds careful
  have known := mem
  simp only [builtin, files, texts, network, system, List.mem_append, List.mem_cons,
    List.not_mem_nil, or_false, or_assoc] at known
  rcases known with rfl | rfl | rfl | rfl | rfl | rfl | rfl | rfl | rfl | rfl |
      rfl | rfl | rfl | rfl | rfl | rfl | rfl | rfl | rfl | rfl |
      rfl | rfl | rfl | rfl | rfl | rfl | rfl | rfl | rfl
  · exact mirrored_cd holds fits
  · exact mirrored_ls holds fits
  · exact idle rfl rfl
  · exact mirrored_mkdir holds fits
  · exact mirrored_rmdir holds fits
  · exact mirrored_touch holds fits
  · exact mirrored_rm holds fits
  · exact mirrored_cp holds fits
  · exact mirrored_mv holds fits
  · exact mirrored_cat holds fits
  · exact mirrored_echo holds fits
  · exact mirrored_grep holds fits
  · exact mirrored_head holds fits
  · exact mirrored_tail holds fits
  · exact mirrored_diff holds fits
  · exact idle rfl rfl
  · exact idle rfl rfl
  · exact idle rfl rfl
  · exact idle rfl rfl
  · exact idle rfl rfl
  · exact idle rfl rfl
  · exact idle rfl rfl
  · exact idle rfl rfl
  · exact idle rfl rfl
  · exact idle rfl rfl
  · exact idle rfl rfl
  · exact idle rfl rfl
  · exact idle rfl rfl
  · exact mirrored_nano holds fits

end Commands

end ConfinedShell
