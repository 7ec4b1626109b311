import ConfinedShell.Proofs.Reports

/-!
# Removing, copying and moving as computations on the files

`rm`, `cp` and `mv` look up their operands, ask the files what is there, and then change the files once or not at all.
What they come to can be computed from the scene without running them (`Sandbox.removal`, `Sandbox.copying`,
`Sandbox.moving`): an output with the files that are left, or the failure that is reported. Running a command on its
operands comes to what was computed (`Commands.rm_run`, `Commands.cp_run`, `Commands.mv_run`), and so the line ends with
the output or fails with the failure (`Session.Concludes.ends`, `Session.Concludes.fails`). Only a copy may be
interrupted by the storage, and then it fails where an output was computed.
-/

set_option autoImplicit false

namespace ConfinedShell

namespace Sandbox

variable (sandbox : Sandbox) (scene : Scene)

/-- What removing a file comes to. -/
def removal (input : String) : Except Failure (Output × FileTree) := do
  let path ← sandbox.resolve scene.tree scene.cwd input
  if path.isDirectory scene.tree then .error (.command (path.text ++ ": is a directory"))
  else (path.removeFile scene.tree).map (Prod.mk (.text "file removed"))

/-- What copying a file comes to. -/
def copying (first second : String) : Except Failure (Output × FileTree) := do
  let source ← sandbox.resolve scene.tree scene.cwd first
  if source.isDirectory scene.tree then .error (.command (source.text ++ ": is a directory"))
  else if !source.isRegular scene.tree then .error (.notFound source.text)
  else
    let place ← sandbox.destination scene source second
    ((source.copyTo place scene.tree).map (·.2)).map (Prod.mk (.text "copy complete"))

/-- What moving something comes to. -/
def moving (first second : String) : Except Failure (Output × FileTree) := do
  let source ← sandbox.resolve scene.tree scene.cwd first
  if !source.exists? scene.tree then .error (.notFound source.text)
  else
    let place ← sandbox.destination scene source second
    if place = source then .ok (.silent, scene.tree)
    else (source.moveTo place scene.tree).map (Prod.mk (.text "move complete"))

variable {sandbox scene} {input first second : String} {output : Output} {after : FileTree}

/-! ### What has succeeded -/

/-- The destination is the place that the input is resolved to, unless that is a directory, in which the name of the
source is looked up. -/
theorem destination_ok {source place : Resolved} (goes : sandbox.destination scene source input = .ok place) :
    ∃ direct, sandbox.resolve scene.tree scene.cwd input = .ok direct ∧
      ((direct.isDirectory scene.tree = false ∨ source.virtualPath.fileName? = none) ∧ place = direct ∨
        ∃ name, direct.isDirectory scene.tree = true ∧ source.virtualPath.fileName? = some name ∧
          sandbox.resolveVirtual scene.tree (direct.virtualPath.child name) = .ok place) := by
  obtain ⟨direct, resolved, goes⟩ := bind_eq_ok.mp goes
  refine ⟨direct, resolved, ?_⟩
  split at goes
  · next name named =>
    split at goes
    · next inside => exact .inr ⟨name, inside, named, goes⟩
    · next outside =>
      cases goes
      exact .inl ⟨.inl (by simpa using outside), rfl⟩
  · next named =>
    cases goes
    exact .inl ⟨.inr named, rfl⟩

/-- The destination is a path that was resolved. -/
theorem exists_of_destination {source place : Resolved} (goes : sandbox.destination scene source input = .ok place) :
    ∃ path, sandbox.resolveVirtual scene.tree path = .ok place := by
  obtain ⟨direct, resolved, ⟨-, rfl⟩ | ⟨name, -, -, resolved⟩⟩ := destination_ok goes
  · exact ⟨_, resolved⟩
  · exact ⟨_, resolved⟩

/-- What is removed is no directory. -/
theorem removal_ok (removed : sandbox.removal scene input = .ok (output, after)) :
    ∃ path, sandbox.resolve scene.tree scene.cwd input = .ok path ∧ path.isDirectory scene.tree = false ∧
      path.removeFile scene.tree = .ok after ∧ output = .text "file removed" := by
  obtain ⟨path, resolved, removed⟩ := bind_eq_ok.mp removed
  split at removed
  · cases removed
  next noDirectory =>
  obtain ⟨tree, performed, same⟩ := map_eq_ok.mp removed
  cases same
  exact ⟨path, resolved, by simpa using noDirectory, performed, rfl⟩

/-- What is copied is a file. -/
theorem copying_ok (copied : sandbox.copying scene first second = .ok (output, after)) :
    ∃ source place count, sandbox.resolve scene.tree scene.cwd first = .ok source ∧
      (source.isDirectory scene.tree = false ∧ source.isRegular scene.tree = true) ∧
      sandbox.destination scene source second = .ok place ∧ source.copyTo place scene.tree = .ok (count, after) ∧
      output = .text "copy complete" := by
  obtain ⟨source, resolved, copied⟩ := bind_eq_ok.mp copied
  split at copied
  · cases copied
  next noDirectory =>
  split at copied
  · cases copied
  next regular =>
  obtain ⟨place, goes, copied⟩ := bind_eq_ok.mp copied
  obtain ⟨tree, performed, same⟩ := map_eq_ok.mp copied
  obtain ⟨⟨count, _⟩, written, rfl⟩ := map_eq_ok.mp performed
  cases same
  exact ⟨source, place, count, resolved, ⟨by simpa using noDirectory, by simpa using regular⟩, goes, written, rfl⟩

/-- What is moved is there, and stays when it would be moved to itself. -/
theorem moving_ok (moved : sandbox.moving scene first second = .ok (output, after)) :
    ∃ source place, sandbox.resolve scene.tree scene.cwd first = .ok source ∧
      source.exists? scene.tree = true ∧ sandbox.destination scene source second = .ok place ∧
      (place = source ∧ output = .silent ∧ after = scene.tree ∨
        place ≠ source ∧ source.moveTo place scene.tree = .ok after ∧ output = .text "move complete") := by
  obtain ⟨source, resolved, moved⟩ := bind_eq_ok.mp moved
  split at moved
  · cases moved
  next there =>
  obtain ⟨place, goes, moved⟩ := bind_eq_ok.mp moved
  refine ⟨source, place, resolved, by simpa using there, goes, ?_⟩
  split at moved
  · next same =>
    cases moved
    exact .inl ⟨same, rfl, rfl⟩
  · next differ =>
    obtain ⟨tree, performed, same⟩ := map_eq_ok.mp moved
    cases same
    exact .inr ⟨differ, performed, rfl⟩

end Sandbox

/-- How a command ends that comes to an output with other files, or to a failure. -/
def Scene.conclude (scene : Scene) : Except Failure (Output × FileTree) → EStateM.Result Fault Scene Output
  | .ok (output, tree) => .ok output { scene with tree }
  | .error cause => .error (.failure cause) scene

/-- **A command comes to an outcome**: it ends as computed, or else it was one that `may` be interrupted, and has ended
in a fault where an output was computed. -/
def Scene.ComesTo (scene : Scene) (may : Prop) (ended : EStateM.Result Fault Scene Output)
    (outcome : Except Failure (Output × FileTree)) : Prop :=
  ended = scene.conclude outcome ∨
    may ∧ (∃ fault after, ended = .error fault after) ∧ ∃ result, outcome = .ok result

/-! ## Commands that are run -/

namespace Action

variable {scene : Scene} {may : Prop}

/-- A value that there is goes on, and the failure in its place is how the command ends. -/
theorem comesTo_ofExcept {α : Type} {outcome : Except Failure α} {next : α → Action Output}
    {plan : α → Except Failure (Output × FileTree)} (goesOn : ∀ a, scene.ComesTo may (next a scene) (plan a)) :
    scene.ComesTo may ((ofExcept outcome >>= next) scene) (outcome >>= plan) := by
  cases outcome with
  | ok a => exact goesOn a
  | error cause => exact .inl rfl

/-- What is asked of the scene is the scene. -/
theorem comesTo_get {next : Scene → Action Output} {outcome : Except Failure (Output × FileTree)}
    (goesOn : scene.ComesTo may (next scene scene) outcome) :
    scene.ComesTo may ((MonadState.get >>= next) scene) outcome :=
  goesOn

/-- Both branches come to what was computed. -/
theorem comesTo_ite {condition : Prop} [Decidable condition] {one other : Action Output}
    {first second : Except Failure (Output × FileTree)} (holds : scene.ComesTo may (one scene) first)
    (fails : scene.ComesTo may (other scene) second) :
    scene.ComesTo may ((if condition then one else other) scene) (if condition then first else second) := by
  split
  · exact holds
  · exact fails

/-- The files are changed last, -/
theorem comesTo_change {operation : FileTree → Except Failure FileTree} {output : Output} :
    scene.ComesTo may ((change operation >>= fun _ => pure output) scene)
      ((operation scene.tree).map (Prod.mk output)) := by
  cases performed : operation scene.tree with
  | ok tree => exact .inl (change_of_ok performed output)
  | error cause => exact .inl (change_of_error performed output)

/-- or a change is attempted, which may be interrupted. -/
theorem comesTo_attempt (trouble : Option Trouble) (operation : Operation) {output : Output} :
    scene.ComesTo (trouble ≠ none) ((attempt (operation.attempt trouble) >>= fun _ => pure output) scene)
      ((operation.perform scene.tree).map (Prod.mk output)) := by
  cases performed : operation.perform scene.tree with
  | error cause => exact .inl (attempt_of_error (Operation.attempt_of_error performed trouble) output)
  | ok after =>
    cases left : operation.attempt trouble scene.tree with
    | mk tree outcome =>
      cases outcome with
      | ok done =>
        cases performed.symm.trans (Operation.perform_of_attempt left)
        exact .inl (attempt_of_ok left output)
      | error cause =>
        refine .inr ⟨?_, ⟨_, _, attempt_of_error left output⟩, _, rfl⟩
        rintro rfl
        cases left.symm.trans (Operation.attempt_of_ok performed)

end Action

namespace Commands

open ConfinedShell.Action

variable (around : Surroundings) (scene : Scene) (first second : String)

/-- The place that a copy or a move goes to is looked up. -/
theorem comesTo_destination {may : Prop} {source : Resolved} {next : Resolved → Action Output}
    {plan : Resolved → Except Failure (Output × FileTree)}
    (goesOn : ∀ place, scene.ComesTo may (next place scene) (plan place)) :
    scene.ComesTo may ((destination around source second >>= next) scene)
      (around.sandbox.destination scene source second >>= plan) := by
  rw [destination, bind_assoc, Sandbox.destination, bind_assoc]
  refine comesTo_ofExcept fun place => ?_
  cases source.virtualPath.fileName? with
  | none => exact goesOn place
  | some name =>
    dsimp only
    rw [bind_assoc]
    refine comesTo_get ?_
    split
    · exact comesTo_ofExcept goesOn
    · exact goesOn place

/-- **Removing** comes to what was computed, -/
theorem rm_run : scene.ComesTo False (rm.run around [first] scene) (around.sandbox.removal scene first) :=
  comesTo_ofExcept fun _ => comesTo_get (comesTo_ite (.inl rfl) comesTo_change)

/-- so does **copying**, unless there is trouble, -/
theorem cp_run : scene.ComesTo (around.storage.trouble ≠ none) (cp.run around [first, second] scene)
    (around.sandbox.copying scene first second) := by
  refine comesTo_ofExcept fun source => comesTo_get <| comesTo_ite (.inl rfl) <| comesTo_get <|
    comesTo_ite (.inl rfl) <| comesTo_destination around scene second fun place => ?_
  rw [Operation.copy_eq_attempt]
  exact comesTo_attempt around.storage.trouble (.copy source place)

/-- and so does **moving**. -/
theorem mv_run : scene.ComesTo False (mv.run around [first, second] scene)
    (around.sandbox.moving scene first second) :=
  comesTo_ofExcept fun _ => comesTo_get <| comesTo_ite (.inl rfl) <|
    comesTo_destination around scene second fun _ => comesTo_ite (.inl rfl) comesTo_change

end Commands

/-! ## Lines that are concluded -/

namespace Session

variable {σ : Type} {session : Session σ} {now : Moment} {line name suffix first second text : String}
  {arguments : List String} {outcome : Except Failure (Output × FileTree)}

/-- **A line is concluded** with an outcome when its command is one of the shell that comes to the outcome. -/
structure Concludes (session : Session σ) (may : Prop) (now : Moment) (line name : String) (arguments : List String)
    (outcome : Except Failure (Output × FileTree)) : Prop where
  tokens : tokenize (Text.trim line) = some (name, arguments)
  runs : ∃ suffix command, command ∈ Commands.builtin suffix ∧ session.registry.find? name = some command ∧
    session.scene.ComesTo may
      (command.run ((session.noted (Text.trim line)).surroundings now) arguments session.scene) outcome

namespace Concludes

variable {may : Prop} {output : Output} {tree : FileTree} {cause : Failure}

/-- It ends with an output, unless it may be interrupted, -/
theorem ends (concludes : session.Concludes False now line name arguments (.ok (output, tree))) :
    session.Ends now line name arguments output { session.scene with tree } := by
  obtain ⟨suffix, command, -, found, ran | ⟨⟨⟩, -⟩⟩ := concludes.runs
  exact ⟨concludes.tokens, (dispatch_noted_of_found found _ now arguments).trans ran⟩

/-- or fails with a failure -/
theorem fails (concludes : session.Concludes may now line name arguments (.error cause)) :
    session.Fails now line name cause := by
  obtain ⟨suffix, command, own, found, ran | ⟨-, -, _, ⟨⟩⟩⟩ := concludes.runs
  exact .fault concludes.tokens found own ran

/-- and leaves the scene as it is. -/
theorem scene_process (concludes : session.Concludes may now line name arguments (.error cause)) :
    (session.process now line).scene = session.scene := by
  obtain ⟨suffix, command, -, found, ran | ⟨-, -, _, ⟨⟩⟩⟩ := concludes.runs
  exact scene_process_of_error concludes.tokens ((dispatch_noted_of_found found _ now arguments).trans ran)

/-- Only an outcome with files lets it end. -/
theorem of_ends (concludes : session.Concludes may now line name arguments outcome) {after : Scene}
    (ends : session.Ends now line name arguments output after) :
    ∃ tree, outcome = .ok (output, tree) ∧ after = { session.scene with tree } := by
  obtain ⟨suffix, command, -, found, comes⟩ := concludes.runs
  rw [ends.run found] at comes
  rcases comes with ended | ⟨-, ⟨fault, other, ⟨⟩⟩, -⟩
  cases outcome with
  | ok result =>
    cases ended
    exact ⟨result.2, rfl, rfl⟩
  | error cause => cases ended

/-- **A report that is no complaint** tells that there is an output which shows it. -/
theorem of_added (concludes : session.Concludes may now line name arguments outcome)
    (reported : session.added now line = [text]) (fine : ¬ Complaint text) :
    ∃ output tree, outcome = .ok (output, tree) ∧ output.shown = [text] := by
  obtain ⟨output, after, ends, shown⟩ := ended_of_added concludes.tokens reported fine
  obtain ⟨tree, rfl, -⟩ := concludes.of_ends ends
  exact ⟨output, tree, rfl, shown⟩

end Concludes

variable {may : Prop} (builtin : session.registry = ⟨Commands.builtin suffix⟩)
include builtin

/-- A command that the shell finds by its name concludes the lines of that name. -/
theorem concludes_of_run {command : Command} (own : command ∈ Commands.builtin suffix)
    (found : Registry.find? ⟨Commands.builtin suffix⟩ name = some command)
    (tokens : tokenize (Text.trim line) = some (name, arguments))
    (comes : session.scene.ComesTo may
      (command.run ((session.noted (Text.trim line)).surroundings now) arguments session.scene) outcome) :
    session.Concludes may now line name arguments outcome :=
  ⟨tokens, suffix, command, own, builtin ▸ found, comes⟩

theorem concludes_rm (now : Moment) (tokens : tokenize (Text.trim line) = some ("rm", [first])) :
    session.Concludes False now line "rm" [first] (session.sandbox.removal session.scene first) :=
  concludes_of_run builtin (by simp [Commands.builtin, Commands.files]) rfl tokens (Commands.rm_run _ _ _)

theorem concludes_cp (now : Moment) (tokens : tokenize (Text.trim line) = some ("cp", [first, second])) :
    session.Concludes (session.nextTrouble ≠ none) now line "cp" [first, second]
      (session.sandbox.copying session.scene first second) :=
  have comes := Commands.cp_run ((session.noted (Text.trim line)).surroundings now) session.scene first second
  concludes_of_run builtin (by simp [Commands.builtin, Commands.files]) rfl tokens
    (session.trouble_noted (Text.trim line) now ▸ comes)

theorem concludes_mv (now : Moment) (tokens : tokenize (Text.trim line) = some ("mv", [first, second])) :
    session.Concludes False now line "mv" [first, second] (session.sandbox.moving session.scene first second) :=
  concludes_of_run builtin (by simp [Commands.builtin, Commands.files]) rfl tokens (Commands.mv_run _ _ _ _)

end Session

end ConfinedShell
