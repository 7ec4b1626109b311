import ConfinedShell.Command.Registry
import ConfinedShell.Proofs.Operations

/-!
# What a command may do

A command is **careful** (`Careful`) when it gets at the files in no other way than this: it has the
sandbox check a path, it asks about paths that were checked, and as its last act it makes a checked
directory the current one or attempts one operation on checked paths. The files are then as they were, or one
operation on checked paths has changed them (`Careful.ends`): the one that was attempted, or when the storage
gave trouble a write of some of the bytes (`Operation.Attempted`).

Every command of the shell is careful (`Commands.careful_of_mem_builtin`), and the paths that it has
checked are those that `Commands.lookups` lists. What holds of careful commands is proved by an induction
with a case for each of the things that they may do, and never by looking at a command again.
-/

set_option autoImplicit false

namespace ConfinedShell

/-! ## Questions and operations -/

/-- A question about what a checked path leads to, and the type of its answer. -/
inductive Query : Type → Type where
  | exists? (path : Resolved) : Query Bool
  | isDirectory (path : Resolved) : Query Bool
  | isRegular (path : Resolved) : Query Bool
  | list (path : Resolved) (storage : Storage) : Query (Except Failure (List Entry))
  | read (path : Resolved) : Query (Except Failure String)

namespace Query

variable {α : Type}

/-- The path that a question is about. -/
def path : Query α → Resolved
  | .exists? path | .isDirectory path | .isRegular path | .list path _ | .read path => path

/-- What the files answer. -/
def answer : Query α → FileTree → α
  | .exists? path => path.exists?
  | .isDirectory path => path.isDirectory
  | .isRegular path => path.isRegular
  | .list path storage => path.readDirectory storage
  | .read path => path.readText

end Query

/-- An operation on checked paths. -/
inductive Operation where
  | write (path : Resolved) (bytes : Text.Bytes)
  | createFile (path : Resolved)
  | createDirectory (path : Resolved)
  | removeDirectory (path : Resolved)
  | removeFile (path : Resolved)
  | copy (source destination : Resolved)
  | move (source destination : Resolved)

namespace Operation

/-- The paths that an operation acts on. -/
def paths : Operation → List Resolved
  | .write path _ | .createFile path | .createDirectory path => [path]
  | .removeDirectory path | .removeFile path => [path]
  | .copy source destination | .move source destination => [source, destination]

/-- The files after an operation. -/
def perform : Operation → FileTree → Except Failure FileTree
  | .write path bytes => fun tree => path.write tree bytes
  | .createFile path => (path.createFile ·)
  | .createDirectory path => path.createDirectory
  | .removeDirectory path => path.removeDirectory
  | .removeFile path => path.removeFile
  | .copy source destination => fun tree => (source.copyTo destination tree).map (·.2)
  | .move source destination => source.moveTo destination

/-- The bytes that an operation sends to a file, if it is one that does, and the path of the file. -/
def sends? : Operation → FileTree → Option (Resolved × Text.Bytes)
  | .write path bytes, _ => some (path, bytes)
  | .copy source destination, tree =>
    if source.physical = destination.physical then none
    else (tree.copied source.physical destination.physical).toOption.map fun bytes => (destination, bytes)
  | _, _ => none

/-- What a change leaves that is made as a whole or not at all, and how it ends. -/
def wholly (tree : FileTree) : Except Failure FileTree → FileTree × Except Failure Unit
  | .ok after => (after, .ok ())
  | .error cause => (tree, .error cause)

/-- The files after an operation that may not open a file because of trouble. -/
def performIn (trouble : Option Trouble) : Operation → FileTree → Except Failure FileTree
  | .createFile path => (path.createFile · trouble)
  | operation => operation.perform

/-- **What an attempt at an operation leaves**, and how it ends. There can be trouble where a file is opened, and only
where bytes are sent to it can trouble leave something. -/
def attempt (trouble : Option Trouble) (operation : Operation) (tree : FileTree) : FileTree × Except Failure Unit :=
  match operation.sends? tree with
  | some (path, bytes) => path.send trouble bytes tree
  | none => wholly tree (operation.performIn trouble tree)

/-- Whether an operation takes something from one place to another. -/
def isMove : Operation → Bool
  | .move _ _ => true
  | _ => false

end Operation

namespace Action

variable {α β : Type} {action : Action α} {next : α → Action β} {scene after : Scene}

/-- What goes on after an action that succeeded. -/
theorem bind_of_ok {a : α} (ran : action scene = .ok a after) :
    (action >>= next) scene = next a after := by
  simp only [bind, EStateM.bind, ran]

/-- Nothing goes on after a fault. -/
theorem bind_of_error {fault : Fault} (ran : action scene = .error fault after) :
    (action >>= next) scene = .error fault after := by
  simp only [bind, EStateM.bind, ran]

/-- A path that is found good goes on, -/
theorem resolve_ok {around : Surroundings} {input : String} {path : Resolved}
    (found : around.sandbox.resolve scene.tree scene.cwd input = .ok path) :
    resolve around input scene = .ok path scene := by
  show ofExcept (around.sandbox.resolve scene.tree scene.cwd input) scene = _
  rw [found]
  rfl

/-- and so does an answer. -/
theorem query_ok {question : FileTree → Except Failure α} {a : α} (answered : question scene.tree = .ok a) :
    query question scene = .ok a scene := by
  show ofExcept (question scene.tree) scene = _
  rw [answered]
  rfl

variable {operation : FileTree → Except Failure FileTree}

/-- A change that succeeds leaves the changed files. -/
theorem change_of_ok {tree : FileTree} (performed : operation scene.tree = .ok tree)
    (output : Output) :
    (change operation >>= fun _ => pure output) scene = .ok output { scene with tree } := by
  have changed : change operation scene = .ok () { scene with tree } := by
    show (ofExcept (operation scene.tree) >>= fun tree => set { scene with tree }) scene = _
    rw [performed]
    rfl
  exact bind_of_ok changed

/-- A change that fails leaves everything as it was. -/
theorem change_of_error {cause : Failure} (failed : operation scene.tree = .error cause)
    (output : Output) :
    (change operation >>= fun _ => pure output) scene = .error (.failure cause) scene := by
  have kept : change operation scene = .error (.failure cause) scene := by
    show (ofExcept (operation scene.tree) >>= fun tree => set { scene with tree }) scene = _
    rw [failed]
    rfl
  exact bind_of_error kept

variable {attempted : FileTree → FileTree × Except Failure α} {tree : FileTree}

/-- An attempt that succeeds goes on with the files that it leaves, -/
theorem attempt_of_ok {a : α} (left : attempted scene.tree = (tree, .ok a)) (output : Output) :
    (attempt attempted >>= fun _ => pure output) scene = .ok output { scene with tree } := by
  have ended : attempt attempted scene = .ok a { scene with tree } := by
    show (set { scene with tree := (attempted scene.tree).1 } >>= fun _ => ofExcept (attempted scene.tree).2) scene = _
    rw [left]
    rfl
  exact bind_of_ok ended

/-- and one that fails leaves them. -/
theorem attempt_of_error {cause : Failure} (left : attempted scene.tree = (tree, .error cause)) (output : Output) :
    (attempt attempted >>= fun _ => pure output) scene = .error (.failure cause) { scene with tree } := by
  have ended : attempt attempted scene = .error (.failure cause) { scene with tree } := by
    show (set { scene with tree := (attempted scene.tree).1 } >>= fun _ => ofExcept (attempted scene.tree).2) scene = _
    rw [left]
    rfl
  exact bind_of_error ended

end Action

/-! ## Failures -/

namespace Failure

/-- **A failure of a command's own**: any but that of the sandbox, which has rejected a path. -/
def IsOwn (cause : Failure) : Prop :=
  ∀ path, cause ≠ .pathEscape path

theorem isOwn_usage (info : CommandInfo) : info.usageFailure.IsOwn :=
  fun _ same => nomatch same

theorem isOwn_command (message : String) : (command message).IsOwn :=
  fun _ same => nomatch same

/-- The failure of a call on the host is not one of the sandbox. -/
theorem isOwn_ofHost (path : String) (cause : HostError) : (ofHost path cause).IsOwn := by
  intro other same
  unfold ofHost at same
  split at same <;> cases same

/-- What a call on the host is told as is not a failure of the sandbox. -/
theorem isOwn_of_told {α : Type} {path : Resolved} {outcome : Except HostError α} {cause : Failure}
    (failed : path.told outcome = .error cause) : cause.IsOwn := by
  cases outcome with
  | ok a => cases failed
  | error e =>
    cases failed
    exact isOwn_ofHost path.text e

end Failure

/-! ## Attempts -/

/-- What has arrived of bytes that are sent to a file is written to it. -/
theorem Resolved.send_eq (path : Resolved) (trouble : Option Trouble) (bytes : Text.Bytes) (tree : FileTree) :
    path.send trouble bytes tree =
      match path.write tree (arriving trouble bytes), trouble with
      | .error cause, _ => (tree, .error cause)
      | .ok after, none => (after, .ok ())
      | .ok after, some trouble =>
        (if trouble.arrived.isSome then after else tree, .error (.ofHost path.text (.system trouble.error))) := by
  unfold send FileTree.sendBytes
  rw [write_eq]
  cases tree.writeFile path.physical (arriving trouble bytes) with
  | error cause => rfl
  | ok after => cases trouble <;> rfl

/-- What is sent changes nothing, or it is written as far as it has arrived. -/
theorem Resolved.write_of_send {path : Resolved} {trouble : Option Trouble} {bytes : Text.Bytes} {tree after : FileTree}
    {outcome : Except Failure Unit} (sent : path.send trouble bytes tree = (after, outcome)) :
    after = tree ∨ ∃ arrived, path.write tree arrived = .ok after := by
  rw [send_eq] at sent
  split at sent
  · cases sent
    exact .inl rfl
  · next written =>
    cases sent
    exact .inr ⟨_, written⟩
  · next written =>
    cases sent
    split
    · exact .inr ⟨_, written⟩
    · exact .inl rfl

/-- What is sent with success is written. -/
theorem Resolved.write_of_sent {path : Resolved} {trouble : Option Trouble} {bytes : Text.Bytes} {tree after : FileTree}
    (sent : path.send trouble bytes tree = (after, .ok ())) : path.write tree bytes = .ok after := by
  rw [send_eq] at sent
  split at sent
  · cases sent
  · next written =>
    cases sent
    exact written
  · cases sent

/-- What is sent fails with a failure of its own. -/
theorem Resolved.isOwn_of_send {path : Resolved} {trouble : Option Trouble} {bytes : Text.Bytes} {tree after : FileTree}
    {cause : Failure} (sent : path.send trouble bytes tree = (after, .error cause)) : cause.IsOwn :=
  Failure.isOwn_of_told (Prod.mk.inj sent).2

/-- Whether a file can be written does not depend on the bytes. -/
theorem Resolved.write_error {path : Resolved} {tree : FileTree} {bytes : Text.Bytes} {cause : Failure}
    (failed : path.write tree bytes = .error cause) (other : Text.Bytes) : path.write tree other = .error cause := by
  rw [write_eq, FileTree.writeFile] at failed ⊢
  cases opened : tree.writableLocation path.physical with
  | error e =>
    rw [opened] at failed
    exact failed
  | ok location =>
    rw [opened] at failed
    cases failed

namespace Operation

variable {operation : Operation} {trouble : Option Trouble} {tree after : FileTree} {cause : Failure}

/-- **An operation that sends bytes to a file writes the file.** -/
theorem perform_of_sends {path : Resolved} {bytes : Text.Bytes} (sends : operation.sends? tree = some (path, bytes)) :
    operation.perform tree = path.write tree bytes := by
  cases operation with
  | write path bytes =>
    cases sends
    rfl
  | copy source destination =>
    rw [sends?] at sends
    split at sends
    · cases sends
    next differ =>
    cases copied : tree.copied source.physical destination.physical with
    | error e =>
      rw [copied] at sends
      cases sends
    | ok held =>
      rw [copied] at sends
      cases sends
      have performed : (copy source path).perform tree = (source.copyTo path tree).map (·.2) := rfl
      rw [performed, Resolved.copyTo_eq, if_neg differ, copied]
      show ((path.write tree bytes).map (Prod.mk bytes.length)).map (·.2) = path.write tree bytes
      cases path.write tree bytes <;> rfl
  | _ => cases sends

/-- The path that bytes are sent by is one of those that the operation acts on. -/
theorem mem_paths_of_sends {path : Resolved} {bytes : Text.Bytes}
    (sends : operation.sends? tree = some (path, bytes)) : path ∈ operation.paths := by
  cases operation with
  | write path bytes =>
    cases sends
    exact List.mem_singleton_self _
  | copy source destination =>
    rw [sends?] at sends
    split at sends
    · cases sends
    · obtain ⟨_, -, same⟩ := Option.map_eq_some_iff.mp sends
      cases same
      exact List.mem_cons_of_mem _ (List.mem_singleton_self _)
  | _ => cases sends

/-- A part of what an operation sends goes by one of its paths. -/
theorem mem_paths_of_part {path other : Resolved} {bytes part : Text.Bytes}
    (sends : operation.sends? tree = some (path, bytes)) (mem : other ∈ (write path part).paths) :
    other ∈ operation.paths := by
  obtain rfl := List.mem_singleton.mp mem
  exact mem_paths_of_sends sends

/-- Trouble matters where a file is made alone. -/
theorem performIn_eq (operation : Operation) (trouble : Option Trouble) :
    (∃ path, operation = .createFile path) ∨ operation.performIn trouble = operation.perform := by
  cases operation with
  | createFile path => exact .inl ⟨path, rfl⟩
  | _ => exact .inr rfl

/-- An operation that is performed in trouble is performed as without it, -/
theorem perform_of_performIn (performed : operation.performIn trouble tree = .ok after) :
    operation.perform tree = .ok after := by
  rcases operation.performIn_eq trouble with ⟨path, rfl⟩ | same
  · obtain ⟨location, opened, rfl⟩ := FileTree.exists_of_touchFile (Resolved.told_eq_ok.mp performed)
    exact Resolved.told_eq_ok.mpr (FileTree.touchFile_of_opened opened)
  · exact same ▸ performed

/-- and one that cannot be performed fails for the same reason. -/
theorem performIn_of_error (failed : operation.perform tree = .error cause) (trouble : Option Trouble) :
    operation.performIn trouble tree = .error cause := by
  rcases operation.performIn_eq trouble with ⟨path, rfl⟩ | same
  · have told : path.told (tree.touchFile path.physical) = .error cause := failed
    show path.told (tree.touchFile path.physical trouble) = .error cause
    unfold FileTree.touchFile at told ⊢
    cases opened : tree.writableLocation path.physical with
    | error e =>
      rw [opened] at told
      exact told
    | ok location =>
      rw [opened] at told
      cases told
  · exact same ▸ failed

/-- Without trouble it is the operation itself. -/
theorem performIn_none (operation : Operation) : operation.performIn none = operation.perform := by
  cases operation <;> rfl

/-- **How an attempt ends**, and what it leaves: the operation was performed; or it has failed and nothing has changed;
or there was trouble, and the file holds what had arrived. -/
inductive Attempted (operation : Operation) (tree : FileTree) (trouble : Option Trouble) :
    FileTree → Except Failure Unit → Prop where
  | done {after : FileTree} (performed : operation.perform tree = .ok after) :
      Attempted operation tree trouble after (.ok ())
  | refused {cause : Failure} (own : cause.IsOwn) : Attempted operation tree trouble tree (.error cause)
  | part {path : Resolved} {bytes : Text.Bytes} {count : Nat} {error : SystemError} {after : FileTree}
      (met : trouble = some ⟨some count, error⟩) (sends : operation.sends? tree = some (path, bytes))
      (written : path.write tree (bytes.take count) = .ok after) :
      Attempted operation tree trouble after (.error (.ofHost path.text (.system error)))

/-- An operation on checked paths fails with a failure of its own: the paths are not checked again. -/
theorem isOwn_of_error (failed : operation.perform tree = .error cause) : cause.IsOwn := by
  cases operation with
  | write path bytes =>
    have written : path.write tree bytes = .error cause := failed
    rw [Resolved.write_eq] at written
    exact Failure.isOwn_of_told written
  | createFile path => exact Failure.isOwn_of_told failed
  | createDirectory path => exact Failure.isOwn_of_told failed
  | removeFile path => exact Failure.isOwn_of_told failed
  | removeDirectory path =>
    have removed : path.removeDirectory tree = .error cause := failed
    rw [Resolved.removeDirectory] at removed
    split at removed
    · cases removed
      exact Failure.isOwn_command _
    · exact Failure.isOwn_of_told removed
  | copy source destination =>
    have copied : source.copyTo destination tree = .error cause := map_eq_error.mp failed
    rw [Resolved.copyTo_eq] at copied
    split at copied
    · cases copied
      exact Failure.isOwn_command _
    · cases held : destination.told (tree.copied source.physical destination.physical) with
      | error e =>
        rw [held] at copied
        cases copied
        exact Failure.isOwn_of_told held
      | ok bytes =>
        rw [held] at copied
        have written := map_eq_error.mp copied
        rw [Resolved.write_eq] at written
        exact Failure.isOwn_of_told written
  | move source destination =>
    have moved : source.moveTo destination tree = .error cause := failed
    rw [Resolved.moveTo] at moved
    split at moved
    · cases moved
      exact Failure.isOwn_command _
    · exact Failure.isOwn_of_told moved

/-- An operation that trouble keeps from being performed fails with a failure of its own as well. -/
theorem isOwn_of_performIn (failed : operation.performIn trouble tree = .error cause) : cause.IsOwn := by
  rcases operation.performIn_eq trouble with ⟨path, rfl⟩ | same
  · exact Failure.isOwn_of_told failed
  · exact isOwn_of_error (same ▸ failed)

theorem attempted (operation : Operation) (trouble : Option Trouble) (tree : FileTree) :
    operation.Attempted tree trouble (operation.attempt trouble tree).1 (operation.attempt trouble tree).2 := by
  rw [attempt]
  cases sends : operation.sends? tree with
  | none =>
    cases performed : operation.performIn trouble tree with
    | ok after => exact .done (perform_of_performIn performed)
    | error cause => exact .refused (isOwn_of_performIn performed)
  | some sent =>
    obtain ⟨path, bytes⟩ := sent
    have same := perform_of_sends sends
    dsimp only
    rw [Resolved.send_eq]
    cases written : path.write tree (arriving trouble bytes) with
    | error cause => exact .refused (isOwn_of_error (same.trans (Resolved.write_error written bytes)))
    | ok after =>
      match trouble with
      | none => exact .done (same.trans written)
      | some ⟨none, error⟩ => exact .refused (Failure.isOwn_ofHost _ _)
      | some ⟨some count, error⟩ => exact .part rfl sends written

/-- An attempt fails with a failure of its own. -/
theorem Attempted.isOwn {left : FileTree} (attempted : operation.Attempted tree trouble left (.error cause)) :
    cause.IsOwn := by
  cases attempted with
  | refused own => exact own
  | part met sends written => exact Failure.isOwn_ofHost _ _

/-- An operation that is attempted with success is performed. -/
theorem perform_of_attempt (done : operation.attempt trouble tree = (after, .ok ())) :
    operation.perform tree = .ok after := by
  have ended := operation.attempted trouble tree
  rw [done] at ended
  cases ended with
  | done performed => exact performed

/-- An operation that cannot be performed fails as well where there is trouble, and changes nothing. -/
theorem attempt_of_error (failed : operation.perform tree = .error cause) (trouble : Option Trouble) :
    operation.attempt trouble tree = (tree, .error cause) := by
  rw [attempt]
  cases sends : operation.sends? tree with
  | none => rw [performIn_of_error failed, wholly]
  | some sent =>
    rw [perform_of_sends sends] at failed
    dsimp only
    rw [Resolved.send_eq, Resolved.write_error failed]

/-- Without trouble an operation is performed as a whole or not at all. -/
theorem attempt_of_ok (performed : operation.perform tree = .ok after) :
    operation.attempt none tree = (after, .ok ()) := by
  rw [attempt]
  cases sends : operation.sends? tree with
  | none => rw [performIn_none, performed, wholly]
  | some sent =>
    rw [perform_of_sends sends] at performed
    dsimp only [arriving]
    rw [Resolved.send_eq, arriving, performed]

/-- An operation that sends no bytes is performed as a whole or not at all. -/
theorem change_eq_attempt {scene : Scene} (whole : operation.sends? scene.tree = none) (trouble : Option Trouble)
    (output : Output) :
    (Action.change (operation.performIn trouble) >>= fun _ => pure output) scene =
      (Action.attempt (operation.attempt trouble) >>= fun _ => pure output) scene := by
  have left : operation.attempt trouble scene.tree = wholly scene.tree (operation.performIn trouble scene.tree) := by
    rw [attempt, whole]
  cases performed : operation.performIn trouble scene.tree with
  | ok after =>
    rw [performed] at left
    rw [Action.change_of_ok performed, Action.attempt_of_ok left]
  | error cause =>
    rw [performed] at left
    rw [Action.change_of_error performed, Action.attempt_of_error left]

/-- An attempt at a copy sends the bytes of the one file to the other one. -/
theorem attempt_copy (source destination : Resolved) (trouble : Option Trouble) (tree : FileTree) :
    (copy source destination).attempt trouble tree =
      ((source.sendTo destination trouble tree).1, (source.sendTo destination trouble tree).2.map fun _ => ()) := by
  have performed : (copy source destination).performIn trouble tree = (source.copyTo destination tree).map (·.2) := rfl
  rw [attempt, performed, Resolved.copyTo_eq]
  unfold sends? Resolved.sendTo
  by_cases same : source.physical = destination.physical
  · simp only [if_pos same]
    rfl
  · simp only [if_neg same, FileTree.sendFile]
    cases tree.copied source.physical destination.physical with
    | error e => rfl
    | ok bytes =>
      refine Prod.ext rfl ?_
      show destination.told (tree.sendBytes trouble destination.physical bytes).2 =
        (destination.told ((tree.sendBytes trouble destination.physical bytes).2.map fun _ => bytes.length)).map
          fun _ => ()
      cases (tree.sendBytes trouble destination.physical bytes).2 <;> rfl

theorem copy_eq_attempt (source destination : Resolved) (trouble : Option Trouble) (output : Output) :
    (Action.attempt (source.sendTo destination trouble) >>= fun _ => pure output) =
      (Action.attempt ((copy source destination).attempt trouble) >>= fun _ => pure output) := by
  funext scene
  have same := attempt_copy source destination trouble scene.tree
  cases left : source.sendTo destination trouble scene.tree with
  | mk tree outcome =>
    rw [left] at same
    cases outcome with
    | ok count => exact (Action.attempt_of_ok left output).trans (Action.attempt_of_ok same output).symm
    | error cause => exact (Action.attempt_of_error left output).trans (Action.attempt_of_error same output).symm

end Operation

/-! ## Careful commands -/

/-- A path is **checked** when it is one of those that a command has checked, and it was found good. -/
structure Checked (sandbox : Sandbox) (looked : List VirtualPath) (tree : FileTree)
    (path : Resolved) : Prop where
  listed : path.virtualPath ∈ looked
  good : sandbox.resolveVirtual tree path.virtualPath = .ok path

/-- **What a careful command does** in a scene, act by act. Each act says what the command does in every
scene with the same current directory; what comes after it depends on what the files of the scene at hand
answer. Only a command that `moves` performs a move. -/
inductive Careful (sandbox : Sandbox) (storage : Storage) (looked : List VirtualPath) (moves : Prop)
    (scene : Scene) : Action Output → Prop where
  /-- Ends with an output. An editor is asked for on a checked path alone. -/
  | finish {action : Action Output} (output : Output)
      (checked : ∀ path, output = .edit path → Checked sandbox looked scene.tree path)
      (runs : ∀ s, s.cwd = scene.cwd → action s = .ok output s) :
      Careful sandbox storage looked moves scene action
  /-- Ends with a fault of its own. -/
  | fault {action : Action Output} (fault : Fault) (own : fault.toFailure.IsOwn)
      (runs : ∀ s, s.cwd = scene.cwd → action s = .error fault s) :
      Careful sandbox storage looked moves scene action
  /-- Checks a path and goes on with it. -/
  | lookUp {action : Action Output} (path : VirtualPath) (next : Resolved → Action Output)
      (listed : path ∈ looked)
      (runs : ∀ s, s.cwd = scene.cwd →
        action s = (Action.ofExcept (sandbox.resolveVirtual s.tree path) >>= next) s)
      (goesOn : ∀ resolved, Checked sandbox looked scene.tree resolved →
        sandbox.resolveVirtual scene.tree path = .ok resolved →
        Careful sandbox storage looked moves scene (next resolved)) :
      Careful sandbox storage looked moves scene action
  /-- Asks about a checked path and goes on with the answer. -/
  | ask {action : Action Output} {α : Type} (query : Query α) (next : α → Action Output)
      (checked : Checked sandbox looked scene.tree query.path)
      (runs : ∀ s, s.cwd = scene.cwd → action s = next (query.answer s.tree) s)
      (goesOn : Careful sandbox storage looked moves scene (next (query.answer scene.tree))) :
      Careful sandbox storage looked moves scene action
  /-- Makes a checked directory the current one. -/
  | enter {action : Action Output} (path : Resolved) (output : Output)
      (checked : Checked sandbox looked scene.tree path)
      (isDirectory : path.isDirectory scene.tree = true) (noEditor : ∀ path, output ≠ .edit path)
      (runs : ∀ s, s.cwd = scene.cwd →
        action s = .ok output { s with cwd := path.virtualPath }) :
      Careful sandbox storage looked moves scene action
  /-- Attempts an operation on checked paths. -/
  | change {action : Action Output} (operation : Operation) (output : Output)
      (checked : ∀ path ∈ operation.paths, Checked sandbox looked scene.tree path)
      (moving : operation.isMove = true → moves) (noEditor : ∀ path, output ≠ .edit path)
      (runs : ∀ s, s.cwd = scene.cwd →
        action s = (Action.attempt (operation.attempt storage.trouble) >>= fun _ => pure output) s) :
      Careful sandbox storage looked moves scene action

/-- **At most one operation** on checked paths leads from one tree to the other. -/
def OneOperation (sandbox : Sandbox) (looked : List VirtualPath) (moves : Prop) (before after : FileTree) : Prop :=
  after = before ∨ ∃ operation : Operation, (∀ path ∈ operation.paths, Checked sandbox looked before path) ∧
    (operation.isMove = true → moves) ∧ operation.perform before = .ok after

theorem OneOperation.mono {sandbox : Sandbox} {looked : List VirtualPath} {moves moves' : Prop}
    {before after : FileTree} (one : OneOperation sandbox looked moves before after) (weaker : moves → moves') :
    OneOperation sandbox looked moves' before after :=
  one.imp_right fun ⟨operation, checked, moving, performed⟩ =>
    ⟨operation, checked, fun isMove => weaker (moving isMove), performed⟩

namespace Careful

variable {sandbox : Sandbox} {storage : Storage} {looked : List VirtualPath} {moves : Prop} {scene : Scene}
variable {action : Action Output}

/-- An attempt at an operation on checked paths comes to at most one: to itself, or to a write. -/
theorem oneOperation_of_attempted {operation : Operation} {trouble : Option Trouble} {before after : FileTree}
    {outcome : Except Failure Unit} (checked : ∀ path ∈ operation.paths, Checked sandbox looked before path)
    (moving : operation.isMove = true → moves) (attempted : operation.Attempted before trouble after outcome) :
    OneOperation sandbox looked moves before after := by
  cases attempted with
  | done performed => exact .inr ⟨operation, checked, moving, performed⟩
  | refused own => exact .inl rfl
  | @part path bytes count error _ met sends written =>
    exact .inr ⟨.write path (bytes.take count), fun other mem => checked other (Operation.mem_paths_of_part sends mem),
      fun h => (nomatch h), written⟩

/-- **How a careful command ends**: in a fault or with an output. In either case the files are as they were or one
operation on checked paths has changed them. After a fault the current directory is the same, and a path for the
editor is a checked one. -/
theorem ends (careful : Careful sandbox storage looked moves scene action) :
    (∃ fault after, action scene = .error fault after ∧ after.cwd = scene.cwd ∧
        OneOperation sandbox looked moves scene.tree after.tree) ∨
      ∃ output after, action scene = .ok output after ∧
        (∀ path, output = .edit path →
          after = scene ∧ Checked sandbox looked scene.tree path) ∧
        OneOperation sandbox looked moves scene.tree after.tree := by
  induction careful with
  | finish output checked runs =>
    exact .inr ⟨output, scene, runs scene rfl, fun path asked => ⟨rfl, checked path asked⟩, .inl rfl⟩
  | fault cause own runs => exact .inl ⟨cause, scene, runs scene rfl, rfl, .inl rfl⟩
  | lookUp path next listed runs goesOn ih =>
    rw [runs scene rfl]
    cases resolved : sandbox.resolveVirtual scene.tree path with
    | error cause => exact .inl ⟨.failure cause, scene, rfl, rfl, .inl rfl⟩
    | ok good =>
      have same := (Sandbox.resolveVirtual_ok resolved).1
      exact ih good ⟨same ▸ listed, same ▸ resolved⟩ resolved
  | ask query next checked runs goesOn ih =>
    rw [runs scene rfl]
    exact ih
  | enter path output checked isDirectory noEditor runs =>
    exact .inr ⟨output, _, runs scene rfl, fun path asked => absurd asked (noEditor path), .inl rfl⟩
  | change operation output checked moving noEditor runs =>
    have one := oneOperation_of_attempted checked moving (operation.attempted storage.trouble scene.tree)
    rw [runs scene rfl]
    cases left : operation.attempt storage.trouble scene.tree with
    | mk tree outcome =>
      rw [left] at one
      cases outcome with
      | error cause =>
        exact .inl ⟨.failure cause, { scene with tree }, Action.attempt_of_error left output, rfl, one⟩
      | ok done =>
        exact .inr ⟨output, { scene with tree }, Action.attempt_of_ok left output,
          fun path asked => absurd asked (noEditor path), one⟩

/-- **A careful command fails on its own account** when the sandbox rejects none of the paths that it looks
up. -/
theorem isOwn_of_fault (careful : Careful sandbox storage looked moves scene action)
    (resolves : ∀ path ∈ looked, ∃ resolved, sandbox.resolveVirtual scene.tree path = .ok resolved)
    {fault : Fault} {after : Scene} (ended : action scene = .error fault after) :
    fault.toFailure.IsOwn := by
  induction careful with
  | finish output checked runs =>
    rw [runs scene rfl] at ended
    cases ended
  | fault cause own runs =>
    rw [runs scene rfl] at ended
    cases ended
    exact own
  | lookUp path next listed runs goesOn ih =>
    obtain ⟨good, resolved⟩ := resolves path listed
    have same := (Sandbox.resolveVirtual_ok resolved).1
    rw [runs scene rfl, resolved] at ended
    exact ih good ⟨same ▸ listed, same ▸ resolved⟩ resolved ended
  | ask query next checked runs goesOn ih =>
    rw [runs scene rfl] at ended
    exact ih ended
  | enter path output checked isDirectory noEditor runs =>
    rw [runs scene rfl] at ended
    cases ended
  | change operation output checked moving noEditor runs =>
    rw [runs scene rfl] at ended
    have attempted := operation.attempted storage.trouble scene.tree
    cases left : operation.attempt storage.trouble scene.tree with
    | mk tree outcome =>
      rw [left] at attempted
      cases outcome with
      | error cause =>
        rw [Action.attempt_of_error left] at ended
        cases ended
        exact attempted.isOwn
      | ok done =>
        rw [Action.attempt_of_ok left] at ended
        cases ended

/-! ## The steps of a command -/

/-- Ends with an output that asks for no editor. -/
theorem done (output : Output) (noEditor : ∀ path, output ≠ .edit path) :
    Careful sandbox storage looked moves scene (pure output) :=
  .finish output (fun path asked => absurd asked (noEditor path)) fun _ _ => rfl

/-- Ends with a failure of its own. -/
theorem fail {cause : Failure} (own : cause.IsOwn) :
    Careful sandbox storage looked moves scene (Action.fail cause) :=
  .fault (.failure cause) own fun _ _ => rfl

/-- Ends because the arguments are wrong. -/
theorem usage (info : CommandInfo) :
    Careful sandbox storage looked moves scene (Action.fail info.usageFailure) :=
  .fail (Failure.isOwn_usage info)

/-- Ends with a failure that it words itself. -/
theorem refuse (message : String) :
    Careful sandbox storage looked moves scene (Action.fail (.command message)) :=
  .fail (Failure.isOwn_command message)

/-- Takes one argument. -/
theorem oneArgument {info : CommandInfo} {arguments : List String} {next : String → Action Output}
    (goesOn : ∀ input, arguments = [input] → Careful sandbox storage looked moves scene (next input)) :
    Careful sandbox storage looked moves scene (Action.oneArgument info arguments >>= next) := by
  match arguments with
  | [input] => exact goesOn input rfl
  | [] => exact .fault (.failure info.usageFailure) (Failure.isOwn_usage info) fun _ _ => rfl
  | _ :: _ :: _ => exact .fault (.failure info.usageFailure) (Failure.isOwn_usage info) fun _ _ => rfl

/-- Takes two arguments. -/
theorem twoArguments {info : CommandInfo} {arguments : List String}
    {next : String × String → Action Output}
    (goesOn : ∀ first second, arguments = [first, second] →
      Careful sandbox storage looked moves scene (next (first, second))) :
    Careful sandbox storage looked moves scene (Action.twoArguments info arguments >>= next) := by
  match arguments with
  | [first, second] => exact goesOn first second rfl
  | [] => exact .fault (.failure info.usageFailure) (Failure.isOwn_usage info) fun _ _ => rfl
  | [_] => exact .fault (.failure info.usageFailure) (Failure.isOwn_usage info) fun _ _ => rfl
  | _ :: _ :: _ :: _ => exact .fault (.failure info.usageFailure) (Failure.isOwn_usage info) fun _ _ => rfl

/-- Checks what an argument means in the current directory. -/
theorem resolve {around : Surroundings} {input : String} {next : Resolved → Action Output}
    (listed : scene.cwd.join input ∈ looked)
    (goesOn : ∀ path, Checked around.sandbox looked scene.tree path →
      around.sandbox.resolve scene.tree scene.cwd input = .ok path →
      Careful around.sandbox around.storage looked moves scene (next path)) :
    Careful around.sandbox around.storage looked moves scene (Action.resolve around input >>= next) := by
  refine .lookUp (scene.cwd.join input) next listed (fun s same => ?_) goesOn
  rw [← same]
  rfl

/-- Sends bytes to a file and ends with an output. -/
theorem send (path : Resolved) (bytes : Text.Bytes) (output : Output)
    (checked : Checked sandbox looked scene.tree path) (noEditor : ∀ path, output ≠ .edit path) :
    Careful sandbox storage looked moves scene
      (Action.attempt (path.send storage.trouble bytes) >>= fun _ => pure output) :=
  .change (.write path bytes) output (by simpa [Operation.paths] using checked) (fun h => nomatch h) noEditor
    fun _ _ => rfl

/-- Copies a file and ends with an output. -/
theorem copy (source destination : Resolved) (output : Output)
    (checked : Checked sandbox looked scene.tree source ∧ Checked sandbox looked scene.tree destination)
    (noEditor : ∀ path, output ≠ .edit path) :
    Careful sandbox storage looked moves scene
      (Action.attempt (source.sendTo destination storage.trouble) >>= fun _ => pure output) :=
  .change (.copy source destination) output (by simpa [Operation.paths] using checked) (fun h => nomatch h)
    noEditor fun s _ => congrFun (Operation.copy_eq_attempt source destination storage.trouble output) s

/-- Performs another operation, which is done as a whole or not at all, and ends with an output. -/
theorem perform (operation : Operation) (output : Output)
    (checked : ∀ path ∈ operation.paths, Checked sandbox looked scene.tree path)
    (moving : operation.isMove = true → moves) (noEditor : ∀ path, output ≠ .edit path)
    (whole : ∀ tree, operation.sends? tree = none) :
    Careful sandbox storage looked moves scene
      (Action.change (operation.performIn storage.trouble) >>= fun _ => pure output) :=
  .change operation output checked moving noEditor fun s _ => Operation.change_eq_attempt (whole s.tree) _ output

end Careful

end ConfinedShell
