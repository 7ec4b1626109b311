import ConfinedShell.Proofs.Lookups

/-!
# What a command does when it succeeds

`Careful` bounds what a command may do, without saying which command does it. This module says what each one
does: nothing, or `cd` makes a directory the current one, or a command performs the one operation that
`Commands.Performs` lists for it, on the paths that its arguments are resolved to (`Commands.Effect`). Every
command of the shell that succeeds has had its effect and no other (`Commands.acts_of_mem_builtin`).

A command that ends in a fault has changed nothing, unless the storage gave trouble while it was sending bytes to a
file: what had arrived by then is in the file (`Commands.Remains`).

The proof goes through a command step by step. `Action.Ensures` says what holds once an action has ended, with a rule
for each step that commands are made of; a command that looks up no path needs no
proof of its own, since without a checked path it cannot do anything (`Careful.ends_of_lookups_nil`).
-/

set_option autoImplicit false

namespace ConfinedShell

/-- **Where a copy or a move goes**: to the place that `input` is resolved to, or in a directory to the entry
that has the name of the source. -/
def Sandbox.destination (sandbox : Sandbox) (scene : Scene) (source : Resolved) (input : String) :
    Except Failure Resolved := do
  let place ← sandbox.resolve scene.tree scene.cwd input
  match source.virtualPath.fileName? with
  | some name =>
    if place.isDirectory scene.tree then
      sandbox.resolveVirtual scene.tree (place.virtualPath.child name)
    else .ok place
  | none => .ok place

/-! ## What an action ensures -/

namespace Action

variable {α β : Type} {scene : Scene}

/-- **An action ensures a condition** in a scene when the condition holds of the value and the scene that it
ends with; and when it ends in a fault, nothing has changed or another condition holds of what remains. -/
def Ensures (scene : Scene) (action : Action α) (condition : α → Scene → Prop) (remains : Scene → Prop) : Prop :=
  match action scene with
  | .ok a after => condition a after
  | .error _ after => after = scene ∨ remains after

namespace Ensures

variable {condition : β → Scene → Prop} {remains : Scene → Prop}

theorem of_ok {action : Action β} {b : β} {after : Scene} (ensures : Ensures scene action condition remains)
    (ended : action scene = .ok b after) : condition b after := by
  rwa [Ensures, ended] at ensures

theorem of_error {action : Action β} {fault : Fault} {after : Scene}
    (ensures : Ensures scene action condition remains) (ended : action scene = .error fault after) :
    after = scene ∨ remains after := by
  rwa [Ensures, ended] at ensures

/-- An action that always fails ensures everything. -/
theorem fail {cause : Failure} : Ensures scene (Action.fail cause) condition remains :=
  .inl rfl

/-- A value is what it is, and the scene stays as it is. -/
theorem done {b : β} (holds : condition b scene) : Ensures scene (pure b) condition remains :=
  holds

/-- What is asked of the scene is the scene. -/
theorem get {next : Scene → Action β} (goesOn : Ensures scene (next scene) condition remains) :
    Ensures scene (MonadState.get >>= next) condition remains :=
  goesOn

/-- A value goes on, and a failure does not. -/
theorem ofExcept {outcome : Except Failure α} {next : α → Action β}
    (goesOn : ∀ a, outcome = .ok a → Ensures scene (next a) condition remains) :
    Ensures scene (Action.ofExcept outcome >>= next) condition remains := by
  cases outcome with
  | ok a => exact goesOn a rfl
  | error cause => exact .inl rfl

/-- A path is resolved in the current directory. -/
theorem resolve {around : Surroundings} {input : String} {next : Resolved → Action β}
    (goesOn : ∀ path, around.sandbox.resolve scene.tree scene.cwd input = .ok path →
      Ensures scene (next path) condition remains) :
    Ensures scene (Action.resolve around input >>= next) condition remains :=
  ofExcept goesOn

/-- The files answer a question. -/
theorem query {question : FileTree → Except Failure α} {next : α → Action β}
    (goesOn : ∀ a, Ensures scene (next a) condition remains) :
    Ensures scene (Action.query question >>= next) condition remains := by
  have answered : Ensures scene (Action.ofExcept (question scene.tree) >>= next) condition remains :=
    ofExcept fun a _ => goesOn a
  exact answered

/-- There is one argument. -/
theorem oneArgument {info : CommandInfo} {arguments : List String} {next : String → Action β}
    (goesOn : ∀ input, arguments = [input] → Ensures scene (next input) condition remains) :
    Ensures scene (Action.oneArgument info arguments >>= next) condition remains := by
  match arguments with
  | [input] => exact goesOn input rfl
  | [] => exact .inl rfl
  | _ :: _ :: _ => exact .inl rfl

/-- There are two arguments. -/
theorem twoArguments {info : CommandInfo} {arguments : List String}
    {next : String × String → Action β}
    (goesOn : ∀ first second, arguments = [first, second] →
      Ensures scene (next (first, second)) condition remains) :
    Ensures scene (Action.twoArguments info arguments >>= next) condition remains := by
  match arguments with
  | [first, second] => exact goesOn first second rfl
  | [] => exact .inl rfl
  | [_] => exact .inl rfl
  | _ :: _ :: _ :: _ => exact .inl rfl

variable {output : Output} {condition : Output → Scene → Prop}

/-- A change of the files that succeeds leaves the changed files. -/
theorem change {operation : FileTree → Except Failure FileTree}
    (holds : ∀ tree, operation scene.tree = .ok tree → condition output { scene with tree }) :
    Ensures scene (Action.change operation >>= fun _ => pure output) condition remains := by
  cases performed : operation scene.tree with
  | ok tree =>
    rw [Ensures, change_of_ok performed]
    exact holds tree performed
  | error cause =>
    rw [Ensures, change_of_error performed]
    exact .inl rfl

/-- An attempt leaves the files that it leaves. -/
theorem attempt {attempted : FileTree → FileTree × Except Failure α}
    (holds : ∀ tree a, attempted scene.tree = (tree, .ok a) → condition output { scene with tree })
    (fails : ∀ tree cause, attempted scene.tree = (tree, .error cause) →
      { scene with tree } = scene ∨ remains { scene with tree }) :
    Ensures scene (Action.attempt attempted >>= fun _ => pure output) condition remains := by
  cases left : attempted scene.tree with
  | mk tree outcome =>
    cases outcome with
    | ok a =>
      rw [Ensures, attempt_of_ok left]
      exact holds tree a left
    | error cause =>
      rw [Ensures, attempt_of_error left]
      exact fails tree cause left

end Ensures

end Action

open ConfinedShell.Action (Ensures)

/-! ## Effects -/

namespace Commands

/-- **The operation that a command performs**, given its name and its arguments. -/
inductive Performs (sandbox : Sandbox) (scene : Scene) : String → List String → Operation → Prop where
  | mkdir {input : String} {path : Resolved}
      (resolved : sandbox.resolve scene.tree scene.cwd input = .ok path) :
      Performs sandbox scene "mkdir" [input] (.createDirectory path)
  | rmdir {input : String} {path : Resolved}
      (resolved : sandbox.resolve scene.tree scene.cwd input = .ok path) :
      Performs sandbox scene "rmdir" [input] (.removeDirectory path)
  | touch {input : String} {path : Resolved}
      (resolved : sandbox.resolve scene.tree scene.cwd input = .ok path) :
      Performs sandbox scene "touch" [input] (.createFile path)
  | rm {input : String} {path : Resolved}
      (resolved : sandbox.resolve scene.tree scene.cwd input = .ok path) :
      Performs sandbox scene "rm" [input] (.removeFile path)
  /-- What stands behind the first `>` is the file that is written. -/
  | echo {arguments : List String} {path : Resolved}
      (redirected : ">" ∈ arguments)
      (named : Text.joinWith " " ((arguments.dropWhile (· ≠ ">")).drop 1) ≠ "")
      (resolved : sandbox.resolve scene.tree scene.cwd
        (Text.joinWith " " ((arguments.dropWhile (· ≠ ">")).drop 1)) = .ok path) :
      Performs sandbox scene "echo" arguments
        (.write path (Text.encode (unquote (Text.trim (Text.joinWith " " (arguments.takeWhile (· ≠ ">")))))))
  /-- What is copied is a file. -/
  | cp {first second : String} {source place : Resolved}
      (resolved : sandbox.resolve scene.tree scene.cwd first = .ok source)
      (isFile : source.isDirectory scene.tree = false ∧ source.isRegular scene.tree = true)
      (goes : sandbox.destination scene source second = .ok place) :
      Performs sandbox scene "cp" [first, second] (.copy source place)
  /-- What is moved is there. -/
  | mv {first second : String} {source place : Resolved}
      (resolved : sandbox.resolve scene.tree scene.cwd first = .ok source)
      (there : source.exists? scene.tree = true)
      (goes : sandbox.destination scene source second = .ok place) :
      Performs sandbox scene "mv" [first, second] (.move source place)

/-- A path that was resolved is a checked one. -/
theorem checked_of_resolve {sandbox : Sandbox} {scene : Scene} {looked : List VirtualPath} {input : String}
    {path : Resolved} (listed : scene.cwd.join input ∈ looked)
    (resolved : sandbox.resolve scene.tree scene.cwd input = .ok path) :
    Checked sandbox looked scene.tree path := by
  have same : path.virtualPath = scene.cwd.join input := (Sandbox.resolveVirtual_ok resolved).1
  exact ⟨same ▸ listed, same ▸ resolved⟩

/-- The destination of a copy or a move is a checked path. -/
theorem checked_of_destination {sandbox : Sandbox} {scene : Scene} {looked : List VirtualPath}
    {source place : Resolved} {input : String}
    (listed : ∀ path ∈ destinations sandbox scene source input, path ∈ looked)
    (goes : sandbox.destination scene source input = .ok place) :
    Checked sandbox looked scene.tree place := by
  rw [Sandbox.destination] at goes
  obtain ⟨direct, resolved, goes⟩ := bind_eq_ok.mp goes
  have checked := checked_of_resolve (listed _ List.mem_cons_self) resolved
  split at goes
  · next name named =>
    split at goes
    · next inside =>
      have same := (Sandbox.resolveVirtual_ok goes).1
      refine ⟨listed _ ?_, same ▸ goes⟩
      rw [destinations, resolved, named]
      simp [inside, same]
    · cases goes
      exact checked
  · cases goes
    exact checked

/-- **An operation is performed on paths that were looked up** and found good. -/
theorem Performs.checked {sandbox : Sandbox} {scene : Scene} {name : String} {arguments : List String}
    {operation : Operation} (performs : Performs sandbox scene name arguments operation) :
    ∀ path ∈ operation.paths,
      Checked sandbox (lookups sandbox scene name arguments) scene.tree path := by
  intro path mem
  cases performs with
  | mkdir resolved | rmdir resolved | touch resolved | rm resolved =>
    obtain rfl := List.mem_singleton.mp mem
    exact checked_of_resolve (List.mem_singleton_self _) resolved
  | echo redirected named resolved =>
    obtain rfl := List.mem_singleton.mp mem
    refine checked_of_resolve ?_ resolved
    have writes : (arguments.contains ">" &&
        decide (Text.joinWith " " ((arguments.dropWhile (· ≠ ">")).drop 1) ≠ "")) = true :=
      Bool.and_eq_true_iff.mpr ⟨List.contains_iff_mem.mpr redirected, decide_eq_true named⟩
    show _ ∈ if _ then _ else _
    rw [if_pos writes]
    exact List.mem_singleton_self _
  | @cp first second source place resolved isFile goes =>
    rcases List.mem_cons.mp mem with rfl | mem
    · exact checked_of_resolve mem_following resolved
    · obtain rfl := List.mem_singleton.mp mem
      refine checked_of_destination (fun other listed => mem_following_of_mem resolved ?_) goes
      simpa [isFile] using listed
  | @mv first second source place resolved there goes =>
    rcases List.mem_cons.mp mem with rfl | mem
    · exact checked_of_resolve mem_following resolved
    · obtain rfl := List.mem_singleton.mp mem
      refine checked_of_destination (fun other listed => mem_following_of_mem resolved ?_) goes
      simpa [there] using listed

/-- **The effect of a command** that has succeeded: the scene that it leaves. -/
inductive Effect (sandbox : Sandbox) (scene : Scene) : String → List String → Scene → Prop where
  /-- Nothing has changed. -/
  | nothing {name : String} {arguments : List String} : Effect sandbox scene name arguments scene
  /-- A directory is the current one. -/
  | entered {input : String} {path : Resolved}
      (resolved : sandbox.resolve scene.tree scene.cwd input = .ok path)
      (isDirectory : path.isDirectory scene.tree = true) :
      Effect sandbox scene "cd" [input] { scene with cwd := path.virtualPath }
  /-- One operation was performed. -/
  | performed {name : String} {arguments : List String} {operation : Operation} {tree : FileTree}
      (performs : Performs sandbox scene name arguments operation)
      (succeeded : operation.perform scene.tree = .ok tree) :
      Effect sandbox scene name arguments { scene with tree }

/-- **What remains of a command** that was sending bytes to a file when the storage gave trouble: the file holds what
had arrived. -/
inductive Remains (sandbox : Sandbox) (trouble : Option Trouble) (scene : Scene) (name : String)
    (arguments : List String) : Scene → Prop where
  | part {operation : Operation} {path : Resolved} {bytes : Text.Bytes} {count : Nat} {error : SystemError}
      {tree : FileTree} (met : trouble = some ⟨some count, error⟩)
      (performs : Performs sandbox scene name arguments operation)
      (sends : operation.sends? scene.tree = some (path, bytes))
      (written : path.write scene.tree (bytes.take count) = .ok tree) :
      Remains sandbox trouble scene name arguments { scene with tree }

/-- What an attempt at the operation of a command leaves when it fails. -/
theorem Performs.remains {sandbox : Sandbox} {trouble : Option Trouble} {scene : Scene} {name : String}
    {arguments : List String} {operation : Operation} (performs : Performs sandbox scene name arguments operation)
    {tree : FileTree} {cause : Failure} (left : operation.attempt trouble scene.tree = (tree, .error cause)) :
    { scene with tree } = scene ∨ Remains sandbox trouble scene name arguments { scene with tree } := by
  have attempted := operation.attempted trouble scene.tree
  rw [left] at attempted
  cases attempted with
  | refused own => exact .inl rfl
  | part met sends written => exact .inr (.part met performs sends written)

end Commands

/-- **A careful command that looks up no path acts on nothing**: there is no checked path to act on. In every scene
with the same current directory it ends with the same output, which asks for no editor, or in the same fault. -/
theorem Careful.ends_of_lookups_nil {sandbox : Sandbox} {storage : Storage} {moves : Prop} {scene : Scene}
    {action : Action Output} (careful : Careful sandbox storage [] moves scene action) :
    (∃ output, (∀ path, output ≠ .edit path) ∧ ∀ s : Scene, s.cwd = scene.cwd → action s = .ok output s) ∨
      ∃ fault, ∀ s : Scene, s.cwd = scene.cwd → action s = .error fault s := by
  have unchecked {path : Resolved} : ¬ Checked sandbox [] scene.tree path :=
    fun checked => nomatch checked.listed
  cases careful with
  | finish output checked runs => exact .inl ⟨output, fun path asked => unchecked (checked path asked), runs⟩
  | fault fault own runs => exact .inr ⟨fault, runs⟩
  | lookUp path next listed => cases listed
  | ask query next checked => exact absurd checked unchecked
  | enter path output checked => exact absurd checked unchecked
  | change operation output checked =>
    cases operation <;> exact absurd (checked _ List.mem_cons_self) unchecked

namespace Commands

variable (around : Surroundings) (scene : Scene) (arguments : List String)

/-- **A command acts** as its name and its arguments say: if it succeeds it has its effect, and else the scene is as it
was or has what remains in it. -/
def Acts (name : String) (arguments : List String) (action : Action Output) : Prop :=
  Ensures scene action (fun _ => Effect around.sandbox scene name arguments)
    (Remains around.sandbox around.storage.trouble scene name arguments)

/-- The place that a copy or a move goes to is the destination. -/
theorem ensures_destination {around : Surroundings} {scene : Scene} {source : Resolved} {input : String}
    {next : Resolved → Action Output} {condition : Output → Scene → Prop} {remains : Scene → Prop}
    (goesOn : ∀ place, around.sandbox.destination scene source input = .ok place →
      Ensures scene (next place) condition remains) :
    Ensures scene (destination around source input >>= next) condition remains := by
  rw [destination, bind_assoc]
  refine .resolve fun place resolved => ?_
  have goes : around.sandbox.destination scene source input =
      match source.virtualPath.fileName? with
      | some name =>
        if place.isDirectory scene.tree then
          around.sandbox.resolveVirtual scene.tree (place.virtualPath.child name)
        else .ok place
      | none => .ok place := by
    rw [Sandbox.destination, resolved]
    rfl
  cases named : source.virtualPath.fileName? with
  | none =>
    rw [named] at goes
    exact goesOn place goes
  | some name =>
    rw [named] at goes
    dsimp only at goes ⊢
    rw [bind_assoc]
    refine .get ?_
    split
    · next inside =>
      rw [if_pos inside] at goes
      exact .ofExcept fun entry looked => goesOn entry (goes.trans looked)
    · next outside =>
      rw [if_neg outside] at goes
      exact goesOn place goes

/-- Reading a file changes nothing. -/
theorem ensures_readFile {around : Surroundings} {scene : Scene} {input : String}
    {next : String → Action Output} {condition : Output → Scene → Prop} {remains : Scene → Prop}
    (goesOn : ∀ text, Ensures scene (next text) condition remains) :
    Ensures scene (readFile around input >>= next) condition remains := by
  rw [readFile, bind_assoc]
  exact .resolve fun path _ => .query goesOn

/-- An attempt at the operation of a command is an act. -/
theorem acts_attempt {name : String} {arguments : List String} {operation : Operation}
    (performs : Performs around.sandbox scene name arguments operation) (output : Output) :
    Acts around scene name arguments
      (Action.attempt (operation.attempt around.storage.trouble) >>= fun _ => pure output) :=
  .attempt (fun _ _ done => .performed performs (Operation.perform_of_attempt done)) fun _ _ left =>
    performs.remains left

theorem acts_cd : Acts around scene "cd" arguments (cd.run around arguments) := by
  refine .oneArgument fun input given => .resolve fun path resolved => .get ?_
  split
  · next isDirectory =>
    rw [given]
    exact .entered resolved isDirectory
  · exact .fail

theorem acts_mkdir : Acts around scene "mkdir" arguments (mkdir.run around arguments) := by
  refine .oneArgument fun input given => .resolve fun path resolved => .change fun tree made => ?_
  rw [given]
  exact .performed (.mkdir resolved) made

theorem acts_rmdir : Acts around scene "rmdir" arguments (rmdir.run around arguments) := by
  refine .oneArgument fun input given => .resolve fun path resolved => .get ?_
  split
  · exact .fail
  · refine .change fun tree removed => ?_
    rw [given]
    exact .performed (.rmdir resolved) removed

theorem acts_touch : Acts around scene "touch" arguments (touch.run around arguments) := by
  refine .oneArgument fun input given => .resolve fun path resolved => .change fun tree made => ?_
  rw [given]
  have made : (Operation.createFile path).performIn around.storage.trouble scene.tree = .ok tree := made
  exact .performed (.touch resolved) (Operation.perform_of_performIn made)

theorem acts_rm : Acts around scene "rm" arguments (rm.run around arguments) := by
  refine .oneArgument fun input given => .resolve fun path resolved => .get ?_
  split
  · exact .fail
  · refine .change fun tree removed => ?_
    rw [given]
    exact .performed (.rm resolved) removed

theorem acts_cp : Acts around scene "cp" arguments (cp.run around arguments) := by
  refine .twoArguments fun first second given => .resolve fun source resolved => .get ?_
  split
  · exact .fail
  next noDirectory =>
  refine .get ?_
  split
  · exact .fail
  next regular =>
  refine ensures_destination fun place goes => ?_
  have isFile : source.isDirectory scene.tree = false ∧ source.isRegular scene.tree = true :=
    ⟨Bool.eq_false_iff.mpr noDirectory, by simpa using regular⟩
  rw [given, Operation.copy_eq_attempt]
  exact acts_attempt around scene (.cp resolved isFile goes) _

theorem acts_mv : Acts around scene "mv" arguments (mv.run around arguments) := by
  refine .twoArguments fun first second given => .resolve fun source resolved => .get ?_
  split
  · exact .fail
  next there =>
  refine ensures_destination fun place goes => ?_
  split
  · exact .done .nothing
  · refine .change fun tree moved => ?_
    rw [given]
    exact .performed (.mv resolved (by simpa using there) goes) moved

theorem acts_echo : Acts around scene "echo" arguments (echo.run around arguments) := by
  unfold echo
  dsimp only
  split
  · exact .fail
  split
  · exact .done .nothing
  next redirected =>
  split
  · exact .fail
  next named =>
  refine .resolve fun path resolved => ?_
  exact acts_attempt around scene (.echo (by simpa using redirected) named resolved) _

/-- Without an argument the current directory is listed, as it is for `.`. -/
theorem acts_ls : Acts around scene "ls" arguments (ls.run around arguments) := by
  have listed (input : String) : Acts around scene "ls" arguments (ls.run around [input]) := by
    refine .resolve fun directory _ => .get ?_
    split
    · exact .fail
    · exact .done .nothing
    · exact .done .nothing
  rcases arguments with _ | ⟨path, _ | ⟨_, _⟩⟩
  · exact listed "."
  · exact listed path
  · exact .fail

theorem acts_cat : Acts around scene "cat" arguments (cat.run around arguments) :=
  .oneArgument fun _ _ => ensures_readFile fun _ => .done .nothing

theorem acts_grep : Acts around scene "grep" arguments (grep.run around arguments) :=
  .twoArguments fun _ _ _ => ensures_readFile fun _ => .done .nothing

/-- A number of lines and a file are taken from the arguments. -/
theorem ensures_countAndFile {scene : Scene} {info : CommandInfo} {arguments : List String}
    {next : Nat × String → Action Output} {condition : Output → Scene → Prop} {remains : Scene → Prop}
    (goesOn : ∀ count file, Ensures scene (next (count, file)) condition remains) :
    Ensures scene (countAndFile info arguments >>= next) condition remains := by
  unfold countAndFile
  split
  · next count file =>
    cases Text.count? count with
    | none => exact .fail
    | some n => exact goesOn n file
  · exact .fail

theorem acts_head : Acts around scene "head" arguments (head.run around arguments) :=
  ensures_countAndFile fun _ _ => ensures_readFile fun _ => .done .nothing

theorem acts_tail : Acts around scene "tail" arguments (tail.run around arguments) :=
  ensures_countAndFile fun _ _ => ensures_readFile fun _ => .done .nothing

theorem acts_diff : Acts around scene "diff" arguments (diff.run around arguments) := by
  refine .twoArguments fun first second _ => .resolve fun left _ => .resolve fun right _ => .get ?_
  split
  · exact .fail
  refine .query fun leftText => .query fun rightText => ?_
  split
  · exact .done .nothing
  · exact .done .nothing

theorem acts_nano : Acts around scene "nano" arguments (nano.run around arguments) := by
  refine .oneArgument fun input _ => .resolve fun path _ => .get ?_
  split
  · exact .fail
  · exact .done .nothing

/-- **Every command of the shell acts as its name and its arguments say.** -/
theorem acts_of_mem_builtin {suffix : String} {command : Command} (mem : command ∈ builtin suffix) :
    Acts around scene command.info.name arguments (command.run around arguments) := by
  -- A command of which no path is looked up leaves the scene as it is.
  have idle (none : lookups around.sandbox scene command.info.name arguments = []) :
      Acts around scene command.info.name arguments (command.run around arguments) := by
    have careful := careful_of_mem_builtin around scene arguments mem
    rw [none] at careful
    unfold Acts Ensures
    rcases careful.ends_of_lookups_nil with ⟨_, -, runs⟩ | ⟨_, runs⟩
    · rw [runs scene rfl]
      exact .nothing
    · rw [runs scene rfl]
      exact .inl rfl
  have known := mem
  simp only [builtin, files, texts, network, system, List.mem_append, List.mem_cons,
    List.not_mem_nil, or_false, or_assoc] at known
  rcases known with rfl | rfl | rfl | rfl | rfl | rfl | rfl | rfl | rfl | rfl |
      rfl | rfl | rfl | rfl | rfl | rfl | rfl | rfl | rfl | rfl |
      rfl | rfl | rfl | rfl | rfl | rfl | rfl | rfl | rfl
  · exact acts_cd around scene arguments
  · exact acts_ls around scene arguments
  · exact idle rfl
  · exact acts_mkdir around scene arguments
  · exact acts_rmdir around scene arguments
  · exact acts_touch around scene arguments
  · exact acts_rm around scene arguments
  · exact acts_cp around scene arguments
  · exact acts_mv around scene arguments
  · exact acts_cat around scene arguments
  · exact acts_echo around scene arguments
  · exact acts_grep around scene arguments
  · exact acts_head around scene arguments
  · exact acts_tail around scene arguments
  · exact acts_diff around scene arguments
  · exact idle rfl
  · exact idle rfl
  · exact idle rfl
  · exact idle rfl
  · exact idle rfl
  · exact idle rfl
  · exact idle rfl
  · exact idle rfl
  · exact idle rfl
  · exact idle rfl
  · exact idle rfl
  · exact idle rfl
  · exact idle rfl
  · exact acts_nano around scene arguments

end Commands

end ConfinedShell
