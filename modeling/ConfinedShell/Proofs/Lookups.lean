import ConfinedShell.Proofs.Careful

/-!
# The commands of the shell are careful

`Commands.lookups` lists the paths that a command has the sandbox check, as the files of a scene make it
go on: the second file of `diff` is looked up when the first one could be, and the entry that `cp` and `mv`
write to in a directory when the destination is one. Each command is shown to be careful with this list,
and only `mv` performs a move.
-/

set_option autoImplicit false

namespace ConfinedShell.Commands

/-! ## What is looked up -/

/-- The paths that the destination of a copy or a move is looked up by. -/
def destinations (sandbox : Sandbox) (scene : Scene) (source : Resolved) (input : String) :
    List VirtualPath :=
  scene.cwd.join input ::
    match sandbox.resolve scene.tree scene.cwd input, source.virtualPath.fileName? with
    | .ok place, some name =>
      if place.isDirectory scene.tree then [place.virtualPath.child name] else []
    | _, _ => []

/-- What is looked up after a path that was found good. -/
def following (sandbox : Sandbox) (scene : Scene) (input : String)
    (more : Resolved → List VirtualPath) : List VirtualPath :=
  scene.cwd.join input ::
    match sandbox.resolve scene.tree scene.cwd input with
    | .ok path => more path
    | .error _ => []

/-- **The paths that a command looks up**, given its name and its arguments. -/
def lookups (sandbox : Sandbox) (scene : Scene) : String → List String → List VirtualPath
  | "ls", [] => [scene.cwd.join "."]
  | "cd", [input] | "ls", [input] | "mkdir", [input] | "rmdir", [input] | "touch", [input]
  | "rm", [input] | "cat", [input] | "nano", [input] | "grep", [_, input] =>
    [scene.cwd.join input]
  | "head", ["-n", count, input] | "tail", ["-n", count, input] =>
    if (Text.count? count).isSome then [scene.cwd.join input] else []
  | "diff", [first, second] => following sandbox scene first fun _ => [scene.cwd.join second]
  | "cp", [first, second] =>
    following sandbox scene first fun source =>
      if !source.isDirectory scene.tree && source.isRegular scene.tree then
        destinations sandbox scene source second
      else []
  | "mv", [first, second] =>
    following sandbox scene first fun source =>
      if source.exists? scene.tree then destinations sandbox scene source second else []
  | "echo", arguments =>
    let file := Text.joinWith " " ((arguments.dropWhile (· ≠ ">")).drop 1)
    if arguments.contains ">" && file ≠ "" then [scene.cwd.join file] else []
  | _, _ => []

/-- The first path is looked up in any case. -/
theorem mem_following {sandbox : Sandbox} {scene : Scene} {input : String}
    {more : Resolved → List VirtualPath} :
    scene.cwd.join input ∈ following sandbox scene input more :=
  List.mem_cons_self

/-- A path is looked up that comes after a good one. -/
theorem mem_following_of_mem {sandbox : Sandbox} {scene : Scene} {input : String}
    {more : Resolved → List VirtualPath} {path : Resolved}
    (good : sandbox.resolve scene.tree scene.cwd input = .ok path) {other : VirtualPath}
    (mem : other ∈ more path) : other ∈ following sandbox scene input more := by
  rw [following, good]
  exact List.mem_cons_of_mem _ mem

/-- The file of `head` or `tail` is looked up when the number of lines can be read. -/
theorem mem_lookups_of_count {sandbox : Sandbox} {scene : Scene} {name count input : String} {n : Nat}
    (either : name = "head" ∨ name = "tail") (counted : Text.count? count = some n) :
    scene.cwd.join input ∈ lookups sandbox scene name ["-n", count, input] := by
  rcases either with rfl | rfl <;> simp [lookups, counted]

/-! ## Commands on files and directories -/

section

variable {looked : List VirtualPath} {moves : Prop} {scene : Scene} (around : Surroundings)

/-- The place that a copy or a move goes to is a checked path. -/
theorem careful_destination {source : Resolved} {input : String} {next : Resolved → Action Output}
    (listed : ∀ path ∈ destinations around.sandbox scene source input, path ∈ looked)
    (goesOn : ∀ place, Checked around.sandbox looked scene.tree place →
      Careful around.sandbox around.storage looked moves scene (next place)) :
    Careful around.sandbox around.storage looked moves scene (destination around source input >>= next) := by
  rw [destination, bind_assoc]
  refine .resolve (listed _ List.mem_cons_self) fun place checked good => ?_
  cases named : source.virtualPath.fileName? with
  | none => exact goesOn place checked
  | some name =>
    refine .ask (.isDirectory place)
      (fun inside => if inside then (do
          let scene ← get
          Action.ofExcept (around.sandbox.resolveVirtual scene.tree (place.virtualPath.child name)))
            >>= next else next place) checked (fun s _ => ?_) ?_
    · show ((if place.isDirectory s.tree then _ else _) >>= next) s = _
      rw [Query.answer]
      split <;> rfl
    · show Careful _ _ _ _ _ (if place.isDirectory scene.tree then _ else _)
      split
      · next inside =>
        refine .lookUp (place.virtualPath.child name) next (listed _ ?_) (fun _ _ => rfl)
          fun entry checked _ => goesOn entry checked
        rw [destinations, good, named]
        simp [inside]
      · exact goesOn place checked

/-- The entries of a checked directory are listed, or the failure to list them is told. -/
theorem careful_listing {sandbox : Sandbox} {storage : Storage} {directory : Resolved}
    (checked : Checked sandbox looked scene.tree directory) :
    Careful sandbox storage looked moves scene (do
      let scene ← get
      match directory.readDirectory storage scene.tree with
      | .error cause => Action.fail (.command ("listing error: " ++ cause.message))
      | .ok [] => return .silent
      | .ok entries => return .text (Text.joinWith "   " (listedNames entries))) := by
  refine .ask (.list directory storage) (fun listed =>
    match listed with
    | .error cause => Action.fail (.command ("listing error: " ++ cause.message))
    | .ok [] => return .silent
    | .ok entries => return .text (Text.joinWith "   " (listedNames entries))) checked
    (fun _ _ => rfl) ?_
  split
  · exact .refuse _
  · exact .done _ fun _ h => nomatch h
  · exact .done _ fun _ h => nomatch h

/-- A file that cannot be read fails to be for a reason of its own. -/
theorem isOwn_of_unread {path : Resolved} {tree : FileTree} {cause : Failure}
    (unread : path.readText tree = .error cause) : cause.IsOwn :=
  Failure.isOwn_of_told (map_eq_error.mp unread)

/-- Asks for the text behind a checked path. -/
theorem careful_query {sandbox : Sandbox} {storage : Storage} {path : Resolved} {next : String → Action Output}
    (checked : Checked sandbox looked scene.tree path)
    (goesOn : ∀ text, Careful sandbox storage looked moves scene (next text)) :
    Careful sandbox storage looked moves scene (Action.query path.readText >>= next) := by
  refine .ask (.read path) (fun text => Action.ofExcept text >>= next) checked (fun _ _ => rfl) ?_
  cases unread : Query.answer (.read path) scene.tree with
  | ok text => exact goesOn text
  | error cause => exact .fault (.failure cause) (isOwn_of_unread unread) fun _ _ => rfl

/-- The text of a file is read by a checked path. -/
theorem careful_readFile {input : String} {next : String → Action Output}
    (listed : scene.cwd.join input ∈ looked)
    (goesOn : ∀ text, Careful around.sandbox around.storage looked moves scene (next text)) :
    Careful around.sandbox around.storage looked moves scene (readFile around input >>= next) := by
  rw [readFile, bind_assoc]
  exact .resolve listed fun path checked _ => careful_query checked goesOn

end

variable {moves : Prop} (around : Surroundings) (scene : Scene) (arguments : List String)

theorem careful_cd :
    Careful around.sandbox around.storage (lookups around.sandbox scene "cd" arguments) moves scene
      (cd.run around arguments) := by
  refine .oneArgument fun input given => .resolve ?_ fun path checked _ => ?_
  · rw [given]
    exact List.mem_singleton_self _
  refine .ask (.isDirectory path) (fun inside => if inside then (do
      set { (← get) with cwd := path.virtualPath }
      return .text ("current directory: " ++ path.text))
    else Action.fail (.command ("directory does not exist: " ++ path.text))) checked
    (fun s _ => ?_) ?_
  · show (if path.isDirectory s.tree then _ else _ : Action Output) s =
      (if path.isDirectory s.tree then _ else _ : Action Output) s
    split <;> rfl
  · split
    · next inside =>
      exact .enter path (.text ("current directory: " ++ path.text)) checked inside
        (fun _ h => nomatch h) fun _ _ => rfl
    · exact .refuse _

theorem careful_ls :
    Careful around.sandbox around.storage (lookups around.sandbox scene "ls" arguments) moves scene
      (ls.run around arguments) := by
  match arguments with
  | [] => exact .resolve (List.mem_singleton_self _) fun _ checked _ => careful_listing checked
  | [path] => exact .resolve (List.mem_singleton_self _) fun _ checked _ => careful_listing checked
  | _ :: _ :: _ => exact .usage lsInfo

theorem careful_pwd :
    Careful around.sandbox around.storage (lookups around.sandbox scene "pwd" arguments) moves scene
      (pwd.run around arguments) := by
  refine .finish (.text scene.cwd.text) (fun _ h => nomatch h) fun s same => ?_
  rw [← same]
  rfl

theorem careful_mkdir :
    Careful around.sandbox around.storage (lookups around.sandbox scene "mkdir" arguments) moves scene
      (mkdir.run around arguments) := by
  refine .oneArgument fun input given => .resolve ?_ fun path checked _ => ?_
  · rw [given]
    exact List.mem_singleton_self _
  exact .perform (.createDirectory path) _ (by simpa [Operation.paths] using checked)
    (fun h => nomatch h) (fun _ h => nomatch h) fun _ => rfl

/-- What is removed is compared with the current directory only, which is the same in every scene that
the acts speak of. -/
theorem careful_rmdir :
    Careful around.sandbox around.storage (lookups around.sandbox scene "rmdir" arguments) moves scene
      (rmdir.run around arguments) := by
  refine .oneArgument fun input given => .resolve ?_ fun path checked _ => ?_
  · rw [given]
    exact List.mem_singleton_self _
  cases above : path.virtualPath.segments.isPrefixOf scene.cwd.segments with
  | true =>
    refine .fault
      (.failure (.command (path.text ++ ": is the current directory or one of its parents")))
      (Failure.isOwn_command _) fun s same => ?_
    show (if path.virtualPath.segments.isPrefixOf s.cwd.segments then _ else _ : Action Output) s = _
    rw [same, above]
    rfl
  | false =>
    refine .change (.removeDirectory path) (.text "directory removed")
      (by simpa [Operation.paths] using checked) (fun h => nomatch h) (fun _ h => nomatch h)
      fun s same => ?_
    show (if path.virtualPath.segments.isPrefixOf s.cwd.segments then _ else _ : Action Output) s = _
    rw [same, above]
    have whole : (Operation.removeDirectory path).sends? s.tree = none := rfl
    exact Operation.change_eq_attempt whole _ _

theorem careful_touch :
    Careful around.sandbox around.storage (lookups around.sandbox scene "touch" arguments) moves scene
      (touch.run around arguments) := by
  refine .oneArgument fun input given => .resolve ?_ fun path checked _ => ?_
  · rw [given]
    exact List.mem_singleton_self _
  exact .perform (.createFile path) _ (by simpa [Operation.paths] using checked)
    (fun h => nomatch h) (fun _ h => nomatch h) fun _ => rfl

theorem careful_rm :
    Careful around.sandbox around.storage (lookups around.sandbox scene "rm" arguments) moves scene
      (rm.run around arguments) := by
  refine .oneArgument fun input given => .resolve ?_ fun path checked _ => ?_
  · rw [given]
    exact List.mem_singleton_self _
  refine .ask (.isDirectory path) (fun inside => if inside then _ else _) checked
    (fun _ _ => rfl) ?_
  split
  · exact .refuse _
  · exact .perform (.removeFile path) _ (by simpa [Operation.paths] using checked)
      (fun h => nomatch h) (fun _ h => nomatch h) fun _ => rfl

/-- A file is copied when the source leads to one, and only then is the destination looked up. -/
theorem careful_cp :
    Careful around.sandbox around.storage (lookups around.sandbox scene "cp" arguments) moves scene
      (cp.run around arguments) := by
  refine .twoArguments fun first second given => .resolve ?_ fun source checked good => ?_
  · rw [given]
    exact mem_following
  refine .ask (.isDirectory source) (fun inside => if inside then _ else _) checked
    (fun _ _ => rfl) ?_
  split
  · exact .refuse _
  next noDirectory =>
  refine .ask (.isRegular source) (fun regular => if !regular then _ else _) checked
    (fun _ _ => rfl) ?_
  split
  · exact .fail fun _ same => nomatch same
  next regular =>
  refine careful_destination around (fun path mem => ?_) fun place checkedPlace => ?_
  · rw [given]
    refine mem_following_of_mem good ?_
    rw [if_pos (by simp_all [Query.answer])]
    exact mem
  · exact .copy source place _ ⟨checked, checkedPlace⟩ fun _ h => nomatch h

/-- The one command that performs a move. -/
theorem careful_mv (moving : moves) :
    Careful around.sandbox around.storage (lookups around.sandbox scene "mv" arguments) moves scene
      (mv.run around arguments) := by
  refine .twoArguments fun first second given => .resolve ?_ fun source checked good => ?_
  · rw [given]
    exact mem_following
  refine .ask (.exists? source) (fun there => if !there then _ else _) checked (fun _ _ => rfl) ?_
  split
  · exact .fail fun _ same => nomatch same
  next there =>
  refine careful_destination around (fun path mem => ?_) fun place checkedPlace => ?_
  · rw [given]
    refine mem_following_of_mem good ?_
    rw [if_pos (by simpa [Query.answer] using there)]
    exact mem
  · show Careful _ _ _ _ _ (if place = source then _ else _)
    split
    · exact .done _ fun _ h => nomatch h
    · exact .perform (.move source place) _ (by simpa [Operation.paths] using ⟨checked, checkedPlace⟩)
        (fun _ => moving) (fun _ h => nomatch h) fun _ => rfl

/-! ## Commands on text -/

theorem careful_cat :
    Careful around.sandbox around.storage (lookups around.sandbox scene "cat" arguments) moves scene
      (cat.run around arguments) := by
  refine .oneArgument fun input given => ?_
  refine careful_readFile around ?_ fun text => ?_
  · rw [given]
    exact List.mem_singleton_self _
  exact .done _ fun _ h => nomatch h

/-- Nothing is looked up unless there is a file to write to. -/
theorem careful_echo :
    Careful around.sandbox around.storage (lookups around.sandbox scene "echo" arguments) moves scene
      (echo.run around arguments) := by
  show Careful _ _ _ _ _ (if arguments.isEmpty then _ else if !arguments.contains ">" then _ else
    if Text.joinWith " " ((arguments.dropWhile (· ≠ ">")).drop 1) = "" then _ else _)
  split
  · exact .usage _
  split
  · exact .done _ fun _ h => nomatch h
  next written =>
  split
  · exact .usage _
  next named =>
  refine .resolve ?_ fun path checked _ => ?_
  · show _ ∈ if _ then _ else _
    rw [if_pos (by simp_all)]
    exact List.mem_singleton_self _
  · exact .send path _ _ checked fun _ h => nomatch h

/-- Some lines, as an output, ask for no editor. -/
theorem linesOutput_ne_edit (lines : List String) (path : Resolved) :
    linesOutput lines ≠ .edit path := by
  cases lines <;> exact fun h => nomatch h

theorem careful_grep :
    Careful around.sandbox around.storage (lookups around.sandbox scene "grep" arguments) moves scene
      (grep.run around arguments) := by
  refine .twoArguments fun pattern file given => ?_
  refine careful_readFile around ?_ fun text => ?_
  · rw [given]
    exact List.mem_singleton_self _
  exact .done _ (linesOutput_ne_edit _)

/-- A number of lines and a file are taken. -/
theorem careful_countAndFile {sandbox : Sandbox} {storage : Storage} {looked : List VirtualPath} {moves : Prop}
    {scene : Scene} {info : CommandInfo} {arguments : List String}
    {next : Nat × String → Action Output}
    (goesOn : ∀ count file n, arguments = ["-n", count, file] → Text.count? count = some n →
      Careful sandbox storage looked moves scene (next (n, file))) :
    Careful sandbox storage looked moves scene (countAndFile info arguments >>= next) := by
  unfold countAndFile
  split
  · next count file =>
    cases counted : Text.count? count with
    | none => exact .usage info
    | some n => exact goesOn count file n rfl counted
  · exact .usage info

theorem careful_head :
    Careful around.sandbox around.storage (lookups around.sandbox scene "head" arguments) moves scene
      (head.run around arguments) := by
  refine careful_countAndFile fun count file n given counted => ?_
  subst given
  exact careful_readFile around (mem_lookups_of_count (.inl rfl) counted) fun text =>
    .done _ (linesOutput_ne_edit _)

theorem careful_tail :
    Careful around.sandbox around.storage (lookups around.sandbox scene "tail" arguments) moves scene
      (tail.run around arguments) := by
  refine careful_countAndFile fun count file n given counted => ?_
  subst given
  exact careful_readFile around (mem_lookups_of_count (.inr rfl) counted) fun text =>
    .done _ (linesOutput_ne_edit _)

/-- Two paths are asked about at once. -/
theorem careful_unlessRegular {sandbox : Sandbox} {storage : Storage} {looked : List VirtualPath} {moves : Prop}
    {scene : Scene} {left right : Resolved} {missing found : Action Output}
    (checked : Checked sandbox looked scene.tree left)
    (checkedRight : Checked sandbox looked scene.tree right)
    (ends : Careful sandbox storage looked moves scene missing)
    (goesOn : Careful sandbox storage looked moves scene found) :
    Careful sandbox storage looked moves scene (do
      let scene ← get
      if !left.isRegular scene.tree || !right.isRegular scene.tree then missing else found) := by
  refine .ask (.isRegular left) (fun regular => do
    let scene ← get
    if !regular || !right.isRegular scene.tree then missing else found) checked (fun _ _ => rfl) ?_
  refine .ask (.isRegular right) (fun regular =>
    if !Query.answer (.isRegular left) scene.tree || !regular then missing else found) checkedRight
    (fun _ _ => rfl) ?_
  split
  · exact ends
  · exact goesOn

/-- Both files are looked up before either is read. -/
theorem careful_diff :
    Careful around.sandbox around.storage (lookups around.sandbox scene "diff" arguments) moves scene
      (diff.run around arguments) := by
  refine .twoArguments fun first second given => .resolve ?_ fun left checked good => ?_
  · rw [given]
    exact mem_following
  refine .resolve ?_ fun right checkedRight _ => ?_
  · rw [given]
    exact mem_following_of_mem good (List.mem_singleton_self _)
  refine careful_unlessRegular checked checkedRight (.refuse _) ?_
  refine careful_query checked fun leftText => careful_query checkedRight fun rightText => ?_
  split
  · exact .done _ fun _ h => nomatch h
  · exact .done _ fun _ h => nomatch h

/-! ## Commands on the shell, the system and the network -/

theorem careful_nano :
    Careful around.sandbox around.storage (lookups around.sandbox scene "nano" arguments) moves scene
      (nano.run around arguments) := by
  refine .oneArgument fun input given => .resolve ?_ fun path checked _ => ?_
  · rw [given]
    exact List.mem_singleton_self _
  refine .ask (.isDirectory path) (fun inside => if inside then _ else _) checked
    (fun _ _ => rfl) ?_
  split
  · exact .refuse _
  · refine .finish (.edit path) (fun other asked => ?_) fun _ _ => rfl
    cases asked
    exact checked

section

variable {looked : List VirtualPath}

theorem careful_fixedAnswers (info : CommandInfo) (answers : List (String × String)) :
    Careful around.sandbox around.storage looked moves scene
      ((fixedAnswers info answers).run around arguments) := by
  refine .oneArgument fun argument _ => ?_
  split
  · exact .done _ fun _ h => nomatch h
  · exact .usage _

theorem careful_history : Careful around.sandbox around.storage looked moves scene
    (history.run around arguments) := by
  unfold history
  dsimp only
  split
  · exact .done _ fun _ h => nomatch h
  · exact .done _ fun _ h => nomatch h

theorem careful_help : Careful around.sandbox around.storage looked moves scene (help.run around arguments) := by
  unfold help
  dsimp only
  split
  · rw [pure_bind]
    split
    · exact .refuse _
    · exact .done _ fun _ h => nomatch h
  · rw [pure_bind]
    split
    · exact .refuse _
    · exact .done _ fun _ h => nomatch h
  · exact .usage helpInfo

theorem careful_systemctl : Careful around.sandbox around.storage looked moves scene
    (systemctl.run around arguments) := by
  unfold systemctl
  dsimp only
  split
  · exact .done _ fun _ h => nomatch h
  · exact .usage _

theorem careful_df : Careful around.sandbox around.storage looked moves scene (df.run around arguments) := by
  unfold df
  dsimp only
  split
  · exact .done _ fun _ h => nomatch h
  · exact .usage _

theorem careful_cal : Careful around.sandbox around.storage looked moves scene (cal.run around arguments) := by
  unfold cal
  dsimp only
  split
  · exact .done _ fun _ h => nomatch h
  · exact .refuse _

theorem careful_ping (suffix : String) : Careful around.sandbox around.storage looked moves scene
    ((ping suffix).run around arguments) := by
  refine .oneArgument fun host _ => ?_
  split
  · exact .done _ fun _ h => nomatch h
  · exact .done _ fun _ h => nomatch h

theorem careful_ssh (suffix : String) : Careful around.sandbox around.storage looked moves scene
    ((ssh suffix).run around arguments) := by
  refine .oneArgument fun target _ => ?_
  split
  · exact .usage _
  · split
    · exact .done _ fun _ h => nomatch h
    · exact .done _ fun _ h => nomatch h

end

/-- **Every command of the shell is careful**, and only `mv` moves anything. -/
theorem careful_of_mem_builtin {suffix : String} {command : Command}
    (mem : command ∈ builtin suffix) :
    Careful around.sandbox around.storage (lookups around.sandbox scene command.info.name arguments)
      (command.info.name = "mv") scene (command.run around arguments) := by
  simp only [builtin, files, texts, network, system, List.mem_append, List.mem_cons,
    List.not_mem_nil, or_false, or_assoc] at mem
  rcases mem with rfl | rfl | rfl | rfl | rfl | rfl | rfl | rfl | rfl | rfl |
      rfl | rfl | rfl | rfl | rfl | rfl | rfl | rfl | rfl | rfl |
      rfl | rfl | rfl | rfl | rfl | rfl | rfl | rfl | rfl
  · exact careful_cd around scene arguments
  · exact careful_ls around scene arguments
  · exact careful_pwd around scene arguments
  · exact careful_mkdir around scene arguments
  · exact careful_rmdir around scene arguments
  · exact careful_touch around scene arguments
  · exact careful_rm around scene arguments
  · exact careful_cp around scene arguments
  · exact careful_mv around scene arguments rfl
  · exact careful_cat around scene arguments
  · exact careful_echo around scene arguments
  · exact careful_grep around scene arguments
  · exact careful_head around scene arguments
  · exact careful_tail around scene arguments
  · exact careful_diff around scene arguments
  · exact .done _ fun _ h => nomatch h
  · exact .done _ fun _ h => nomatch h
  · exact careful_ping around scene arguments suffix
  · exact careful_ssh around scene arguments suffix
  · exact .done _ fun _ h => nomatch h
  · exact careful_fixedAnswers around scene arguments _ _
  · exact careful_fixedAnswers around scene arguments _ _
  · exact careful_systemctl around scene arguments
  · exact careful_df around scene arguments
  · exact careful_cal around scene arguments
  · exact .done _ fun _ h => nomatch h
  · exact careful_history around scene arguments
  · exact careful_help around scene arguments
  · exact careful_nano around scene arguments

end ConfinedShell.Commands
