import ConfinedShell.Proofs.Elsewhere

/-!
# A run hides the outside

Two runs of one script that start in alike trees cannot be told apart. A careful command asks about
checked paths alone and gets the same answers (`Careful.alike`), an editor opens on the same lines, and what it
writes goes to the same file. So a sound terminal is mirrored over an alike tree, in the same sandbox and by the
same paths (`Terminal.mirror_alike`). What a run shows and remembers, and the subtree that it leaves at the root,
are the same (`Terminal.run_hides_outside`). That the script fits is asked of one of the runs only.
-/

set_option autoImplicit false

namespace ConfinedShell

open FileTree (Alike)

/-! ## One command -/

/-- A question about a confined path is answered in the same way. -/
theorem Query.answer_eq {α : Type} {sandbox : Sandbox} {tree other : FileTree} (query : Query α)
    (confined : query.path.Confined sandbox tree) (alike : Alike sandbox.root tree other) :
    query.answer other = query.answer tree := by
  cases query with
  | exists? path => exact Resolved.exists?_eq alike path
  | isDirectory path => exact Resolved.isDirectory_eq alike path
  | isRegular path => exact Resolved.isRegular_eq alike path
  | list path storage => exact Resolved.Confined.readDirectory_eq confined alike storage
  | read path => exact Resolved.Confined.readText_eq confined alike

/-- The same sandbox, and the same paths in it. -/
def Elsewhere.still (sandbox : Sandbox) : Elsewhere :=
  ⟨sandbox, id, id, fun _ => rfl, fun _ => rfl⟩

/-- Where nothing but the tree differs, the output is the same. -/
theorem SameResult.still {sandbox : Sandbox} {related : FileTree → FileTree → Prop} (output : Output)
    {scene other : Scene} (cwd : other.cwd = scene.cwd) (same : related scene.tree other.tree) :
    SameResult (.still sandbox) related (.ok output scene) (.ok output other) := by
  have kept : output.elsewhere (.still sandbox) = output := by cases output <;> rfl
  have ends : SameResult (.still sandbox) related (.ok output scene)
      (.ok (output.elsewhere (.still sandbox)) other) := .ok output cwd same
  rwa [kept] at ends

/-- **A careful command does the same** in alike trees, when the paths that it looks up fit. -/
theorem Careful.alike {sandbox : Sandbox} {storage : Storage} {looked : List VirtualPath} {moves : Prop}
    {scene other : Scene} {action : Action Output}
    (careful : Careful sandbox storage looked moves scene action) (stands : sandbox.Stands scene.tree)
    (fits : ∀ path ∈ looked, sandbox.Fits path) (cwd : other.cwd = scene.cwd)
    (alike : Alike sandbox.root scene.tree other.tree) :
    SameResult (.still sandbox) (Alike sandbox.root) (action scene) (action other) := by
  have secure {path : Resolved} (checked : Checked sandbox looked scene.tree path) :
      path.Secure sandbox scene.tree :=
    Resolved.secure_of_fits (fits _ checked.listed) stands checked.good
  induction careful with
  | finish output checked runs =>
    rw [runs scene rfl, runs other cwd]
    exact .still output cwd alike
  | fault cause own runs =>
    rw [runs scene rfl, runs other cwd]
    exact .error cause cwd alike
  | lookUp path next listed runs goesOn ih =>
    rw [runs scene rfl, runs other cwd, Sandbox.resolveVirtual_eq alike]
    cases resolved : sandbox.resolveVirtual scene.tree path with
    | error cause => exact .error (.failure cause) cwd alike
    | ok good =>
      have same := (Sandbox.resolveVirtual_ok resolved).1
      exact ih good ⟨same ▸ listed, same ▸ resolved⟩ resolved
  | ask query next checked runs goesOn ih =>
    rw [runs scene rfl, runs other cwd, query.answer_eq ((secure checked).confined stands) alike]
    exact ih
  | enter path output checked isDirectory noEditor runs =>
    rw [runs scene rfl, runs other cwd]
    exact .still output rfl alike
  | change operation output checked moving noEditor runs =>
    rw [runs scene rfl, runs other cwd]
    have ends := operation.attempt_alike (fun path mem => secure (checked path mem))
      (fun path mem => (checked path mem).good) stands alike storage.trouble
    cases left : operation.attempt storage.trouble scene.tree with
    | mk tree outcome =>
      cases left' : operation.attempt storage.trouble other.tree with
      | mk tree' outcome' =>
        rw [left, left'] at ends
        obtain ⟨same, rfl⟩ := ends
        cases outcome' with
        | error cause =>
          rw [Action.attempt_of_error left, Action.attempt_of_error left']
          exact .error _ cwd same
        | ok done =>
          rw [Action.attempt_of_ok left, Action.attempt_of_ok left']
          exact .still output cwd same

/-! ## A run -/

/-- A session with another tree. -/
def Session.withTree {σ : Type} (session : Session σ) (tree : FileTree) : Session σ :=
  { session with scene := { session.scene with tree } }

namespace Terminal

/-- **A sound terminal is mirrored over alike trees.** -/
theorem mirror_alike (sandbox : Sandbox) : Mirror (.still sandbox) (Alike sandbox.root)
    fun terminal => terminal.Sound ∧ terminal.session.sandbox = sandbox where
  dispatch {terminal line name arguments other} isSound fits tokens alike := by
    obtain ⟨sound, rfl⟩ := isSound
    obtain ⟨suffix, builtin⟩ := sound.builtin
    rw [Session.Fits, Session.lookups, tokens] at fits
    have same : ((terminal.session.noted (Text.trim line)).elsewhere (.still terminal.session.sandbox)
        other).registry = (terminal.session.noted (Text.trim line)).registry := rfl
    unfold Session.dispatch
    rw [same]
    cases found : (terminal.session.noted (Text.trim line)).registry.find? name with
    | none => exact .error _ rfl alike
    | some command =>
      have inSandbox : ((terminal.session.noted (Text.trim line)).surroundings terminal.now).sandbox =
        terminal.session.sandbox := rfl
      have careful := Session.careful_of_find? builtin found inSandbox arguments terminal.session.scene
      exact careful.alike sound.stands fits rfl alike
  opens {terminal line path other} isSound fits requested alike := by
    obtain ⟨sound, rfl⟩ := isSound
    have leaves := sound.leaves fits
    rw [← leaves.sandbox] at alike
    obtain ⟨editor, opened, -⟩ :=
      Editor.exists_openOn path (terminal.session.process terminal.now line).scene.tree
    refine ⟨editor, opened, ?_⟩
    exact (Editor.openOn_eq (leaves.secure path requested).leadsInside alike).trans opened
  writes {terminal editor other} isSound opened alike bytes := by
    obtain ⟨sound, rfl⟩ := isSound
    exact ((sound.secure editor opened).confined sound.stands).write_alike sound.stands alike bytes
  tick isSound := ⟨isSound.1.tick, isSound.2⟩
  shut isSound := ⟨isSound.1.shut, isSound.2⟩
  step {terminal received _} isSound fits _ := by
    have kept := step_keeps isSound.1 fits
    exact ⟨kept.sound, kept.sandbox.trans isSound.2⟩

/-- **What a run shows and leaves in the sandbox does not depend on the contents outside.** Two runs of
one script, whose files are at first the same but for the contents of files outside of the root, write
the same to the screen, end in the same way, remember the same, and leave the same subtree at the root. On a page they
write the same pieces, and all of it holds wherever a write breaks off. -/
theorem run_hides_outside {sandbox : Sandbox} {tree other : FileTree}
    {suffix hostname prompt : String} {clock : Clock} {now : Moment} {storage : Nat → Storage} {lags : Nat → Nat}
    {script : List Received} (stands : sandbox.Stands tree) (alike : Alike sandbox.root tree other) :
    let terminal := start (Session.start ⟨Commands.builtin suffix⟩ sandbox clock tree Listener.start storage)
      hostname prompt now lags
    let terminal' := start (Session.start ⟨Commands.builtin suffix⟩ sandbox clock other Listener.start storage)
      hostname prompt now lags
    (terminal.Fits script →
      let run := terminal.run script
      let run' := terminal'.run script
      run'.screen = run.screen ∧ run'.failure = run.failure ∧
        LeftAlike sandbox.root sandbox.root run.terminal run'.terminal) ∧
    ∀ writer page, terminal.FitsOn writer page script →
      let run := terminal.runOn writer page script
      let run' := terminal'.runOn writer page script
      run'.page = run.page ∧ run'.failure = run.failure ∧
        LeftAlike sandbox.root sandbox.root run.terminal run'.terminal := by
  intro terminal terminal'
  have sound : terminal.Sound := ⟨⟨suffix, rfl⟩, stands, (fun _ is => nomatch is), rfl⟩
  have mirror := mirror_alike sandbox
  refine ⟨fun fits => ?_, fun writer page fits => ?_⟩
  · obtain ⟨left, same, alike⟩ := mirror.run ⟨sound, rfl⟩ fits alike
    have runs : terminal'.run script = _ := same
    rw [runs]
    exact ⟨rfl, rfl, rfl, rfl, rfl, alike.inside⟩
  · obtain ⟨left, same, alike⟩ := mirror.runOn ⟨sound, rfl⟩ fits alike
    have runs : terminal'.runOn writer page script = _ := same
    rw [runs]
    exact ⟨rfl, rfl, rfl, rfl, rfl, alike.inside⟩

end Terminal

/-! ## A secret that is not told -/

/-- The two trees differ in the secret alone. -/
theorem MovedLink.alike (secret other : String) :
    Alike MovedLink.sandbox.root (MovedLink.tree secret) (MovedLink.tree other) := by
  have isFile : (MovedLink.tree secret).kindAt? ["outside", "secret.txt"] =
      some (.file (Text.encode secret)) := rfl
  exact Alike.put_file isFile (Text.encode other) (by decide) (by decide)

/-- A script that moves a link and tries to read the secret behind it shows nothing of the secret, also when the editor
cannot greet. -/
theorem Terminal.run_hides_outside_of_moved_link :
    let run := (MovedLink.terminal "top secret").run MovedLink.script
    let run' := (MovedLink.terminal "another one").run MovedLink.script
    let cut := (MovedLink.terminal "top secret").runOn (.breaking 11) [] MovedLink.script
    let cut' := (MovedLink.terminal "another one").runOn (.breaking 11) [] MovedLink.script
    ((MovedLink.terminal "top secret").Fits MovedLink.script ∧
        run'.screen = run.screen ∧ run'.failure = run.failure ∧
          LeftAlike MovedLink.sandbox.root MovedLink.sandbox.root run.terminal run'.terminal) ∧
      (MovedLink.terminal "top secret").FitsOn (.breaking 11) [] MovedLink.script ∧
        cut'.page = cut.page ∧ cut'.failure = cut.failure ∧
          LeftAlike MovedLink.sandbox.root MovedLink.sandbox.root cut.terminal cut'.terminal := by
  have fits : (MovedLink.terminal "top secret").Fits MovedLink.script := by decide +kernel
  have fitsOn : (MovedLink.terminal "top secret").FitsOn (.breaking 11) [] MovedLink.script := by decide +kernel
  have alike := MovedLink.alike "top secret" "another one"
  unfold MovedLink.terminal MovedLink.session at fits fitsOn ⊢
  obtain ⟨hidden, hiddenOn⟩ := Terminal.run_hides_outside (MovedLink.stands "top secret") alike
  exact ⟨⟨fits, hidden fits⟩, fitsOn, hiddenOn _ _ fitsOn⟩

end ConfinedShell
