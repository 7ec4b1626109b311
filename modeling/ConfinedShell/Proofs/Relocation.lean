import ConfinedShell.Proofs.BareCommands

/-!
# A sandbox may live anywhere

Nothing that a run shows tells where the sandbox lives. A terminal over a sandbox that holds a subtree is mirrored
by the one over the bare sandbox, whose tree is the subtree (`Terminal.mirror_bare`): commands end in the same way
there, and so do the editor and what it writes. Two runs of one script over the same subtree, at whatever locations
and in whatever trees, are therefore mirrored by the same run. They show the same, remember the same and leave the
same subtree (`Terminal.run_anywhere`).
-/

set_option autoImplicit false

namespace ConfinedShell

namespace Terminal

variable {terminal : Terminal} {sandbox : Sandbox} {other : FileTree}

/-- **A lodged terminal**: it is sound, in the sandbox, and the path of an open editor is spelt and fits. -/
structure Lodged (sandbox : Sandbox) (terminal : Terminal) : Prop where
  sound : terminal.Sound
  inSandbox : terminal.session.sandbox = sandbox
  editor : ∀ editor, terminal.editor = some editor →
    editor.path = sandbox.spelt editor.path.virtualPath ∧ sandbox.Fits editor.path.virtualPath

theorem Lodged.tick (lodged : Lodged sandbox terminal) : Lodged sandbox terminal.tick :=
  ⟨lodged.sound.tick, lodged.inSandbox, lodged.editor⟩

theorem Lodged.shut (lodged : Lodged sandbox terminal) : Lodged sandbox terminal.shut :=
  ⟨lodged.sound.shut, lodged.inSandbox, fun _ opened => by cases opened⟩

/-- A line that asks for an editor leaves everything as it was, and the path is spelt and fits. -/
theorem Lodged.asked (lodged : Lodged sandbox terminal) {line : String} (fits : terminal.session.Fits line)
    {path : Resolved} (requested : (terminal.session.process terminal.now line).editorRequest = some path) :
    (terminal.session.process terminal.now line).scene = terminal.session.scene ∧
      (sandbox.Linkless terminal.session.scene.tree → path = sandbox.spelt path.virtualPath) ∧
      sandbox.Fits path.virtualPath := by
  obtain ⟨suffix, builtin⟩ := lodged.sound.builtin
  obtain ⟨kept, checked⟩ := Session.checked_of_request builtin lodged.sound.unasked requested
  rw [← lodged.inSandbox]
  exact ⟨kept, fun linkless => linkless.eq_spelt checked.good, fits _ checked.listed⟩

/-- An editor opens on the same lines in the subtree alone. -/
theorem opensAlike_bare {tree sub : FileTree} (holds : sandbox.Holds tree sub) {path : VirtualPath}
    (fits : sandbox.Fits path) : OpensAlike (.bare sandbox.root) tree sub (sandbox.spelt path) := by
  obtain ⟨editor, opened, -⟩ := Editor.exists_openOn (sandbox.spelt path) tree
  refine ⟨editor, opened, ?_⟩
  have carried : (Elsewhere.bare sandbox.root).carry (sandbox.spelt path) = Sandbox.bare.spelt path := rfl
  rw [Editor.openOn, holds.isRegular fits, holds.readText fits] at opened
  rw [carried, Editor.openOn]
  split at opened
  · next regular =>
    rw [if_pos regular]
    cases read : (Sandbox.bare.spelt path).readText sub with
    | error cause =>
      rw [read] at opened
      cases opened
    | ok text =>
      rw [read] at opened
      cases opened
      rfl
  · next irregular =>
    rw [if_neg irregular]
    cases opened
    rfl

/-- **A step leaves a terminal lodged.** -/
theorem Lodged.step (lodged : Lodged sandbox terminal) {received : Received}
    (fits : ∀ line ∈ terminal.submitted? received, terminal.session.Fits line)
    (linkless : sandbox.Linkless terminal.session.scene.tree) : Lodged sandbox (terminal.step received).1 := by
  have kept := step_keeps lodged.sound fits
  refine ⟨kept.sound, kept.sandbox.trans lodged.inSandbox, fun editor opened => ?_⟩
  cases before : terminal.editor with
  | some earlier =>
    rw [step_of_open before, stepEditor] at opened
    dsimp only at opened
    split at opened
    · next goesOn =>
      cases opened
      rw [Editor.path_of_goesOn goesOn]
      exact lodged.editor earlier before
    · cases opened
  | none =>
    cases received with
    | malformed =>
      rw [step_malformed before, before] at opened
      cases opened
    | line text =>
      rw [step_of_closed before] at opened
      cases typed : Arrow.parse? text with
      | some arrows =>
        rw [stepPrompt, typed] at opened
        exact lodged.editor editor opened
      | none =>
        obtain ⟨line, submits⟩ := exists_submitted before typed
        rw [stepPrompt_of_submitted submits] at opened
        cases broke : (terminal.session.handle terminal.now line).2 with
        | true =>
          rw [runLine_of_broke broke] at opened
          cases before.symm.trans opened
        | false =>
          rw [runLine_of_returned broke] at opened
          rcases editor_conclude opened with already | requested
          · cases before.symm.trans already
          · obtain ⟨-, spelt, fit⟩ := lodged.asked (fits line submits) requested
            exact ⟨spelt linkless, fit⟩

/-- **A lodged terminal is mirrored in the bare sandbox.** -/
theorem mirror_bare (sandbox : Sandbox) : Mirror (.bare sandbox.root) sandbox.Holds (Lodged sandbox) where
  dispatch {terminal line name arguments other} lodged fits tokens holds := by
    obtain ⟨suffix, builtin⟩ := lodged.sound.builtin
    rw [Session.Fits, Session.lookups, tokens] at fits
    have same : ((terminal.session.noted (Text.trim line)).elsewhere (.bare sandbox.root) other).registry =
        (terminal.session.noted (Text.trim line)).registry := rfl
    have commands : (terminal.session.noted (Text.trim line)).registry = ⟨Commands.builtin suffix⟩ := builtin
    unfold Session.dispatch
    rw [same, commands]
    cases found : Registry.find? ⟨Commands.builtin suffix⟩ name with
    | none => exact .error _ rfl holds
    | some command =>
      have named : command.info.name = name := by simpa using List.find?_some found
      obtain rfl := lodged.inSandbox
      subst named
      let around := (terminal.session.noted (Text.trim line)).surroundings terminal.now
      have held : around.sandbox.Holds terminal.session.scene.tree other := holds
      exact Commands.mirrored_of_mem_builtin held (List.mem_of_find?_eq_some found) fits
  opens {terminal line path other} lodged fits requested holds := by
    obtain ⟨kept, spelt, fit⟩ := lodged.asked fits requested
    have here : sandbox.Linkless terminal.session.scene.tree := kept ▸ holds.linkless
    rw [spelt here]
    exact opensAlike_bare holds fit
  writes {terminal editor other} lodged opened holds bytes := by
    obtain ⟨spelt, fits⟩ := lodged.editor editor opened
    have suits : (Operation.write editor.path bytes).Suits sandbox := by
      refine Operation.suits_of_paths _ [editor.path.virtualPath] ?_ (List.forall_mem_singleton.mpr fits)
        fun moving => by cases moving
      exact congrArg (fun path => [path]) spelt
    exact holds.perform suits
  tick lodged := lodged.tick
  shut lodged := lodged.shut
  step {terminal received _} lodged fits holds := lodged.step fits holds.linkless

/-! ## Runs -/

/-- A terminal that starts over a sandbox is lodged there, -/
theorem lodged_start {tree sub : FileTree} {suffix hostname prompt : String} {clock : Clock} {now : Moment}
    {storage : Nat → Storage} {lags : Nat → Nat} (holds : sandbox.Holds tree sub) :
    Lodged sandbox (start (Session.start ⟨Commands.builtin suffix⟩ sandbox clock tree Listener.start storage)
      hostname prompt now lags) :=
  ⟨⟨⟨suffix, rfl⟩, holds.linkless.stands, (fun _ is => nomatch is), rfl⟩, rfl, fun _ is => nomatch is⟩

/-- and what two terminals leave is alike when what they leave in the bare sandbox is the same. -/
theorem leftAlike_of_bare {here there : Sandbox} {one other : Terminal} {left left' : FileTree}
    (found : one.session.scene.tree.at? here.root = some left)
    (found' : other.session.scene.tree.at? there.root = some left')
    (same : other.elsewhere (.bare there.root) left' = one.elsewhere (.bare here.root) left) :
    LeftAlike here.root there.root one other := by
  have sessions : other.session.elsewhere (.bare there.root) left' = one.session.elsewhere (.bare here.root) left :=
    congrArg Terminal.session same
  have scenes := congrArg Session.scene sessions
  have histories := congrArg Session.history sessions
  have transcripts := congrArg Session.transcript sessions
  obtain ⟨trees, directories⟩ := Scene.mk.inj scenes
  exact ⟨directories, histories, transcripts, by rw [found, found', trees]⟩

/-- **What a run shows and leaves does not depend on where the sandbox lives.** Two runs of one script over the
same subtree without links, each at a location of its own in a tree of its own, write the same to the screen, end
in the same way, remember the same, and leave the same subtree. So no message tells a part of a physical path.
What the storage does with the subtree is to be the same: its order of the entries, and the trouble that it gives. On a
page the runs write the same pieces, and all of it holds wherever a write breaks off. -/
theorem run_anywhere {here there : Sandbox} {tree other sub : FileTree} {suffix hostname prompt : String}
    {clock : Clock} {now : Moment} {storage storage' : Nat → Storage} {lags : Nat → Nat}
    {script : List Received}
    (sameStorage : ∀ line, (storage line).below here.root = (storage' line).below there.root)
    (holds : here.Holds tree sub) (holds' : there.Holds other sub) :
    let terminal := start (Session.start ⟨Commands.builtin suffix⟩ here clock tree Listener.start storage)
      hostname prompt now lags
    let terminal' := start (Session.start ⟨Commands.builtin suffix⟩ there clock other Listener.start storage')
      hostname prompt now lags
    (terminal.Fits script → terminal'.Fits script →
      let run := terminal.run script
      let run' := terminal'.run script
      run'.screen = run.screen ∧ run'.failure = run.failure ∧
        LeftAlike here.root there.root run.terminal run'.terminal) ∧
    ∀ writer page, terminal.FitsOn writer page script → terminal'.FitsOn writer page script →
      let run := terminal.runOn writer page script
      let run' := terminal'.runOn writer page script
      run'.page = run.page ∧ run'.failure = run.failure ∧
        LeftAlike here.root there.root run.terminal run'.terminal := by
  intro terminal terminal'
  have lodged : Lodged here terminal := lodged_start holds
  have lodged' : Lodged there terminal' := lodged_start holds'
  -- Both are mirrored by one terminal over the bare sandbox, because the storage below the roots is the same.
  have bare : terminal'.elsewhere (.bare there.root) sub = terminal.elsewhere (.bare here.root) sub := by
    have below : (fun line => (storage' line).below there.root) = fun line => (storage line).below here.root :=
      (funext sameStorage).symm
    exact congrArg (fun storage => start
      (Session.start ⟨Commands.builtin suffix⟩ Sandbox.bare clock sub Listener.start storage) hostname prompt now lags)
      below
  refine ⟨fun fits fits' => ?_, fun writer page fits fits' => ?_⟩
  · obtain ⟨left, same, kept⟩ := (mirror_bare here).run lodged fits holds
    obtain ⟨left', same', kept'⟩ := (mirror_bare there).run lodged' fits' holds'
    rw [bare] at same'
    have runs := same'.symm.trans same
    have screens := congrArg Run.screen runs
    have failures := congrArg Run.failure runs
    have terminals := congrArg Run.terminal runs
    exact ⟨screens, failures, leftAlike_of_bare kept.held kept'.held terminals⟩
  · obtain ⟨left, same, kept⟩ := (mirror_bare here).runOn lodged fits holds
    obtain ⟨left', same', kept'⟩ := (mirror_bare there).runOn lodged' fits' holds'
    rw [bare] at same'
    have runs := same'.symm.trans same
    have pages := congrArg Sitting.page runs
    have failures := congrArg Sitting.failure runs
    have terminals := congrArg Sitting.terminal runs
    exact ⟨pages, failures, leftAlike_of_bare kept.held kept'.held terminals⟩

end Terminal

/-! ## Two lodgings -/

namespace Lodging

/-- A directory with one file. -/
def content : FileTree :=
  .directory [("note", .file (Text.encode "one\n"))]

/-- The directory at the end of a long way. -/
def far : FileTree :=
  .directory [("etc", .directory []), ("srv", .directory [("box", .directory [("7", content)])])]

/-- The same directory, next to the top. -/
def near : FileTree :=
  .directory [("home", content), ("secret", .file [])]

/-- A directory and two files are made, and much is asked for that fails. -/
def script : List Received :=
  [.line "cat lost", .line "mkdir a", .line "ls", .line "cp note a", .line "cp note a", .line "mv / a", .line "rmdir a",
   .line "cd a", .line "cat note/x", .line "nano letter", .line "dear", .line ":wq", .line "rm ."]

/-- A storage that lists the names in an order of its own, and that has no room left for the fourth line. -/
def storage (line : Nat) : Storage where
  trouble := if line = 4 then some ⟨some 2, .noSpace⟩ else none
  rank _ name := name.length

theorem wellFormed : content.WellFormed := by
  refine FileTree.wellFormed_directory ⟨by simp, by simp [PlainName]⟩ fun name node found => ?_
  rw [Entries.find?] at found
  split at found
  · cases found
    exact FileTree.wellFormed_file _
  · cases found

theorem noLink (location : Location) (target : String) : content.at? location ≠ some (.link target) := by
  intro isLink
  cases location with
  | nil => cases isLink
  | cons name rest =>
    obtain ⟨node, found, below⟩ := Option.bind_eq_some_iff.mp isLink
    rw [Entries.find?] at found
    split at found
    · cases found
      cases rest <;> cases below
    · cases found

/-- A sandbox over the directory holds it. -/
theorem holds {sandbox : Sandbox} {tree : FileTree} (plain : ∀ name ∈ sandbox.root, PlainName name)
    (taken : ∀ name ∈ sandbox.root, HostName name) (held : tree.at? sandbox.root = some content) :
    sandbox.Holds tree content := by
  refine ⟨⟨⟨plain, _, held⟩, ?_⟩, taken, held, wellFormed⟩
  rintro location target ⟨rest, rfl⟩ isLink
  have stands := FileTree.kindAt?_eq_link.mp isLink
  rw [FileTree.at?_under held] at stands
  exact noLink rest target stands

/-- The terminal over a lodging. -/
def terminal (sandbox : Sandbox) (tree : FileTree) : Terminal :=
  .start (Session.start ⟨Commands.builtin ""⟩ sandbox (Clock.fixed ⟨2024, 1, 1, 0, 0, 0⟩ 0) tree Listener.start storage)
    "host" "$ " 0

end Lodging

/-- A script that makes, copies and edits files and fails in many ways, for want of room as well, does the same in both
lodgings, also when the editor cannot tell that it has saved the file. -/
theorem Terminal.run_anywhere_of_lodgings :
    let far := Lodging.terminal ⟨["srv", "box", "7"]⟩ Lodging.far
    let near := Lodging.terminal ⟨["home"]⟩ Lodging.near
    let run := far.run Lodging.script
    let run' := near.run Lodging.script
    let cut := far.runOn (.breaking 31) [] Lodging.script
    let cut' := near.runOn (.breaking 31) [] Lodging.script
    ((far.Fits Lodging.script ∧ near.Fits Lodging.script) ∧
        run'.screen = run.screen ∧ run'.failure = run.failure ∧
          LeftAlike ["srv", "box", "7"] ["home"] run.terminal run'.terminal) ∧
      (far.FitsOn (.breaking 31) [] Lodging.script ∧ near.FitsOn (.breaking 31) [] Lodging.script) ∧
        cut'.page = cut.page ∧ cut'.failure = cut.failure ∧
          LeftAlike ["srv", "box", "7"] ["home"] cut.terminal cut'.terminal := by
  have fits : (Lodging.terminal ⟨["srv", "box", "7"]⟩ Lodging.far).Fits Lodging.script := by decide +kernel
  have fits' : (Lodging.terminal ⟨["home"]⟩ Lodging.near).Fits Lodging.script := by decide +kernel
  have fitsOn : (Lodging.terminal ⟨["srv", "box", "7"]⟩ Lodging.far).FitsOn (.breaking 31) [] Lodging.script := by
    decide +kernel
  have fitsOn' : (Lodging.terminal ⟨["home"]⟩ Lodging.near).FitsOn (.breaking 31) [] Lodging.script := by
    decide +kernel
  have holds : (⟨["srv", "box", "7"]⟩ : Sandbox).Holds Lodging.far Lodging.content :=
    Lodging.holds (by simp [PlainName]) (by unfold HostName; decide) rfl
  have holds' : (⟨["home"]⟩ : Sandbox).Holds Lodging.near Lodging.content :=
    Lodging.holds (by simp [PlainName]) (by unfold HostName; decide) rfl
  have sameStorage (line : Nat) : (Lodging.storage line).below (Sandbox.mk ["srv", "box", "7"]).root =
      (Lodging.storage line).below (Sandbox.mk ["home"]).root := rfl
  unfold Lodging.terminal at fits fits' fitsOn fitsOn' ⊢
  obtain ⟨same, sameOn⟩ := Terminal.run_anywhere sameStorage holds holds'
  exact ⟨⟨⟨fits, fits'⟩, same fits fits'⟩, ⟨fitsOn, fitsOn'⟩, sameOn _ _ fitsOn fitsOn'⟩

end ConfinedShell
