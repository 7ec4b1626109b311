import ConfinedShell.Proofs.Lookups
import ConfinedShell.Session

/-!
# Lines keep the outside

A session that processes a line runs at most one command, and the commands of the shell are careful. So
when the paths that the command looks up fit (`Session.Fits`), the line changes nothing outside of the
root, the root stays where it is, and a path that is handed to the editor is secure in the files that the
line leaves (`Session.process_keeps`). Whether a line fits is asked at its turn: what it looks up depends
on the current directory and on the files.
-/

set_option autoImplicit false

namespace ConfinedShell

/-! ## One command -/

/-- A sandbox keeps everything when an operation is performed on secure paths that were found good. -/
theorem Operation.keeps_of_secure {sandbox : Sandbox} {tree after : FileTree} {operation : Operation}
    (stands : sandbox.Stands tree) (secure : ∀ path ∈ operation.paths, path.Secure sandbox tree)
    (good : ∀ path ∈ operation.paths, sandbox.resolveVirtual tree path.virtualPath = .ok path)
    (performed : operation.perform tree = .ok after) : sandbox.Keeps tree after := by
  cases operation with
  | write path bytes =>
    have confined := (secure path (by simp [paths])).confined stands
    exact Resolved.write_keeps stands confined performed
  | createFile path => exact Resolved.createFile_keeps stands (secure path (by simp [paths])) performed
  | createDirectory path =>
    exact Resolved.createDirectory_keeps stands (secure path (by simp [paths])) performed
  | removeDirectory path =>
    have mem : path ∈ (removeDirectory path).paths := by simp [paths]
    exact Resolved.removeDirectory_keeps stands (secure path mem) (good path mem) performed
  | removeFile path => exact Resolved.removeFile_keeps stands (secure path (by simp [paths])) performed
  | copy source destination =>
    obtain ⟨⟨count, _⟩, copied, rfl⟩ := map_eq_ok.mp performed
    exact Resolved.copyTo_keeps stands (secure destination (by simp [paths])) copied
  | move source destination =>
    exact Resolved.moveTo_keeps stands (secure source (by simp [paths]))
      (secure destination (by simp [paths])) performed

/-- A sandbox keeps everything when an operation is performed on checked paths that fit. -/
theorem Operation.keeps {sandbox : Sandbox} {looked : List VirtualPath} {tree after : FileTree}
    {operation : Operation} (stands : sandbox.Stands tree) (fits : ∀ path ∈ looked, sandbox.Fits path)
    (checked : ∀ path ∈ operation.paths, Checked sandbox looked tree path)
    (performed : operation.perform tree = .ok after) : sandbox.Keeps tree after := by
  refine operation.keeps_of_secure stands (fun path mem => ?_) (fun path mem => (checked path mem).good)
    performed
  exact Resolved.secure_of_fits (fits _ (checked path mem).listed) stands (checked path mem).good

/-- The path that an output wants an editor to be opened on. -/
def Output.request? : Output → Option Resolved
  | .edit path => some path
  | _ => none

theorem Output.request?_eq_some {output : Output} {path : Resolved} :
    output.request? = some path ↔ output = .edit path := by
  cases output <;> simp [request?]

/-- **A sandbox keeps everything** over at most one operation on checked paths that fit. -/
theorem OneOperation.keeps {sandbox : Sandbox} {looked : List VirtualPath} {moves : Prop} {before after : FileTree}
    (one : OneOperation sandbox looked moves before after) (stands : sandbox.Stands before)
    (fits : ∀ path ∈ looked, sandbox.Fits path) : sandbox.Keeps before after := by
  rcases one with rfl | ⟨operation, checked, -, performed⟩
  · exact .refl stands
  · exact operation.keeps stands fits checked performed

/-! ## One line -/

namespace Session

variable {σ : Type} (session : Session σ)

@[simp] theorem registry_apply (now : Moment) (output : Output) :
    (session.apply now output).registry = session.registry := by
  cases output <;> rfl

@[simp] theorem sandbox_apply (now : Moment) (output : Output) :
    (session.apply now output).sandbox = session.sandbox := by
  cases output <;> rfl

@[simp] theorem scene_apply (now : Moment) (output : Output) :
    (session.apply now output).scene = session.scene := by
  cases output <;> rfl

@[simp] theorem editorRequest_apply (now : Moment) (output : Output) :
    (session.apply now output).editorRequest = output.request?.or session.editorRequest := by
  cases output <;> rfl

/-- What a line may leave: the scene, and the path that an editor is asked for. -/
inductive Leaves (session : Session σ) (line : String) : Scene → Option Resolved → Prop where
  /-- No command was run. -/
  | idle : Leaves session line session.scene session.editorRequest
  /-- A command has ended with an output. -/
  | output {name : String} {arguments : List String} {command : Command} {around : Surroundings}
      {output : Output} {after : Scene}
      (tokens : tokenize (Text.trim line) = some (name, arguments))
      (found : session.registry.find? name = some command)
      (inSandbox : around.sandbox = session.sandbox)
      (ended : command.run around arguments session.scene = .ok output after) :
      Leaves session line after (output.request?.or session.editorRequest)
  /-- A command has ended in a fault. -/
  | fault {name : String} {arguments : List String} {command : Command} {around : Surroundings}
      {fault : Fault} {after : Scene}
      (tokens : tokenize (Text.trim line) = some (name, arguments))
      (found : session.registry.find? name = some command)
      (inSandbox : around.sandbox = session.sandbox)
      (ended : command.run around arguments session.scene = .error fault after) :
      Leaves session line after session.editorRequest

/-- Runs a command and does what it says, or reports its failure. -/
def respond (now : Moment) (name : String) (arguments : List String) : Session σ :=
  session.conclude now name (session.dispatch now name arguments)

/-- Tells the subscribers of a line, unless the call broke down. -/
def publishUnless (broke : Bool) (line : String) : Session σ :=
  if broke then session else session.publish line

/-- All that comes of it is what the subscribers share. -/
theorem exists_publishUnless (broke : Bool) (line : String) :
    ∃ audience, session.publishUnless broke line = { session with audience } := by
  cases broke with
  | true => exact ⟨session.audience, rfl⟩
  | false => exact ⟨_, rfl⟩

variable {session}

/-- A blank line does nothing. -/
theorem handle_of_blank {line : String} (blank : tokenize (Text.trim line) = none) (now : Moment) :
    session.handle now line = (session, false) := by
  unfold handle
  dsimp only
  rw [blank]

/-- Any other line is noted, and then the command responds to it. -/
theorem handle_of_tokens {line name : String} {arguments : List String}
    (tokens : tokenize (Text.trim line) = some (name, arguments)) (now : Moment) :
    let noted := session.noted (Text.trim line)
    let broke := breaksDown now (noted.dispatch now name arguments)
    session.handle now line = ((noted.respond now name arguments).publishUnless broke (Text.trim line), broke) := by
  unfold handle
  dsimp only
  rw [tokens]
  dsimp only
  cases breaksDown now ((session.noted (Text.trim line)).dispatch now name arguments) <;> rfl

theorem process_of_blank {line : String} (blank : tokenize (Text.trim line) = none) (now : Moment) :
    session.process now line = session :=
  congrArg Prod.fst (handle_of_blank blank now)

theorem process_of_tokens {line name : String} {arguments : List String}
    (tokens : tokenize (Text.trim line) = some (name, arguments)) (now : Moment) :
    let noted := session.noted (Text.trim line)
    session.process now line = (noted.respond now name arguments).publishUnless
      (breaksDown now (noted.dispatch now name arguments)) (Text.trim line) :=
  congrArg Prod.fst (handle_of_tokens tokens now)

/-- Whether the subscribers are told makes a difference to what they share alone. -/
theorem exists_process_of_tokens {line name : String} {arguments : List String}
    (tokens : tokenize (Text.trim line) = some (name, arguments)) (now : Moment) :
    ∃ audience, session.process now line =
      { (session.noted (Text.trim line)).respond now name arguments with audience } := by
  rw [process_of_tokens tokens]
  exact exists_publishUnless _ _ _

/-- A line of which the command fails has been told of. -/
theorem process_of_error {line name : String} {arguments : List String} {now : Moment} {fault : Fault} {after : Scene}
    (tokens : tokenize (Text.trim line) = some (name, arguments))
    (ended : (session.noted (Text.trim line)).dispatch now name arguments = .error fault after) :
    session.process now line = ({ session.noted (Text.trim line) with scene := after }.addLines
      [failureLine name fault.toFailure]).publish (Text.trim line) := by
  rw [process_of_tokens tokens, respond, ended]
  rfl

/-- An output leaves the scene with which the command has ended. -/
theorem scene_process_of_ok {now : Moment} {line name : String} {arguments : List String} {output : Output}
    {after : Scene} (tokens : tokenize (Text.trim line) = some (name, arguments))
    (ended : (session.noted (Text.trim line)).dispatch now name arguments = .ok output after) :
    (session.process now line).scene = after := by
  obtain ⟨audience, told⟩ := session.exists_process_of_tokens tokens now
  rw [told, respond, ended]
  exact scene_apply _ now output

/-- A call that breaks down has not asked for an editor. -/
theorem editorRequest_of_broke {line : String} {now : Moment} (broke : (session.handle now line).2 = true) :
    (session.process now line).editorRequest = session.editorRequest := by
  cases tokens : tokenize (Text.trim line) with
  | none => rw [process_of_blank tokens]
  | some call =>
    obtain ⟨name, arguments⟩ := call
    rw [handle_of_tokens tokens] at broke
    obtain ⟨audience, told⟩ := session.exists_process_of_tokens tokens now
    rw [told, respond]
    dsimp only at broke ⊢
    cases ended : (session.noted (Text.trim line)).dispatch now name arguments with
    | error fault scene => rfl
    | ok output scene =>
      rw [ended] at broke
      cases output with
      | scheduled text later => rfl
      | _ => cases broke

/-- When the line is noted, the command that is found runs, -/
theorem dispatch_noted_of_found {name : String} {command : Command} (found : session.registry.find? name = some command)
    (line : String) (now : Moment) (arguments : List String) :
    (session.noted line).dispatch now name arguments =
      command.run ((session.noted line).surroundings now) arguments session.scene := by
  have known : (session.noted line).registry.find? name = some command := found
  rw [dispatch, known]
  rfl

/-- and a command that is not there is a failure. -/
theorem dispatch_noted_of_missing {name : String} (missing : session.registry.find? name = none) (line : String)
    (now : Moment) (arguments : List String) :
    (session.noted line).dispatch now name arguments = .error (.failure (.unknownCommand name)) session.scene := by
  have unknown : (session.noted line).registry.find? name = none := missing
  rw [dispatch, unknown]
  rfl

variable (session)

/-- Processing a line replaces neither the commands nor the sandbox, and runs at most one command. -/
theorem process_leaves (now : Moment) (line : String) :
    (session.process now line).registry = session.registry ∧
      (session.process now line).sandbox = session.sandbox ∧
      session.Leaves line (session.process now line).scene
        (session.process now line).editorRequest := by
  cases tokens : tokenize (Text.trim line) with
  | none =>
    rw [process_of_blank tokens]
    exact ⟨rfl, rfl, .idle⟩
  | some call =>
    obtain ⟨name, arguments⟩ := call
    obtain ⟨audience, told⟩ := session.exists_process_of_tokens tokens now
    rw [told]
    unfold respond dispatch
    cases found : (session.noted (Text.trim line)).registry.find? name with
    | none => exact ⟨rfl, rfl, .idle⟩
    | some command =>
      dsimp only
      cases ended : command.run ((session.noted (Text.trim line)).surroundings now) arguments
          (session.noted (Text.trim line)).scene with
      | ok output after =>
        dsimp only [conclude]
        simp only [registry_apply, sandbox_apply, scene_apply, editorRequest_apply]
        exact ⟨rfl, rfl, .output tokens found rfl ended⟩
      | error fault after => exact ⟨rfl, rfl, .fault tokens found rfl ended⟩

/-- The paths that a line looks up when it is processed. -/
def lookups (line : String) : List VirtualPath :=
  match tokenize (Text.trim line) with
  | none => []
  | some (name, arguments) => Commands.lookups session.sandbox session.scene name arguments

/-- **A line fits** when the host takes every path that it looks up. -/
def Fits (line : String) : Prop :=
  ∀ path ∈ session.lookups line, session.sandbox.Fits path

instance (line : String) : Decidable (session.Fits line) :=
  inferInstanceAs (Decidable (∀ path ∈ session.lookups line, session.sandbox.Fits path))

variable {session}

/-- A command that a session over the commands of the shell finds is careful. -/
theorem careful_of_find? {suffix : String} (builtin : session.registry = ⟨Commands.builtin suffix⟩)
    {name : String} {command : Command} (found : session.registry.find? name = some command)
    {around : Surroundings} (inSandbox : around.sandbox = session.sandbox) (arguments : List String)
    (scene : Scene) :
    Careful session.sandbox around.storage (Commands.lookups session.sandbox scene name arguments) (name = "mv")
      scene (command.run around arguments) := by
  rw [builtin] at found
  have named : command.info.name = name := by simpa using List.find?_some found
  have careful := Commands.careful_of_mem_builtin around scene arguments
    (List.mem_of_find?_eq_some found)
  rwa [inSandbox, named] at careful

/-- Whether a line calls the command that moves. -/
def Moves (line : String) : Prop :=
  ∃ arguments, tokenize (Text.trim line) = some ("mv", arguments)

/-- **What a line changes**, whether it succeeds or fails: at most one operation on the paths that it has checked has
changed the files; and when it has asked for an editor, then on a path that it has checked, and the scene is as it
was. -/
theorem process_changes {suffix : String} (builtin : session.registry = ⟨Commands.builtin suffix⟩)
    (now : Moment) (line : String) :
    OneOperation session.sandbox (session.lookups line) (Moves line) session.scene.tree
        (session.process now line).scene.tree ∧
      ∀ path, (session.process now line).editorRequest = some path →
        ((session.process now line).scene = session.scene ∧
            Checked session.sandbox (session.lookups line) session.scene.tree path) ∨
          session.editorRequest = some path := by
  obtain ⟨-, -, left⟩ := session.process_leaves now line
  generalize (session.process now line).scene = after at left ⊢
  generalize (session.process now line).editorRequest = request at left ⊢
  cases left with
  | idle => exact ⟨.inl rfl, fun path asked => .inr asked⟩
  | @output name arguments command around output after tokens found inSandbox ended =>
    rw [lookups, tokens]
    have careful := careful_of_find? builtin found inSandbox arguments session.scene
    rcases careful.ends with ⟨_, _, failed, -⟩ | ⟨_, _, succeeded, asks, one⟩
    · rw [failed] at ended
      cases ended
    · rw [succeeded] at ended
      cases ended
      refine ⟨one.mono fun isMove => ⟨arguments, isMove ▸ tokens⟩, fun path asked => ?_⟩
      rcases Option.or_eq_some_iff.mp asked with requested | ⟨-, before⟩
      · exact .inl (asks path (Output.request?_eq_some.mp requested))
      · exact .inr before
  | @fault name arguments command around fault after tokens found inSandbox ended =>
    rw [lookups, tokens]
    have careful := careful_of_find? builtin found inSandbox arguments session.scene
    rcases careful.ends with ⟨_, _, failed, -, one⟩ | ⟨_, _, succeeded, -⟩
    · rw [failed] at ended
      cases ended
      exact ⟨one.mono fun isMove => ⟨arguments, isMove ▸ tokens⟩, fun path asked => .inr asked⟩
    · rw [succeeded] at ended
      cases ended

/-- A line that asks for an editor has had the path checked, and leaves the scene as it was. -/
theorem checked_of_request {suffix : String} (builtin : session.registry = ⟨Commands.builtin suffix⟩)
    (unasked : session.editorRequest = none) {now : Moment} {line : String} {path : Resolved}
    (requested : (session.process now line).editorRequest = some path) :
    (session.process now line).scene = session.scene ∧
      Checked session.sandbox (session.lookups line) session.scene.tree path := by
  rcases (process_changes builtin now line).2 path requested with checked | waited
  · exact checked
  · rw [unasked] at waited
    cases waited

/-- **A line keeps everything outside**, and it asks for an editor on secure paths alone. -/
theorem process_keeps {suffix : String} (builtin : session.registry = ⟨Commands.builtin suffix⟩)
    (stands : session.sandbox.Stands session.scene.tree) {line : String} (fits : session.Fits line)
    (now : Moment) :
    session.sandbox.Keeps session.scene.tree (session.process now line).scene.tree ∧
      ∀ path, (session.process now line).editorRequest = some path →
        path.Secure session.sandbox (session.process now line).scene.tree ∨
          session.editorRequest = some path := by
  obtain ⟨one, asks⟩ := process_changes builtin now line
  refine ⟨one.keeps stands fits, fun path asked => ?_⟩
  rcases asks path asked with ⟨same, checked⟩ | waited
  · rw [same]
    exact .inl (Resolved.secure_of_fits (fits _ checked.listed) stands checked.good)
  · exact .inr waited

end Session

end ConfinedShell
