import ConfinedShell.Proofs.Registering
import ConfinedShell.Proofs.Reports
import Mathlib.Data.List.Forall2

/-!
# What a session does with the commands that are registered

A session looks the first word of a line up in its registry and runs the command that it finds, or reports that there is
none (`Session.process_of_found`, `Session.process_of_missing`). `help` reads the same registry and lists it
(`Session.ends_help`). So both tell the same of the calls that have built the registry, since the index and the commands
of a catalogue agree after any calls (`Catalogue.Indexed.afterAll`).
-/

set_option autoImplicit false

namespace ConfinedShell

/-- The commands, or those of a category. -/
def Registry.listed (registry : Registry) (category : Option String) : List Command :=
  registry.commands.filter fun command => category.all (command.info.category = ·)

namespace Commands

open ConfinedShell.Action (fail)

/-- **What `help` lists**: the commands, or those of a category. -/
theorem help_run (around : Surroundings) (category : Option String) (scene : Scene) :
    help.run around category.toList scene =
      match around.commands.filter fun info => category.all (info.category = ·) with
      | [] => .error (.failure (.command ("no commands in category " ++ category.getD ""))) scene
      | listed => .ok (.text (Text.joinWith "\n" (listed.map helpRow))) scene := by
  have run : help.run around category.toList scene =
      (match around.commands.filter fun info => category.all (info.category = ·) with
        | [] => fail (.command ("no commands in category " ++ category.getD ""))
        | listed => pure (.text (Text.joinWith "\n" (listed.map helpRow))) : Action Output) scene := by
    cases category <;> rfl
  rw [run]
  cases around.commands.filter fun info => category.all (info.category = ·) <;> rfl

/-- **A row shows a command**: its name, its usage and its description, one behind the other. The blanks between them
fill columns of 10 and of 32 characters, and one more stands at the end of each column. -/
def RowShows (row : String) (info : CommandInfo) : Prop :=
  row.toList =
    info.name.toList ++ List.replicate (10 - info.name.length + 1) ' ' ++
      info.usage.toList ++ List.replicate (32 - info.usage.length + 1) ' ' ++ info.description.toList

/-- `helpRow` makes the one row that shows a command. -/
theorem rowShows_iff {row : String} {info : CommandInfo} : RowShows row info ↔ row = helpRow info := by
  rw [← String.toList_inj, RowShows]
  simp [helpRow, Text.padRight, Text.spaces, List.replicate_succ']

/-- Rows that show the commands of a list, each in its place. -/
theorem forall₂_rowShows_iff {rows : List String} {listed : List Command} :
    List.Forall₂ (fun row (command : Command) => RowShows row command.info) rows listed ↔
      rows = listed.map fun command => helpRow command.info := by
  simp only [rowShows_iff]
  rw [← List.forall₂_eq_eq_eq, List.forall₂_map_right_iff]

end Commands

namespace Session

variable {σ : Type} {session : Session σ} {now : Moment} {line name : String} {arguments : List String}

/-- A line runs the command of its first word, -/
theorem process_of_found (tokens : tokenize (Text.trim line) = some (name, arguments)) {command : Command}
    (found : session.registry.find? name = some command) (now : Moment) :
    let noted := session.noted (Text.trim line)
    let ended := command.run (noted.surroundings now) arguments session.scene
    session.process now line =
      (noted.conclude now name ended).publishUnless (breaksDown now ended) (Text.trim line) := by
  rw [process_of_tokens tokens, respond, dispatch_noted_of_found found]

/-- or reports that there is none. -/
theorem process_of_missing (tokens : tokenize (Text.trim line) = some (name, arguments))
    (missing : session.registry.find? name = none) (now : Moment) :
    session.process now line =
      ((session.noted (Text.trim line)).addLines ["command not recognized: " ++ name]).publish (Text.trim line) := by
  rw [process_of_tokens tokens, respond, dispatch_noted_of_missing missing]
  rfl

/-- What a command may read of the commands are those of the registry. -/
theorem filter_commands (session : Session σ) (now : Moment) (category : Option String) :
    (session.surroundings now).commands.filter (fun info => category.all (info.category = ·)) =
      (session.registry.listed category).map Command.info := by
  rw [surroundings, Registry.infos, List.filter_map]
  rfl

/-- `help` in a session. -/
theorem run_help (session : Session σ) (now : Moment) (category : Option String) :
    Commands.help.run (session.surroundings now) category.toList session.scene =
      match session.registry.listed category with
      | [] => .error (.failure (.command ("no commands in category " ++ category.getD ""))) session.scene
      | listed =>
        .ok (.text (Text.joinWith "\n" (listed.map fun command => Commands.helpRow command.info))) session.scene := by
  rw [Commands.help_run, filter_commands]
  cases session.registry.listed category with
  | nil => rfl
  | cons command rest => simp [Function.comp_def]

/-- **`help` lists the commands**, -/
theorem ends_help (found : session.registry.find? "help" = some Commands.help) {category : Option String}
    (tokens : tokenize (Text.trim line) = some ("help", category.toList)) (now : Moment)
    (filled : session.registry.listed category ≠ []) :
    session.Ends now line "help" category.toList
      (.text (Text.joinWith "\n" ((session.registry.listed category).map fun command => Commands.helpRow command.info)))
      session.scene := by
  have run := (session.noted (Text.trim line)).run_help now category
  have same : (session.noted (Text.trim line)).registry = session.registry := rfl
  rw [same] at run
  refine .of_run tokens found (run.trans ?_)
  cases listed : session.registry.listed category with
  | nil => exact absurd listed filled
  | cons command rest => rfl

/-- and fails when there is none. -/
theorem added_help_of_nil (found : session.registry.find? "help" = some Commands.help) {category : Option String}
    (tokens : tokenize (Text.trim line) = some ("help", category.toList)) (now : Moment)
    (empty : session.registry.listed category = []) :
    session.added now line = ["Error in help: no commands in category " ++ category.getD ""] := by
  have run := (session.noted (Text.trim line)).run_help now category
  have none : (session.noted (Text.trim line)).registry.listed category = [] := empty
  rw [none] at run
  have opening : "Error in " ++ "help" ++ ": " ++ "no commands in category " =
      "Error in help: no commands in category " := by decide
  rw [added_of_error tokens ((dispatch_noted_of_found found _ now _).trans run), ← opening, String.append_assoc]
  rfl

/-- The list is shown as it is. -/
theorem rows_help {listed : List Command} (areRows : ∀ command ∈ listed, Text.IsRow (Commands.helpRow command.info)) :
    Text.rows (Text.joinWith "\n" (listed.map fun command => Commands.helpRow command.info)) =
      listed.map fun command => Commands.helpRow command.info := by
  refine Text.rows_joinWith (List.forall_mem_map.mpr areRows) ?_
  rw [List.getLast?_map]
  intro last
  obtain ⟨command, -, empty⟩ := Option.map_eq_some_iff.mp last
  have letters := congrArg (fun row => ' ' ∈ row.toList) empty
  simp [Commands.helpRow] at letters

end Session

namespace Catalogue

/-- **The index and the commands of a registry agree.** After any calls, each of which may have failed, the catalogue
records them: one more call fails exactly when its name is taken, and then changes nothing; the names are distinct; the
commands are those of the calls that succeeded, in order; and a name leads to the one command registered under it. A
group is registered up to the first command whose name is taken, and what was registered before stays.

So in a session with this registry a line runs the command registered under its first word, or it reports that there
is none, and it leaves the registry as it is. The subscribers are told, unless the call itself breaks down. And `help`
shows the commands that are registered, or those of a category: a row for each one, with its name, its usage and its
description, once and in the order of their registration. It fails only when there is none. -/
theorem index_agrees_with_commands (calls : List Command) :
    let reached := empty.afterAll calls
    reached.Records calls ∧
      (∀ group : List Command, ∃ made rest, group = made ++ rest ∧
        (empty.afterAll (calls ++ made)).commands.toList = reached.commands.toList ++ made ∧
        (rest = [] ∧ registerAll group reached = .ok () (empty.afterAll (calls ++ made)) ∨
          ∃ refused, rest.head? = some refused ∧ refused.info.name ∈ (empty.afterAll (calls ++ made)).names ∧
            registerAll group reached =
              .error (.duplicateCommand refused.info.name) (empty.afterAll (calls ++ made)))) ∧
      ∀ (σ : Type) (session : Session σ) (now : Moment) (line name : String) (arguments : List String),
        session.registry = reached.registry → tokenize (Text.trim line) = some (name, arguments) →
          (session.process now line).registry = reached.registry ∧
          (∀ command, reached.find? name = .ok (some command) →
            let noted := session.noted (Text.trim line)
            let ended := command.run (noted.surroundings now) arguments session.scene
            session.process now line = (noted.conclude now name ended).publishUnless
              (Session.breaksDown now ended) (Text.trim line)) ∧
          (reached.find? name = .ok none →
            session.process now line =
              ((session.noted (Text.trim line)).addLines ["command not recognized: " ++ name]).publish
                (Text.trim line)) ∧
          (name = "help" → reached.find? "help" = .ok (some Commands.help) →
            ∀ category : Option String, arguments = category.toList →
              let listed := (empty.accepted calls).filter fun command => category.all (command.info.category = ·)
              (listed.map fun command => command.info.name).Nodup ∧
              (∃ rows, List.Forall₂ (fun row (command : Command) => Commands.RowShows row command.info) rows listed ∧
                (listed ≠ [] → session.Ends now line "help" arguments (.text (Text.joinWith "\n" rows)) session.scene) ∧
                (listed ≠ [] → (∀ row ∈ rows, Text.IsRow row) → session.added now line = rows)) ∧
              (listed = [] →
                session.added now line = ["Error in help: no commands in category " ++ category.getD ""])) := by
  intro reached
  have indexed : Indexed reached := Indexed.empty.afterAll calls
  have records : reached.Records calls := records_afterAll calls
  refine ⟨records, registerAll_on_top calls, ?_⟩
  intro σ session now line name arguments registered tokens
  have finds : ∀ name, reached.find? name = .ok (session.registry.find? name) :=
    fun name => registered ▸ indexed.find?_eq name
  refine ⟨(session.process_leaves now line).1.trans registered, fun command found => ?_, fun missing => ?_, ?_⟩
  · exact Session.process_of_found tokens (Except.ok.inj ((finds name).symm.trans found)) now
  · exact Session.process_of_missing tokens (Except.ok.inj ((finds name).symm.trans missing)) now
  · rintro rfl known category rfl listed
    have found := Except.ok.inj ((finds "help").symm.trans known)
    have same : session.registry.listed category = listed := by
      rw [registered, Registry.listed, registry, records.commands]
    have distinct : (listed.map fun command => command.info.name).Nodup := by
      have names : ((empty.accepted calls).map fun command => command.info.name).Nodup :=
        records.commands ▸ records.distinct
      exact (List.filter_sublist.map _).nodup names
    refine ⟨distinct, ⟨_, Commands.forall₂_rowShows_iff.mpr rfl, fun filled => ?_, fun filled areRows => ?_⟩,
      fun nothing => ?_⟩
    · have ends := Session.ends_help found tokens now (same ▸ filled)
      rwa [same] at ends
    · have ends := Session.ends_help found tokens now (same ▸ filled)
      rw [ends.added, same]
      exact Session.rows_help (List.forall_mem_map.mp areRows)
    · exact Session.added_help_of_nil found tokens now (same.trans nothing)

end Catalogue

namespace Roster

/-- A command that shows a text. -/
def saying (name text : String) : Command :=
  ⟨{ name, usage := name, description := text, category := "talk" }, fun _ _ => pure (.text text)⟩

/-- Two commands, and a call that fails. -/
def calls : List Command :=
  [saying "hi" "first", Commands.help, saying "hi" "second"]

/-- A group that fails at its second command. -/
def group : List Command :=
  [saying "ho" "third", saying "hi" "fourth", saying "so" "fifth"]

/-- The catalogue that the group leaves. -/
def reached : Catalogue :=
  Catalogue.empty.afterAll (calls ++ [saying "ho" "third"])

/-- A session with its registry. -/
def session : Session Unit :=
  .start reached.registry ⟨["root"]⟩ (Clock.fixed ⟨2024, 1, 1, 0, 0, 0⟩ 0) (.directory [("root", .directory [])]) ()

end Roster

namespace Catalogue

open Roster in
/-- What the group registered before it failed is there, and nothing that was refused is. -/
theorem index_agrees_after_refusals :
    registerAll group (empty.afterAll calls) = .error (.duplicateCommand "hi") reached ∧
      register (saying "hi" "again") reached = .error (.duplicateCommand "hi") reached ∧
      (session.process 0 "hi there").transcript = ["> hi there", "first"] ∧
      (session.process 0 "so").transcript = ["> so", "command not recognized: so"] ∧
      session.added 0 "help talk" =
        [Commands.helpRow (saying "hi" "first").info, Commands.helpRow (saying "ho" "third").info] ∧
      session.added 0 "help files" = ["Error in help: no commands in category files"] := by
  obtain ⟨records, -, serves⟩ := index_agrees_with_commands (calls ++ [saying "ho" "third"])
  refine ⟨rfl, ?_, ?_, ?_, ?_, ?_⟩
  · have taken : (saying "hi" "again").info.name ∈ reached.names := by decide
    obtain ⟨cause, after, failed⟩ := (records.fails_iff _).mpr taken
    obtain ⟨rfl, rfl⟩ := records.unchanged _ _ _ failed
    exact failed
  · have tokens : tokenize (Text.trim "hi there") = some ("hi", ["there"]) := by decide +kernel
    obtain ⟨-, runs, -⟩ := serves Unit session 0 _ _ _ rfl tokens
    rw [runs (saying "hi" "first") rfl]
    decide +kernel
  · have tokens : tokenize (Text.trim "so") = some ("so", []) := by decide +kernel
    obtain ⟨-, -, misses, -⟩ := serves Unit session 0 _ _ _ rfl tokens
    rw [misses rfl]
    decide +kernel
  · have tokens : tokenize (Text.trim "help talk") = some ("help", ["talk"]) := by decide +kernel
    obtain ⟨-, -, -, helps⟩ := serves Unit session 0 _ _ _ rfl tokens
    obtain ⟨-, ⟨rows, shown, -, shows⟩, -⟩ := helps rfl rfl (some "talk") rfl
    obtain rfl := Commands.forall₂_rowShows_iff.mp shown
    have plain : ∀ row ∈ [Commands.helpRow (saying "hi" "first").info, Commands.helpRow (saying "ho" "third").info],
        Text.Plain row := by decide +kernel
    exact shows (List.cons_ne_nil _ _) fun row mem => (plain row mem).isRow
  · have tokens : tokenize (Text.trim "help files") = some ("help", ["files"]) := by decide +kernel
    obtain ⟨-, -, -, helps⟩ := serves Unit session 0 _ _ _ rfl tokens
    obtain ⟨-, -, fails⟩ := helps rfl rfl (some "files") rfl
    exact fails rfl

end Catalogue

end ConfinedShell
