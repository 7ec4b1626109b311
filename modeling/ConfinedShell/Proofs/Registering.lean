import ConfinedShell.Program

/-!
# The index and the commands agree

A catalogue keeps its commands in an array and the places of their names in an index. The two are **agreed** when the
index leads a name to a place exactly when a command of this name stands there (`Catalogue.Indexed`). Two places that
hold commands of one name would both be the one that the index leads to, so the names are distinct, and no name leads
out of the array.

A registration that succeeds adds the command to both (`Catalogue.register_of_free`), and one that fails changes
nothing (`Catalogue.register_of_taken`). So the two agree after any calls, whichever of them fail
(`Catalogue.Indexed.afterAll`), also when a group of them stops halfway (`Catalogue.registerAll_cases`). The catalogue
then finds and registers what the registry of its commands does (`Catalogue.Indexed.find?_eq`,
`Catalogue.Indexed.registry_registerAll`), and that registry is the one that a session reads: the program starts with
the commands of the shell, all of which are registered (`Program.registry_prepare`).
-/

set_option autoImplicit false

namespace ConfinedShell

namespace Catalogue

variable {catalogue : Catalogue} {command : Command} {name : String} {place : Nat}

/-! ## One registration -/

/-- The catalogue with one command more. -/
def add (catalogue : Catalogue) (command : Command) : Catalogue :=
  ⟨catalogue.commands.push command, (command.info.name, catalogue.commands.size) :: catalogue.index⟩

theorem registry_add (catalogue : Catalogue) (command : Command) :
    (catalogue.add command).registry = ⟨catalogue.registry.commands ++ [command]⟩ := by
  simp [registry, add]

/-- A name that is taken is refused, -/
theorem register_of_taken (taken : catalogue.index.lookup command.info.name = some place) :
    register command catalogue = .error (.duplicateCommand command.info.name) catalogue := by
  show (if (catalogue.index.lookup command.info.name).isSome then _ else _ : Registration Unit) catalogue = _
  rw [taken]
  rfl

/-- and any other is added. -/
theorem register_of_free (free : catalogue.index.lookup command.info.name = none) :
    register command catalogue = .ok () (catalogue.add command) := by
  show (if (catalogue.index.lookup command.info.name).isSome then _ else _ : Registration Unit) catalogue = _
  rw [free]
  rfl

/-- The names of the commands. -/
def names (catalogue : Catalogue) : List String :=
  catalogue.commands.toList.map fun command => command.info.name

/-- A command is held when it stands somewhere. -/
theorem mem_commands_iff :
    command ∈ catalogue.commands.toList ↔ ∃ place : Nat, catalogue.commands[place]? = some command := by
  rw [Array.mem_toList_iff, Array.mem_iff_getElem?]

/-- **The index and the commands agree.** -/
structure Indexed (catalogue : Catalogue) : Prop where
  lookup_iff : ∀ name place, catalogue.index.lookup name = some place ↔
    ∃ command, catalogue.commands[place]? = some command ∧ command.info.name = name

namespace Indexed

theorem empty : Indexed Catalogue.empty where
  lookup_iff := by simp [Catalogue.empty]

/-- A command of a new name keeps the index and the commands agreed. -/
theorem add (indexed : Indexed catalogue) (free : catalogue.index.lookup command.info.name = none) :
    Indexed (catalogue.add command) where
  lookup_iff := by
    intro name place
    have old := indexed.lookup_iff name place
    simp only [Catalogue.add, List.lookup_cons, Array.getElem?_push]
    by_cases same : name = command.info.name
    · subst same
      by_cases last : place = catalogue.commands.size
      · simp [last]
      · rw [free] at old
        simpa [last, Ne.symm last] using old
    · have differ : (name == command.info.name) = false := beq_false_of_ne same
      by_cases last : place = catalogue.commands.size
      · have outside : catalogue.commands[place]? = none := by simp [last]
        rw [outside] at old
        simpa [differ, last, Ne.symm same] using old
      · simpa [differ, last] using old

/-! ## What the agreement tells -/

/-- Commands of one name stand at one place. -/
theorem place_inj (indexed : Indexed catalogue) {other : Nat} {second : Command}
    (stands : catalogue.commands[place]? = some command) (standsOther : catalogue.commands[other]? = some second)
    (same : command.info.name = second.info.name) : place = other := by
  have first := (indexed.lookup_iff _ _).mpr ⟨command, stands, same⟩
  have last := (indexed.lookup_iff _ _).mpr ⟨second, standsOther, rfl⟩
  exact Option.some_inj.mp (first.symm.trans last)

/-- The names are distinct. -/
theorem names_nodup (indexed : Indexed catalogue) : catalogue.names.Nodup := by
  rw [names, List.Nodup, List.pairwise_map, List.pairwise_iff_getElem]
  intro place other inside insideOther less same
  have stands : catalogue.commands[place]? = some catalogue.commands.toList[place] := by simp at inside ⊢
  have standsOther : catalogue.commands[other]? = some catalogue.commands.toList[other] := by simp at insideOther ⊢
  exact absurd (indexed.place_inj stands standsOther same) (Nat.ne_of_lt less)

/-- A name is in the index exactly when a command has it. -/
theorem exists_lookup_iff (indexed : Indexed catalogue) :
    (∃ place, catalogue.index.lookup name = some place) ↔ name ∈ catalogue.names := by
  simp only [indexed.lookup_iff, names, List.mem_map, mem_commands_iff]
  constructor
  · rintro ⟨place, command, stands, named⟩
    exact ⟨command, ⟨place, stands⟩, named⟩
  · rintro ⟨command, ⟨place, stands⟩, named⟩
    exact ⟨place, command, stands, named⟩

/-- A registration fails exactly when the name is taken. -/
theorem register_fails_iff (indexed : Indexed catalogue) :
    (∃ cause after, register command catalogue = .error cause after) ↔ command.info.name ∈ catalogue.names := by
  rw [← indexed.exists_lookup_iff]
  constructor
  · rintro ⟨cause, after, failed⟩
    rw [← Option.isSome_iff_exists, ← Option.ne_none_iff_isSome]
    intro free
    rw [register_of_free free] at failed
    cases failed
  · rintro ⟨place, taken⟩
    exact ⟨_, _, register_of_taken taken⟩

/-- The registry finds the one command of a name. -/
theorem registry_find?_eq_some_iff (indexed : Indexed catalogue) :
    catalogue.registry.find? name = some command ↔
      command ∈ catalogue.commands.toList ∧ command.info.name = name := by
  constructor
  · intro found
    exact ⟨List.mem_of_find?_eq_some found, by simpa using List.find?_some found⟩
  · rintro ⟨mem, rfl⟩
    cases found : catalogue.registry.find? command.info.name with
    | none => exact absurd (decide_eq_true rfl) (List.find?_eq_none.mp found command mem)
    | some other =>
      have named : other.info.name = command.info.name := by simpa using List.find?_some found
      obtain ⟨place, stands⟩ := mem_commands_iff.mp mem
      obtain ⟨otherPlace, standsOther⟩ := mem_commands_iff.mp (List.mem_of_find?_eq_some found)
      obtain rfl := indexed.place_inj stands standsOther named.symm
      exact standsOther.symm.trans stands

/-- **A catalogue finds what its registry finds**, and the index never leads out of the array. -/
theorem find?_eq (indexed : Indexed catalogue) (name : String) :
    catalogue.find? name = .ok (catalogue.registry.find? name) := by
  cases looked : catalogue.index.lookup name with
  | none =>
    have missing : catalogue.registry.find? name = none := by
      rw [Option.eq_none_iff_forall_ne_some]
      intro command found
      obtain ⟨mem, named⟩ := indexed.registry_find?_eq_some_iff.mp found
      obtain ⟨place, taken⟩ := indexed.exists_lookup_iff.mpr (List.mem_map.mpr ⟨command, mem, named⟩)
      rw [looked] at taken
      cases taken
    rw [Catalogue.find?, looked, missing]
  | some place =>
    obtain ⟨command, stands, named⟩ := (indexed.lookup_iff name place).mp looked
    have known := indexed.registry_find?_eq_some_iff.mpr ⟨mem_commands_iff.mpr ⟨place, stands⟩, named⟩
    rw [Catalogue.find?, looked, known]
    dsimp only
    rw [stands]

/-- **A catalogue registers what its registry registers.** -/
theorem registry_register (indexed : Indexed catalogue) (command : Command) :
    catalogue.registry.register command =
      match register command catalogue with
      | .ok _ after => .ok after.registry
      | .error cause _ => .error cause := by
  have found := indexed.find?_eq command.info.name
  cases looked : catalogue.index.lookup command.info.name with
  | none =>
    rw [Catalogue.find?, looked] at found
    rw [register_of_free looked, Registry.register, ← Except.ok.inj found]
    exact congrArg Except.ok (registry_add catalogue command).symm
  | some place =>
    obtain ⟨other, stands, -⟩ := (indexed.lookup_iff _ _).mp looked
    rw [Catalogue.find?, looked] at found
    dsimp only at found
    rw [stands] at found
    rw [register_of_taken looked, Registry.register, ← Except.ok.inj found]
    rfl

end Indexed

/-! ## Calls one after the other -/

/-- The catalogue after a call, which may have failed. -/
def after (catalogue : Catalogue) (command : Command) : Catalogue :=
  match register command catalogue with
  | .ok _ after => after
  | .error _ after => after

/-- The catalogue after calls, of which any may have failed. -/
def afterAll (catalogue : Catalogue) (calls : List Command) : Catalogue :=
  calls.foldl after catalogue

/-- The commands of the calls that succeed, in order. -/
def accepted (catalogue : Catalogue) : List Command → List Command
  | [] => []
  | command :: rest =>
    match register command catalogue with
    | .ok _ after => command :: after.accepted rest
    | .error _ after => after.accepted rest

theorem afterAll_append (catalogue : Catalogue) (calls others : List Command) :
    catalogue.afterAll (calls ++ others) = (catalogue.afterAll calls).afterAll others :=
  List.foldl_append

/-- **What a call does**: a taken name changes nothing, and a new one adds the command. -/
theorem after_cases (catalogue : Catalogue) (command : Command) (rest : List Command) :
    ((∃ place, catalogue.index.lookup command.info.name = some place) ∧
        register command catalogue = .error (.duplicateCommand command.info.name) catalogue ∧
        catalogue.after command = catalogue ∧ catalogue.accepted (command :: rest) = catalogue.accepted rest) ∨
      (catalogue.index.lookup command.info.name = none ∧
        register command catalogue = .ok () (catalogue.add command) ∧
        catalogue.after command = catalogue.add command ∧
        catalogue.accepted (command :: rest) = command :: (catalogue.add command).accepted rest) := by
  cases looked : catalogue.index.lookup command.info.name with
  | some place =>
    have refused := register_of_taken looked
    exact .inl ⟨⟨place, rfl⟩, refused, by rw [after, refused], by rw [accepted, refused]⟩
  | none =>
    have added := register_of_free looked
    exact .inr ⟨rfl, added, by rw [after, added], by rw [accepted, added]⟩

/-- The index and the commands still agree after a call, -/
theorem Indexed.after (indexed : Indexed catalogue) (command : Command) : Indexed (catalogue.after command) := by
  rcases catalogue.after_cases command [] with ⟨-, -, same, -⟩ | ⟨free, -, added, -⟩
  · rw [same]
    exact indexed
  · rw [added]
    exact indexed.add free

/-- **and after any calls.** -/
theorem Indexed.afterAll (indexed : Indexed catalogue) (calls : List Command) : Indexed (catalogue.afterAll calls) := by
  induction calls generalizing catalogue with
  | nil => exact indexed
  | cons command rest ih => exact ih (indexed.after command)

/-- The calls that succeed add their commands in order. -/
theorem commands_afterAll (catalogue : Catalogue) (calls : List Command) :
    (catalogue.afterAll calls).commands.toList = catalogue.commands.toList ++ catalogue.accepted calls := by
  induction calls generalizing catalogue with
  | nil => exact (List.append_nil _).symm
  | cons command rest ih =>
    have later : (catalogue.afterAll (command :: rest)) = (catalogue.after command).afterAll rest := rfl
    rcases catalogue.after_cases command rest with ⟨-, -, same, passes⟩ | ⟨-, -, added, keeps⟩
    · rw [later, same, ih, passes]
    · rw [later, added, ih, keeps, add, Array.toList_push, List.append_assoc]
      rfl

theorem names_afterAll (catalogue : Catalogue) (calls : List Command) :
    (catalogue.afterAll calls).names =
      catalogue.names ++ (catalogue.accepted calls).map fun command => command.info.name := by
  rw [names, commands_afterAll, List.map_append, names]

/-- A name leads to the first command that was called by it. -/
theorem Indexed.find?_afterAll (indexed : Indexed catalogue) (calls : List Command) (name : String) :
    (catalogue.afterAll calls).registry.find? name =
      (catalogue.registry.find? name).or (calls.find? fun command => command.info.name = name) := by
  induction calls generalizing catalogue with
  | nil => exact Option.or_none.symm
  | cons command rest ih =>
    have later : (catalogue.afterAll (command :: rest)) = (catalogue.after command).afterAll rest := rfl
    rw [later, ih (indexed.after command), List.find?_cons]
    rcases catalogue.after_cases command rest with ⟨taken, -, same, -⟩ | ⟨free, -, added, -⟩
    · rw [same]
      by_cases named : command.info.name = name
      · obtain ⟨other, mem, sameName⟩ := List.mem_map.mp (indexed.exists_lookup_iff.mp taken)
        rw [indexed.registry_find?_eq_some_iff.mpr ⟨mem, sameName.trans named⟩]
        rfl
      · rw [decide_eq_false named]
    · have more : (catalogue.add command).registry.find? name =
          (catalogue.registry.find? name).or (if command.info.name = name then some command else none) := by
        rw [registry_add, Registry.find?, List.find?_append, List.find?_singleton]
        simp only [decide_eq_true_eq, Registry.find?]
      rw [added, more, Option.or_assoc]
      by_cases named : command.info.name = name
      · rw [if_pos named, decide_eq_true named]
        rfl
      · rw [if_neg named, decide_eq_false named]
        rfl

/-! ## Groups -/

theorem registerAll_cons (command : Command) (rest : List Command) (catalogue : Catalogue) :
    registerAll (command :: rest) catalogue =
      match register command catalogue with
      | .ok _ after => registerAll rest after
      | .error cause after => .error cause after := by
  show EStateM.bind (register command) (fun _ => registerAll rest) catalogue = _
  unfold EStateM.bind
  cases register command catalogue <;> rfl

/-- **A group is registered as a whole, or up to the first command whose name is taken.** -/
theorem registerAll_cases (catalogue : Catalogue) (group : List Command) :
    (registerAll group catalogue = .ok () (catalogue.afterAll group) ∧ catalogue.accepted group = group) ∨
      ∃ made refused rest, group = made ++ refused :: rest ∧ catalogue.accepted made = made ∧
        register refused (catalogue.afterAll made) =
          .error (.duplicateCommand refused.info.name) (catalogue.afterAll made) ∧
        registerAll group catalogue = .error (.duplicateCommand refused.info.name) (catalogue.afterAll made) := by
  induction group generalizing catalogue with
  | nil => exact .inl ⟨rfl, rfl⟩
  | cons command rest ih =>
    rw [registerAll_cons]
    rcases catalogue.after_cases command rest with ⟨-, refused, -⟩ | ⟨-, registered, added, keeps⟩
    · refine .inr ⟨[], command, rest, rfl, rfl, refused, ?_⟩
      rw [refused]
      rfl
    · have later (calls : List Command) :
          catalogue.afterAll (command :: calls) = (catalogue.add command).afterAll calls :=
        congrArg (fun catalogue => afterAll catalogue calls) added
      rw [registered]
      rcases ih (catalogue.add command) with ⟨succeeds, all⟩ | ⟨made, refused, behind, split, all, refuses, fails⟩
      · exact .inl ⟨by rw [later]; exact succeeds, by rw [keeps, all]⟩
      · refine .inr ⟨command :: made, refused, behind, by rw [split, List.cons_append], ?_, ?_, ?_⟩
        · rcases catalogue.after_cases command made with ⟨⟨_, taken⟩, failed, -⟩ | ⟨-, -, -, keeps⟩
          · rw [registered] at failed
            cases failed
          · rw [keeps, all]
        · rw [later]
          exact refuses
        · rw [later]
          exact fails

/-- **A catalogue registers a group as its registry does.** -/
theorem Indexed.registry_registerAll (indexed : Indexed catalogue) (group : List Command) :
    catalogue.registry.registerAll group =
      match registerAll group catalogue with
      | .ok _ after => .ok after.registry
      | .error cause _ => .error cause := by
  induction group generalizing catalogue with
  | nil => rfl
  | cons command rest ih =>
    have first := indexed.registry_register command
    rw [registerAll_cons]
    show (catalogue.registry.register command).bind (fun registry => registry.registerAll rest) = _
    rcases catalogue.after_cases command rest with ⟨-, refused, -⟩ | ⟨free, added, -⟩
    · rw [first, refused]
      rfl
    · rw [first, added]
      exact ih (indexed.add free)

/-- A group of new names, each once, is registered as a whole. -/
theorem Indexed.registerAll_ok (indexed : Indexed catalogue) {group : List Command}
    (fresh : (catalogue.names ++ group.map fun command => command.info.name).Nodup) :
    registerAll group catalogue = .ok () (catalogue.afterAll group) ∧
      (catalogue.afterAll group).registry = ⟨catalogue.registry.commands ++ group⟩ := by
  rcases catalogue.registerAll_cases group with ⟨succeeds, all⟩ | ⟨made, refused, rest, rfl, all, refuses, -⟩
  · refine ⟨succeeds, ?_⟩
    rw [registry, commands_afterAll, all]
    rfl
  · have taken := (indexed.afterAll made).register_fails_iff.mp ⟨_, _, refuses⟩
    rw [names_afterAll, all] at taken
    rw [List.map_append, ← List.append_assoc, List.map_cons] at fresh
    exact absurd rfl ((List.nodup_append.mp fresh).2.2 _ taken _ List.mem_cons_self)

/-! ## What is recorded -/

/-- **A catalogue records calls** to it, each of which may have failed. -/
structure Records (catalogue : Catalogue) (calls : List Command) : Prop where
  /-- It holds the commands of the calls that succeeded, in order. -/
  commands : catalogue.commands.toList = empty.accepted calls
  /-- Their names are distinct. -/
  distinct : catalogue.names.Nodup
  /-- One more call fails exactly when its name is taken, -/
  fails_iff : ∀ command, (∃ cause after, register command catalogue = .error cause after) ↔
    command.info.name ∈ catalogue.names
  /-- and then it changes nothing. -/
  unchanged : ∀ command cause after, register command catalogue = .error cause after →
    cause = .duplicateCommand command.info.name ∧ after = catalogue
  /-- A name leads to the first command that was called by it, and never out of the array. -/
  finds : ∀ name, catalogue.find? name = .ok (calls.find? fun command => command.info.name = name)
  /-- That is the one command registered under the name. -/
  finds_iff : ∀ name command, catalogue.find? name = .ok (some command) ↔
    command ∈ empty.accepted calls ∧ command.info.name = name

theorem commands_afterAll_empty (calls : List Command) :
    (empty.afterAll calls).commands.toList = empty.accepted calls :=
  commands_afterAll empty calls

/-- Any calls are recorded. -/
theorem records_afterAll (calls : List Command) : (empty.afterAll calls).Records calls := by
  have indexed := Indexed.empty.afterAll calls
  refine ⟨commands_afterAll_empty calls, indexed.names_nodup, fun command => indexed.register_fails_iff, ?_, ?_, ?_⟩
  · intro command cause after failed
    rcases (empty.afterAll calls).after_cases command [] with ⟨-, refused, -⟩ | ⟨-, added, -⟩
    · rw [refused] at failed
      cases failed
      exact ⟨rfl, rfl⟩
    · rw [added] at failed
      cases failed
  · intro name
    rw [indexed.find?_eq, Indexed.empty.find?_afterAll]
    rfl
  · intro name command
    rw [indexed.find?_eq, Except.ok.injEq, indexed.registry_find?_eq_some_iff, commands_afterAll_empty]

/-- A group on top of other calls is registered as a whole, or up to the first command whose name is taken. -/
theorem registerAll_on_top (calls group : List Command) :
    ∃ made rest, group = made ++ rest ∧
      (empty.afterAll (calls ++ made)).commands.toList = (empty.afterAll calls).commands.toList ++ made ∧
      (rest = [] ∧ registerAll group (empty.afterAll calls) = .ok () (empty.afterAll (calls ++ made)) ∨
        ∃ refused, rest.head? = some refused ∧ refused.info.name ∈ (empty.afterAll (calls ++ made)).names ∧
          registerAll group (empty.afterAll calls) =
            .error (.duplicateCommand refused.info.name) (empty.afterAll (calls ++ made))) := by
  have indexed := (Indexed.empty.afterAll calls).afterAll
  rcases (empty.afterAll calls).registerAll_cases group with
    ⟨succeeds, all⟩ | ⟨made, refused, rest, rfl, all, refuses, fails⟩
  · refine ⟨group, [], (List.append_nil group).symm, ?_, .inl ⟨rfl, ?_⟩⟩
    · rw [afterAll_append, commands_afterAll, all]
    · rw [afterAll_append]
      exact succeeds
  · refine ⟨made, refused :: rest, rfl, ?_, .inr ⟨refused, rfl, ?_⟩⟩
    · rw [afterAll_append, commands_afterAll, all]
    · rw [afterAll_append]
      exact ⟨(indexed made).register_fails_iff.mp ⟨_, _, refuses⟩, fails⟩

/-! ## The commands of the shell -/

/-- **The commands of the shell are registered as a whole.** -/
theorem registerAll_builtin (suffix : String) :
    ∃ after, registerAll (Commands.builtin suffix) empty = .ok () after ∧
      after.registry = ⟨Commands.builtin suffix⟩ := by
  have names : (Commands.builtin suffix).map (fun command => command.info.name) =
      (Commands.builtin "").map fun command => command.info.name := rfl
  have fresh : (empty.names ++ (Commands.builtin suffix).map fun command => command.info.name).Nodup := by
    rw [names]
    decide
  obtain ⟨succeeds, all⟩ := Indexed.empty.registerAll_ok fresh
  exact ⟨_, succeeds, all⟩

end Catalogue

/-- **The program starts with the commands of the shell**, all of which are registered. -/
theorem Program.registry_prepare {host : Host} {options : Options} {config : Config} {tree : FileTree}
    {terminal : Terminal} (ready : prepare host options config = (tree, .ok terminal)) :
    terminal.session.registry = ⟨Commands.builtin config.hostSuffix⟩ := by
  obtain ⟨catalogue, registered, all⟩ := Catalogue.registerAll_builtin config.hostSuffix
  rw [prepare, registered] at ready
  split at ready
  · cases ready
  · split at ready
    · cases ready
    · split at ready
      next planted seeded _ =>
      cases seeded with
      | error cause => cases ready
      | ok count =>
        cases ready
        exact all

end ConfinedShell
