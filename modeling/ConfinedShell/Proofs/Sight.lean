import ConfinedShell.Proofs.Walk

/-!
# What a walk looks at

On its way a walk looks at locations of the tree, and it is led by the **shape** of what stands there: nothing, a
file, a directory or a link with its text. The locations that a walk looks at can be listed (`FileTree.walkSeen`).
In another tree that has the same shapes at these locations the walk goes the same way
(`FileTree.walk_eq_of_seen`), whatever else the two trees hold.
-/

set_option autoImplicit false

namespace ConfinedShell.FileTree

variable {tree other : FileTree} {last : LastLink} {here location : Location} {parts : List String}

/-! ## Shapes -/

/-- A kind without the contents of a file. -/
def Kind.shape : Kind → Kind
  | .file _ => .file []
  | kind => kind

/-- What stands at a location, without the contents of a file. -/
def shapeAt? (tree : FileTree) (location : Location) : Option Kind :=
  (tree.kindAt? location).map Kind.shape

/-- The shape at a location is that of the node there. -/
theorem shapeAt?_of_at? {node : FileTree} (found : tree.at? location = some node) :
    tree.shapeAt? location = some node.kind.shape := by
  rw [shapeAt?, kindAt?_of_at? found]
  rfl

/-- Only a directory is of the shape of a directory. -/
theorem shapeAt?_eq_directory :
    tree.shapeAt? location = some .directory ↔ ∃ entries, tree.at? location = some (directory entries) := by
  rw [← kindAt?_eq_directory, shapeAt?]
  cases tree.kindAt? location with
  | none => simp
  | some kind => cases kind <;> simp [Kind.shape]

/-- **What stands at a location** where two trees have the same shape: nothing in both, the same link in both, a
file in both or a directory in both. -/
theorem at?_cases_of_shape (same : other.shapeAt? location = tree.shapeAt? location) :
    (tree.at? location = none ∧ other.at? location = none) ∨
      (∃ target, tree.at? location = some (link target) ∧ other.at? location = some (link target)) ∨
      (∃ bytes bytes', tree.at? location = some (file bytes) ∧ other.at? location = some (file bytes')) ∨
      ∃ entries entries', tree.at? location = some (directory entries) ∧
        other.at? location = some (directory entries') := by
  simp only [shapeAt?, kindAt?, Option.map_map] at same
  cases here : tree.at? location with
  | none =>
    rw [here] at same
    exact .inl ⟨rfl, Option.map_eq_none_iff.mp same⟩
  | some node =>
    rw [here] at same
    obtain ⟨node', there, shapes⟩ := Option.map_eq_some_iff.mp same
    rw [there]
    cases node with
    | file bytes =>
      cases node' <;> cases shapes
      exact .inr (.inr (.inl ⟨_, _, rfl, rfl⟩))
    | link target =>
      cases node' <;> cases shapes
      exact .inr (.inl ⟨_, rfl, rfl⟩)
    | directory entries =>
      cases node' <;> cases shapes
      exact .inr (.inr (.inr ⟨_, _, rfl, rfl⟩))

/-! ## Legs -/

/-- **The locations that a leg looks at**: those where it stands, and those of the names that it comes to. -/
def seen (tree : FileTree) : Location → List String → List Location
  | here, [] => [here]
  | here, part :: rest =>
    here ::
      if part = "" ∨ part = "." then tree.seen here rest
      else if part = ".." then tree.seen here.dropLast rest
      else
        (here ++ [part]) ::
          match tree.at? (here ++ [part]) with
          | some (file _) | some (directory _) => tree.seen (here ++ [part]) rest
          | _ => []

/-- **A leg goes the same way** where what it looks at has the same shape. -/
theorem leg_eq_of_seen (same : ∀ location ∈ tree.seen here parts,
    other.shapeAt? location = tree.shapeAt? location) : other.leg last here parts = tree.leg last here parts := by
  induction parts generalizing here with
  | nil => rfl
  | cons part rest ih =>
    rw [leg, leg]
    rw [seen] at same
    rcases at?_cases_of_shape (same here List.mem_cons_self) with
      ⟨h, h'⟩ | ⟨_, h, h'⟩ | ⟨_, _, h, h'⟩ | ⟨entries, entries', h, h'⟩
    · rw [h, h']
    · rw [h, h']
    · rw [h, h']
    · simp only [h, h']
      by_cases stays : part = "" ∨ part = "."
      · simp only [if_pos stays] at same ⊢
        exact ih fun location mem => same location (List.mem_cons_of_mem _ mem)
      by_cases up : part = ".."
      · simp only [if_neg stays, if_pos up] at same ⊢
        exact ih fun location mem => same location (List.mem_cons_of_mem _ mem)
      simp only [if_neg stays, if_neg up] at same ⊢
      rcases at?_cases_of_shape (same (here ++ [part]) (by simp)) with
        ⟨n, n'⟩ | ⟨_, n, n'⟩ | ⟨_, _, n, n'⟩ | ⟨_, _, n, n'⟩
      · rw [at?_child h] at n
        rw [at?_child h'] at n'
        simp only [n, n']
      · rw [at?_child h] at n
        rw [at?_child h'] at n'
        simp only [n, n']
      all_goals
        rw [n] at same
        rw [at?_child h] at n
        rw [at?_child h'] at n'
        simp only [n, n']
        rw [ih fun location mem => same location (List.mem_cons_of_mem _ (List.mem_cons_of_mem _ mem))]

/-- A leg has looked at what it finds. -/
theorem mem_seen_of_leg (reached : tree.leg last here parts = .arrived (.found location)) :
    location ∈ tree.seen here parts := by
  induction parts generalizing here with
  | nil =>
    cases reached
    exact List.mem_cons_self
  | cons part rest ih =>
    rw [leg] at reached
    rw [seen]
    split at reached
    · cases reached
    · cases reached
    · cases reached
    next entries stands =>
    split at reached
    · next stays =>
      rw [if_pos stays]
      exact List.mem_cons_of_mem _ (ih reached)
    next stays =>
    split at reached
    · next up =>
      rw [if_neg stays, if_pos up]
      exact List.mem_cons_of_mem _ (ih reached)
    next up =>
    rw [if_neg stays, if_neg up, at?_child stands]
    split at reached
    · cases reached
    split at reached
    · cases reached
    split at reached
    · split at reached <;> cases reached
    · split at reached
      · cases reached
        simp
      · cases reached
    · next found =>
      rw [found]
      exact List.mem_cons_of_mem _ (List.mem_cons_of_mem _ (ih reached))
    · next found =>
      rw [found]
      exact List.mem_cons_of_mem _ (List.mem_cons_of_mem _ (ih reached))

/-- A leg to a real location looks at locations above it alone. -/
theorem Real.prefix_of_mem_seen (real : tree.Real (here ++ parts))
    (mem : location ∈ tree.seen here parts) : location <+: here ++ parts := by
  induction parts generalizing here with
  | nil =>
    rw [List.mem_singleton.mp mem]
    exact List.prefix_append here []
  | cons part rest ih =>
    have next : here ++ part :: rest = (here ++ [part]) ++ rest := by simp
    have plain : PlainName part := real.plain part (by simp)
    have stays : ¬ (part = "" ∨ part = ".") := fun h => h.elim plain.1 plain.2.1
    rw [seen, if_neg stays, if_neg plain.2.2] at mem
    rcases List.mem_cons.mp mem with rfl | mem
    · exact List.prefix_append _ _
    rw [next] at real ⊢
    rcases List.mem_cons.mp mem with rfl | mem
    · exact List.prefix_append _ _
    split at mem
    · exact ih real mem
    · exact ih real mem
    · cases mem

/-! ## Walks -/

/-- **The locations that a walk looks at**, leg by leg. -/
def walkSeen (tree : FileTree) (last : LastLink) : Nat → Location → List String → List Location
  | links, here, parts =>
    tree.seen here parts ++
      match tree.leg last here parts with
      | .atLink holder target rest =>
        match links with
        | 0 => []
        | links + 1 => tree.walkSeen last links (linkBase holder target) (linkParts target ++ rest)
      | _ => []

/-- The locations that are looked at when a path is followed from the top. -/
def pathSeen (tree : FileTree) (last : LastLink) (path : Location) : List Location :=
  tree.walkSeen last linkLimit [] path

/-- **A walk goes the same way** where what it looks at has the same shape. -/
theorem walk_eq_of_seen {links : Nat} (same : ∀ location ∈ tree.walkSeen last links here parts,
    other.shapeAt? location = tree.shapeAt? location) :
    other.walk last links here parts = tree.walk last links here parts := by
  induction links generalizing here parts with
  | zero =>
    rw [walkSeen] at same
    rw [walk, walk, leg_eq_of_seen fun location mem => same location (List.mem_append_left _ mem)]
  | succ links ih =>
    rw [walkSeen] at same
    rw [walk, walk, leg_eq_of_seen fun location mem => same location (List.mem_append_left _ mem)]
    cases reached : tree.leg last here parts with
    | arrived place => rfl
    | failed error => rfl
    | atLink holder target rest =>
      rw [reached] at same
      exact ih fun location mem => same location (List.mem_append_right _ mem)

/-- A walk has looked at what it finds. -/
theorem Walks.mem_walkSeen {links : Nat} (walks : tree.Walks last (.found location) links here parts) :
    location ∈ tree.walkSeen last links here parts := by
  induction walks with
  | @arrives links here parts reached =>
    rw [walkSeen]
    exact List.mem_append_left _ (mem_seen_of_leg reached)
  | @follows links here _ parts _ _ reached _ ih =>
    rw [walkSeen, reached]
    exact List.mem_append_right _ ih

/-- By the path to a real location nothing is looked at but what holds it. -/
theorem Real.prefix_of_mem_pathSeen {path : Location} (real : tree.Real path)
    (mem : location ∈ tree.pathSeen last path) : location <+: path := by
  have fromTop : tree.Real ([] ++ path) := real
  rw [pathSeen, walkSeen] at mem
  rcases List.mem_append.mp mem with mem | mem
  · exact fromTop.prefix_of_mem_seen mem
  · rcases fromTop.leg last with reached | ⟨error, failed⟩
    · rw [reached] at mem
      cases mem
    · rw [failed] at mem
      cases mem

/-- **A path leads to the same place** where what is looked at on the way has the same shape. -/
theorem locate_eq_of_seen {path : Location} (same : ∀ location ∈ tree.pathSeen last path,
    other.shapeAt? location = tree.shapeAt? location) : other.locate last path = tree.locate last path := by
  rw [locate, locate, walk_eq_of_seen same]

/-- A path leads to a directory in both trees or in neither, where what is looked at on the way has the same
shape. -/
theorem pathIsDirectory_eq_of_seen {path : Location} (same : ∀ location ∈ tree.pathSeen .follow path,
    other.shapeAt? location = tree.shapeAt? location) : other.pathIsDirectory path = tree.pathIsDirectory path := by
  rw [Bool.eq_iff_iff, pathIsDirectory_iff, pathIsDirectory_iff, locate_eq_of_seen same]
  refine exists_congr fun location => ?_
  rw [exists_and_left, exists_and_left]
  refine and_congr_right fun located => ?_
  rw [← shapeAt?_eq_directory, ← shapeAt?_eq_directory, same location (locate_ok.mp located).2.2.mem_walkSeen]

end ConfinedShell.FileTree
