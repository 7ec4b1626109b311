import ConfinedShell.Text.Pieces

/-!
# Virtual paths

A **virtual path** names a place inside the confined tree by the segments that lead to it from the
root `/`. It is a normal form: no segment is empty, `.` or `..`, and none holds a separator. Both
slashes separate. Joining a text to a path walks its components: an empty one and `.` stay, `..`
drops the last segment and does nothing at the root, and every other one is appended.
-/

set_option autoImplicit false

namespace ConfinedShell

/-- Both slashes separate the components of a path. -/
def isSeparator (c : Char) : Bool :=
  c == '/' || c == '\\'

/-- A segment is a component that names an entry. -/
def IsSegment (s : String) : Prop :=
  s ≠ "" ∧ s ≠ "." ∧ s ≠ ".." ∧ ∀ c ∈ s.toList, isSeparator c = false

/-- The components of a text, empty ones included. -/
def components (input : String) : List String :=
  (input.toList.splitOnP isSeparator).map String.ofList

/-- Follows one component from the place that `segments` name. -/
def follow (segments : List String) (component : String) : List String :=
  if component = "" ∨ component = "." then segments
  else if component = ".." then segments.dropLast
  else segments ++ [component]

/-- A component of a text holds no separator. -/
theorem not_separator_of_mem_components {input component : String}
    (h : component ∈ components input) : ∀ c ∈ component.toList, isSeparator c = false := by
  obtain ⟨piece, hpiece, rfl⟩ := List.mem_map.1 h
  rw [String.toList_ofList]
  exact Text.isFree_of_mem_splitOnP piece hpiece

/-- Following components that hold no separator keeps every segment a segment. -/
theorem isSegment_of_mem_foldl {cs base : List String}
    (hbase : ∀ s ∈ base, IsSegment s)
    (hcs : ∀ component ∈ cs, ∀ c ∈ component.toList, isSeparator c = false) :
    ∀ s ∈ cs.foldl follow base, IsSegment s := by
  induction cs generalizing base with
  | nil => exact hbase
  | cons component rest ih =>
    refine ih ?_ fun d hd => hcs d (List.mem_cons_of_mem _ hd)
    intro s hs
    unfold follow at hs
    split at hs
    · exact hbase s hs
    · next hstay =>
      split at hs
      · exact hbase s ((List.dropLast_sublist _).subset hs)
      · next hup =>
        rcases List.mem_append.1 hs with hs | hs
        · exact hbase s hs
        · obtain rfl := List.mem_singleton.1 hs
          exact ⟨fun h => hstay (.inl h), fun h => hstay (.inr h), hup, hcs s List.mem_cons_self⟩

/-- **A virtual path**: the segments from the root. -/
structure VirtualPath where
  segments : List String
  isSegment : ∀ s ∈ segments, IsSegment s
  deriving DecidableEq

namespace VirtualPath

/-- The root `/`. -/
def root : VirtualPath :=
  ⟨[], fun _ h => nomatch h⟩

instance : Inhabited VirtualPath := ⟨root⟩

/-- A text is absolute when it begins with a separator. -/
def isAbsolute (input : String) : Bool :=
  input.toList.head?.any isSeparator

/-- The place that `input` names when read at `path`; an absolute text starts at the root. -/
def join (path : VirtualPath) (input : String) : VirtualPath where
  segments := (components input).foldl follow (if isAbsolute input then [] else path.segments)
  isSegment := by
    refine isSegment_of_mem_foldl ?_ fun component h => not_separator_of_mem_components h
    split
    · exact fun _ h => nomatch h
    · exact path.isSegment

/-- The place that `input` names when read at the root. -/
def parse (input : String) : VirtualPath :=
  root.join input

/-- The entry called `name` in the directory `path`; separators in front of the name are dropped. -/
def child (path : VirtualPath) (name : String) : VirtualPath :=
  path.join (String.ofList (name.toList.dropWhile isSeparator))

/-- The directory that holds `path`; the root holds itself. -/
def parent (path : VirtualPath) : VirtualPath where
  segments := path.segments.dropLast
  isSegment s h := path.isSegment s ((List.dropLast_sublist _).subset h)

/-- The root is the path without segments. -/
def isRoot (path : VirtualPath) : Bool :=
  path.segments.isEmpty

/-- The last segment; the root has none. -/
def fileName? (path : VirtualPath) : Option String :=
  path.segments.getLast?

/-- The written form: each segment after a slash, and `/` for the root. -/
def text (path : VirtualPath) : String :=
  if path.segments.isEmpty then "/" else String.join (path.segments.map ("/" ++ ·))

@[ext] theorem ext {p q : VirtualPath} (h : p.segments = q.segments) : p = q := by
  cases p; cases q; cases h; rfl

@[simp] theorem segments_root : root.segments = [] := rfl

@[simp] theorem segments_parent (p : VirtualPath) : p.parent.segments = p.segments.dropLast := rfl

end VirtualPath

end ConfinedShell
