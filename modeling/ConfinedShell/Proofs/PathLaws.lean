import ConfinedShell.VirtualPath

/-!
# The algebra of virtual paths

A text is read component by component, so a text that continues behind a separator is read in two parts
(`components_append_slash`). The written form of a path gives its segments back (`foldl_follow_text`), and with it every
law that relates joining to writing follows from the laws of a fold.

**A normal form.** The lists of segments that are reached from the root by reading, joining, naming an entry and going
up are exactly the lists of segments that are filled, no dots and free of separators
(`VirtualPath.segments_reached_iff`).
-/

set_option autoImplicit false

namespace ConfinedShell

/-! ## Components -/

/-- A segment, with the two separators by name. -/
theorem isSegment_iff {s : String} :
    IsSegment s ↔ s ≠ "" ∧ s ≠ "." ∧ s ≠ ".." ∧ '/' ∉ s.toList ∧ '\\' ∉ s.toList := by
  have free : (∀ c ∈ s.toList, isSeparator c = false) ↔ '/' ∉ s.toList ∧ '\\' ∉ s.toList := by
    constructor
    · exact fun all => ⟨fun mem => absurd (all _ mem) (by decide), fun mem => absurd (all _ mem) (by decide)⟩
    · rintro ⟨noSlash, noBackslash⟩ c mem
      simp only [isSeparator, Bool.or_eq_false_iff, beq_eq_false_iff_ne]
      exact ⟨fun same => noSlash (same ▸ mem), fun same => noBackslash (same ▸ mem)⟩
  rw [IsSegment, free]

/-- A text that goes on behind a slash has the components of both parts. -/
theorem components_append_slash (front back : String) :
    components (front ++ "/" ++ back) = components front ++ components back := by
  have spelt : (front ++ "/" ++ back).toList = front.toList ++ '/' :: back.toList := by simp
  rw [components, spelt, List.splitOnP_append_cons _ _ (by decide), List.map_append]
  rfl

/-- A text without separators is its only component. -/
theorem components_of_free {s : String} (free : ∀ c ∈ s.toList, isSeparator c = false) : components s = [s] := by
  rw [components, List.splitOnP_eq_singleton free, List.map_singleton, String.ofList_toList]

/-- Following a segment goes down to it. -/
theorem follow_of_isSegment {s : String} (segment : IsSegment s) (base : List String) :
    follow base s = base ++ [s] := by
  obtain ⟨filled, noDot, noDots, -⟩ := segment
  rw [follow, if_neg (by simp [filled, noDot]), if_neg noDots]

/-- Following segments goes down to the last of them. -/
theorem foldl_follow_segments {segments : List String} (all : ∀ s ∈ segments, IsSegment s) (base : List String) :
    segments.foldl follow base = base ++ segments := by
  induction segments generalizing base with
  | nil => exact (List.append_nil base).symm
  | cons s rest ih =>
    obtain ⟨segment, others⟩ := List.forall_mem_cons.mp all
    rw [List.foldl_cons, follow_of_isSegment segment, ih others, List.append_assoc]
    rfl

/-- The components of a segment with others behind it, a slash in front of each, are these segments. -/
theorem components_append_join {s : String} {rest : List String} (all : ∀ t ∈ s :: rest, IsSegment t) :
    components (s ++ String.join (rest.map ("/" ++ ·))) = s :: rest := by
  induction rest generalizing s with
  | nil =>
    have alone : s ++ String.join ([].map ("/" ++ ·)) = s := by simp
    rw [alone, components_of_free (all s List.mem_cons_self).2.2.2]
  | cons next rest ih =>
    obtain ⟨segment, others⟩ := List.forall_mem_cons.mp all
    have spelt : s ++ String.join ((next :: rest).map ("/" ++ ·)) =
        s ++ "/" ++ (next ++ String.join (rest.map ("/" ++ ·))) := by simp [String.append_assoc]
    rw [spelt, components_append_slash, ih others, components_of_free segment.2.2.2]
    rfl

namespace VirtualPath

variable (p q : VirtualPath)

/-! ## Written forms -/

/-- Reading the written form of a path goes down its segments. -/
theorem foldl_follow_text (base : List String) : (components p.text).foldl follow base = base ++ p.segments := by
  rw [text]
  cases segments : p.segments with
  | nil =>
    have parts : components "/" = ["", ""] := by decide
    simp [parts, follow]
  | cons first rest =>
    have all : ∀ s ∈ first :: rest, IsSegment s := segments ▸ p.isSegment
    have spelt : String.join ((first :: rest).map ("/" ++ ·)) =
        "" ++ "/" ++ (first ++ String.join (rest.map ("/" ++ ·))) := by simp [String.append_assoc]
    have parts : components "" = [""] := by decide
    rw [List.isEmpty_cons, if_neg Bool.false_ne_true, spelt, components_append_slash, parts, components_append_join all,
      List.foldl_append, foldl_follow_segments all]
    rfl

/-- A written form is absolute. -/
theorem isAbsolute_text : isAbsolute p.text = true := by
  rw [text]
  cases p.segments with
  | nil => decide
  | cons first rest => simp [isAbsolute, isSeparator]

/-- A text is as absolute as what it begins with. -/
theorem isAbsolute_append {front : String} (filled : front ≠ "") (back : String) :
    isAbsolute (front ++ back) = isAbsolute front := by
  obtain ⟨c, cs, letters⟩ := List.exists_cons_of_ne_nil (fun empty => filled (String.toList_eq_nil_iff.mp empty))
  simp [isAbsolute, letters]

theorem segments_join (input : String) : (p.join input).segments =
    (components input).foldl follow (if isAbsolute input then [] else p.segments) :=
  rfl

/-! ## Joining -/

/-- **Joining a written form** leads to the path that was written, from everywhere. -/
theorem join_text : p.join q.text = q := by
  ext1
  rw [segments_join, isAbsolute_text, if_pos rfl, foldl_follow_text, List.nil_append]

/-- **A written form is read again.** -/
theorem parse_text : parse p.text = p :=
  root.join_text p

/-- **Joining a relative text** is reading it behind the written form. -/
theorem parse_text_append {input : String} (relative : isAbsolute input = false) :
    parse (p.text ++ "/" ++ input) = p.join input := by
  ext1
  rw [parse, segments_join, segments_join, components_append_slash, List.foldl_append, relative]
  simp [foldl_follow_text]

/-- **Joining twice** is joining both texts with a slash between them, when the second is relative. -/
theorem join_join {first second : String} (filled : first ≠ "") (relative : isAbsolute second = false) :
    (p.join first).join second = p.join (first ++ "/" ++ second) := by
  ext1
  rw [segments_join, relative, if_neg Bool.false_ne_true, segments_join, segments_join, components_append_slash,
    List.foldl_append, String.append_assoc, isAbsolute_append filled]

/-! ## Entries -/

/-- In a directory, the entry with the name of a segment has one segment more. -/
theorem segments_child {name : String} (segment : IsSegment name) :
    (p.child name).segments = p.segments ++ [name] := by
  obtain ⟨c, cs, letters⟩ := List.exists_cons_of_ne_nil (fun empty => segment.1 (String.toList_eq_nil_iff.mp empty))
  have free : isSeparator c = false := segment.2.2.2 c (by simp [letters])
  have kept : String.ofList (name.toList.dropWhile isSeparator) = name := by
    rw [letters, List.dropWhile_cons_of_neg (by simp [free]), ← letters, String.ofList_toList]
  have relative : isAbsolute name = false := by simp [isAbsolute, letters, free]
  rw [child, kept, segments_join, relative, components_of_free segment.2.2.2, List.foldl_cons,
    follow_of_isSegment segment]
  rfl

variable {p}

/-- A path with a name is what is above it with that name behind. -/
theorem segments_of_fileName? {name : String} (named : p.fileName? = some name) :
    p.segments = p.parent.segments ++ [name] := by
  obtain ⟨above, same⟩ := List.getLast?_eq_some_iff.mp named
  rw [segments_parent, same, List.dropLast_concat]

/-- Every path but the root has a name. -/
theorem exists_fileName? (below : ¬ p.isRoot = true) : ∃ name, p.fileName? = some name := by
  refine Option.ne_none_iff_exists'.mp fun none => below ?_
  rw [isRoot, List.getLast?_eq_none_iff.mp none]
  rfl

/-- **A path is an entry of the directory above it.** -/
theorem child_parent {name : String} (named : p.fileName? = some name) : p.parent.child name = p := by
  ext1
  have segment : IsSegment name := p.isSegment name (List.mem_of_getLast? named)
  rw [segments_child _ segment, segments_of_fileName? named]

/-! ## Steps -/

/-- **A step** makes one path of another. -/
inductive Step where
  | parse (input : String)
  | join (input : String)
  | child (name : String)
  | parent

/-- The path that a step leads to. -/
def step (path : VirtualPath) : Step → VirtualPath
  | .parse input => parse input
  | .join input => path.join input
  | .child name => path.child name
  | .parent => path.parent

/-- The path that steps from the root lead to. -/
def reached (steps : List Step) : VirtualPath :=
  steps.foldl step root

/-- Every path is reached, by reading its written form. -/
theorem reached_parse_text (p : VirtualPath) : reached [.parse p.text] = p :=
  p.parse_text

/-- **What steps lead to**: the lists of texts that are filled, no dots and free of separators, and no others. -/
theorem segments_reached_iff {segments : List String} : (∃ steps, (reached steps).segments = segments) ↔
    ∀ s ∈ segments, s ≠ "" ∧ s ≠ "." ∧ s ≠ ".." ∧ '/' ∉ s.toList ∧ '\\' ∉ s.toList := by
  simp only [← isSegment_iff]
  constructor
  · rintro ⟨steps, rfl⟩
    exact (reached steps).isSegment
  · exact fun all => ⟨[.parse (text ⟨segments, all⟩)], congrArg _ (reached_parse_text ⟨segments, all⟩)⟩

/-- **Virtual paths are a normal form with a sound algebra.** The paths that steps from the root lead to have exactly
the lists of segments that are filled, no dots and free of separators. For any paths and any texts: a written form is
read again, and joining it leads to the path that was written; joining a relative text is reading it behind the written
form; joining two texts, the second of them relative, is joining them with a slash in between, also when the second
climbs out of the first or above the root; and a path below the root is the entry of its name in the directory above. -/
theorem normal_form :
    (∀ segments : List String, (∃ steps, (reached steps).segments = segments) ↔
        ∀ s ∈ segments, s ≠ "" ∧ s ≠ "." ∧ s ≠ ".." ∧ '/' ∉ s.toList ∧ '\\' ∉ s.toList) ∧
      ∀ (p q : VirtualPath) (a b : String),
        parse p.text = p ∧ p.join q.text = q ∧
        (isAbsolute a = false → p.join a = parse (p.text ++ "/" ++ a)) ∧
        (a ≠ "" → isAbsolute b = false → (p.join a).join b = p.join (a ++ "/" ++ b)) ∧
        (p ≠ root → ∃ name, p.fileName? = some name ∧ p.parent.child name = p) := by
  refine ⟨fun segments => segments_reached_iff, fun p q a b => ⟨p.parse_text, p.join_text q, ?_, ?_, fun below => ?_⟩⟩
  · exact fun relative => (p.parse_text_append relative).symm
  · exact fun filled relative => p.join_join filled relative
  · have notTop : ¬ p.isRoot = true := fun top => below (VirtualPath.ext (List.isEmpty_iff.mp top))
    obtain ⟨name, named⟩ := exists_fileName? notTop
    exact ⟨name, named, child_parent named⟩

/-- The second text climbs out of the first, and then above the root; the separators are of both kinds. -/
theorem normal_form_of_climbing :
    let p := parse "x//./y"
    isAbsolute "..\\..\\../w" = false ∧ "a\\b/" ≠ "" ∧ p ≠ root ∧
      (p.join "a\\b/").join "..\\..\\../w" = p.join "a\\b//..\\..\\../w" ∧
      p.join "..\\..\\../w" = parse "/x/y/..\\..\\../w" ∧ p.parent.child "y" = p ∧
      (∃ steps, (reached steps).segments = ["..."]) := by
  intro p
  have relative : isAbsolute "..\\..\\../w" = false := by decide
  have filled : "a\\b/" ≠ "" := by decide
  have below : p ≠ root := by decide
  obtain ⟨reaches, laws⟩ := normal_form
  obtain ⟨-, -, spelt, -, entry⟩ := laws p p "..\\..\\../w" "..\\..\\../w"
  obtain ⟨-, -, -, twice, -⟩ := laws p p "a\\b/" "..\\..\\../w"
  obtain ⟨name, named, above⟩ := entry below
  have same : name = "y" := Option.some_inj.mp (named.symm.trans (by decide))
  exact ⟨relative, filled, below, twice filled relative, spelt relative, same ▸ above,
    (reaches ["..."]).mpr (by decide)⟩

end VirtualPath

end ConfinedShell
