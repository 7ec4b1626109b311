import ConfinedShell.Editor

/-!
# Lines, rows and what is joined

The readers of lines and of rows differ in a last line that no line feed ends, and there in a carriage return alone.
So they agree on a text exactly when the text does not end in a carriage return (`Text.lines_eq_rows_iff`).

Lines that are joined by line feeds, with one more at the end, are read as the same lines, but for a carriage return
at the end of each, which then belongs to the line feed (`Text.lines_joined`). Texts that are joined without one at the
end are laid out as the same rows, if a carriage return ends none of them and the last is not empty
(`Text.rows_joinWith`).
-/

set_option autoImplicit false

namespace ConfinedShell.Text

/-- A text **ends in a return** when a carriage return is its last character. -/
def EndsInReturn (s : String) : Prop :=
  s.toList.getLast? = some '\r'

instance (s : String) : Decidable (EndsInReturn s) :=
  inferInstanceAs (Decidable (_ = _))

/-- A text **is one line** when no line feed is in it. -/
def OneLine (s : String) : Prop :=
  '\n' ∉ s.toList

instance (s : String) : Decidable (OneLine s) :=
  inferInstanceAs (Decidable (¬ _))

/-- A line without one carriage return at its end. -/
def chop (line : String) : String :=
  String.ofList (chopReturn line.toList)

/-! ## Carriage returns -/

/-- Only a carriage return at the end is taken off. -/
theorem chopReturn_eq_self_iff {cs : List Char} : chopReturn cs = cs ↔ cs.getLast? ≠ some '\r' := by
  rw [chopReturn]
  split
  · next ends =>
    refine iff_of_false (fun same => ?_) (fun differ => differ ends)
    have shorter := congrArg List.length same
    obtain ⟨front, rfl⟩ := List.getLast?_eq_some_iff.mp ends
    simp at shorter
  · next ends => exact iff_of_true rfl ends

theorem chop_eq_self_iff {line : String} : chop line = line ↔ ¬ EndsInReturn line := by
  rw [chop, ← String.toList_inj, String.toList_ofList]
  exact chopReturn_eq_self_iff

theorem mem_of_mem_chopReturn {cs : List Char} {c : Char} (mem : c ∈ chopReturn cs) : c ∈ cs := by
  rw [chopReturn] at mem
  split at mem
  · exact List.dropLast_subset _ mem
  · exact mem

/-- One line stays one without its carriage return. -/
theorem OneLine.chop {line : String} (oneLine : OneLine line) : OneLine (chop line) := by
  rw [OneLine, Text.chop, String.toList_ofList]
  exact fun lineFeed => oneLine (mem_of_mem_chopReturn lineFeed)

/-! ## The last line -/

/-- What stands behind the last line feed of a text, or all of a text without one. -/
theorem exists_unended (cs : List Char) :
    ∃ unended, '\n' ∉ unended ∧ (cs = unended ∨ ∃ front, cs = front ++ '\n' :: unended) := by
  by_cases mem : '\n' ∈ cs
  · obtain ⟨behind, front, split, free⟩ := List.eq_append_cons_of_mem (List.mem_reverse.mpr mem)
    refine ⟨behind.reverse, fun mem => free (List.mem_reverse.mp mem), .inr ⟨front.reverse, ?_⟩⟩
    have same := congrArg List.reverse split
    simpa using same
  · exact ⟨cs, mem, .inl rfl⟩

theorem splitOnP_of_free {cs : List Char} (free : '\n' ∉ cs) : cs.splitOnP (· == '\n') = [cs] := by
  refine List.splitOnP_eq_singleton fun c mem => ?_
  rw [beq_eq_false_iff_ne]
  rintro rfl
  exact free mem

/-- The lines of a text that no line feed is in. -/
theorem linesWith_of_free (unended : List Char → List Char) {cs : List Char} (free : '\n' ∉ cs) :
    linesWith unended cs = if cs = [] then [] else [unended cs] := by
  rw [linesWith, splitOnP_of_free free]
  cases cs <;> rfl

/-- The lines in front of the last line feed, and what is behind it. -/
theorem linesWith_append (unended : List Char → List Char) (front : List Char) {cs : List Char}
    (free : '\n' ∉ cs) : linesWith unended (front ++ '\n' :: cs) =
      (front.splitOnP (· == '\n')).map chopReturn ++ if cs = [] then [] else [unended cs] := by
  have cut := List.splitOnP_append_cons (p := (· == '\n')) front cs (beq_self_eq_true '\n')
  rw [linesWith, cut, splitOnP_of_free free]
  cases cs <;> simp

/-- **Lines and rows are the same** unless the text ends in a carriage return. -/
theorem lines_eq_rows_iff {s : String} : lines s = rows s ↔ ¬ EndsInReturn s := by
  have inj : ∀ one other : List (List Char), one.map String.ofList = other.map String.ofList ↔ one = other :=
    fun one other => List.map_inj_right fun _ _ same => String.ofList_injective same
  rw [lines, rows, inj, EndsInReturn]
  obtain ⟨unended, free, split⟩ := exists_unended s.toList
  have last : (if unended = [] then [] else [id unended]) = (if unended = [] then [] else [chopReturn unended]) ↔
      unended.getLast? ≠ some '\r' := by
    by_cases nothing : unended = []
    · simp [nothing]
    · rw [if_neg nothing, if_neg nothing, List.cons.injEq, and_iff_left rfl, eq_comm]
      exact chopReturn_eq_self_iff
  rcases split with whole | ⟨front, whole⟩
  · rw [whole, linesWith_of_free _ free, linesWith_of_free _ free]
    exact last
  · rw [whole, linesWith_append _ _ free, linesWith_append _ _ free, List.append_cancel_left_eq]
    refine last.trans (not_congr ?_)
    rw [List.getLast?_append, List.getLast?_cons]
    cases unended.getLast? <;> simp

/-! ## Lines that are read -/

/-- No line that is read holds a line feed. -/
theorem oneLine_of_mem_lines {s line : String} (mem : line ∈ lines s) : OneLine line := by
  obtain ⟨cs, among, rfl⟩ := List.mem_map.mp mem
  rw [OneLine, String.toList_ofList]
  have free : ∀ piece ∈ s.toList.splitOnP (· == '\n'), '\n' ∉ piece := fun piece mem lineFeed => by
    have other := isFree_of_mem_splitOnP piece mem _ lineFeed
    cases other
  rw [linesWith] at among
  rcases List.mem_append.mp among with mem | mem
  · obtain ⟨piece, cut, rfl⟩ := List.mem_map.mp mem
    exact fun lineFeed => free piece (List.dropLast_subset _ cut) (mem_of_mem_chopReturn lineFeed)
  · split at mem
    · cases mem
    · cases mem
    · next last _ isLast =>
      rw [List.mem_singleton.mp mem]
      exact free _ (List.mem_of_getLast? isLast)

/-! ## Lines that are joined -/

/-- Joined lines are cut at the line feeds again. -/
theorem splitOnP_joined {buffer : List String} (ne : buffer ≠ []) (oneLine : ∀ line ∈ buffer, OneLine line) :
    (joinWith "\n" buffer ++ "\n").toList.splitOnP (· == '\n') = buffer.map String.toList ++ [[]] := by
  induction buffer with
  | nil => exact absurd rfl ne
  | cons line rest ih =>
    obtain ⟨free, freeRest⟩ := List.forall_mem_cons.mp oneLine
    have cut (cs : List Char) : (line.toList ++ '\n' :: cs).splitOnP (· == '\n') =
        line.toList :: cs.splitOnP (· == '\n') := by
      have whole := List.splitOnP_append_cons (p := (· == '\n')) line.toList cs (beq_self_eq_true '\n')
      rw [whole, splitOnP_of_free free, List.singleton_append]
    cases rest with
    | nil =>
      have spelt : (joinWith "\n" [line] ++ "\n").toList = line.toList ++ '\n' :: [] := by simp [joinWith]
      rw [spelt, cut]
      rfl
    | cons next rest =>
      have spelt : (joinWith "\n" (line :: next :: rest) ++ "\n").toList =
          line.toList ++ '\n' :: (joinWith "\n" (next :: rest) ++ "\n").toList := by simp [joinWith]
      rw [spelt, cut, ih (List.cons_ne_nil _ _) freeRest]
      rfl

/-- **Joined lines are read again**, each without a carriage return at its end. -/
theorem lines_joined {buffer : List String} (ne : buffer ≠ []) (oneLine : ∀ line ∈ buffer, OneLine line) :
    lines (joinWith "\n" buffer ++ "\n") = buffer.map chop := by
  rw [lines, linesWith, splitOnP_joined ne oneLine, List.dropLast_concat, List.getLast?_concat]
  simp [chop]

/-- Lines that are joined to the same text are the same. -/
theorem joined_inj {buffer other : List String} (ne : buffer ≠ []) (neOther : other ≠ [])
    (oneLine : ∀ line ∈ buffer, OneLine line) (oneLineOther : ∀ line ∈ other, OneLine line)
    (same : joinWith "\n" buffer ++ "\n" = joinWith "\n" other ++ "\n") : buffer = other := by
  have pieces := splitOnP_joined ne oneLine
  rw [same, splitOnP_joined neOther oneLineOther] at pieces
  have cut := List.append_cancel_right pieces
  exact (List.map_inj_right fun _ _ same => String.toList_inj.mp same).mp cut.symm

/-! ## Rows that are joined -/

/-- A text **is a row** when no line feed is in it and no carriage return ends it. -/
structure IsRow (s : String) : Prop where
  oneLine : OneLine s
  unreturned : ¬ EndsInReturn s

/-- A text **is plain** when no line feed and no carriage return is in it. -/
def Plain (s : String) : Prop :=
  ∀ c ∈ s.toList, c ≠ '\n' ∧ c ≠ '\r'

instance (s : String) : Decidable (Plain s) :=
  List.decidableBAll (fun c => c ≠ '\n' ∧ c ≠ '\r') s.toList

namespace Plain

variable {s front back : String}

theorem isRow (plain : Plain s) : IsRow s where
  oneLine := fun mem => (plain _ mem).1 rfl
  unreturned := fun last => (plain _ (List.mem_of_getLast? last)).2 rfl

theorem append (first : Plain front) (last : Plain back) : Plain (front ++ back) := by
  intro c mem
  rcases List.mem_append.mp (String.toList_append ▸ mem) with mem | mem
  · exact first c mem
  · exact last c mem

theorem joinWith {separator : String} (between : Plain separator) {parts : List String}
    (all : ∀ part ∈ parts, Plain part) : Plain (joinWith separator parts) := by
  induction parts with
  | nil => exact nofun
  | cons part rest ih =>
    obtain ⟨plain, others⟩ := List.forall_mem_cons.mp all
    cases rest with
    | nil => exact plain
    | cons next rest => exact (plain.append between).append (ih others)

end Plain

theorem plain_spaces (count : Nat) : Plain (spaces count) := by
  intro c mem
  rw [spaces, String.toList_ofList] at mem
  rw [(List.mem_replicate.mp mem).2]
  decide

/-- The digits of a number are plain. -/
theorem plain_digits {n : Nat} {c : Char} (mem : c ∈ Nat.toDigits 10 n) : c ≠ '\n' ∧ c ≠ '\r' := by
  have isDigit := Nat.isDigit_of_mem_toDigits (by decide) (by decide) mem
  constructor
  · rintro rfl
    cases isDigit
  · rintro rfl
    cases isDigit

theorem plain_decimal (n : Nat) : Plain (decimal n) := by
  intro c mem
  rw [decimal, String.toList_ofList] at mem
  exact plain_digits mem

theorem plain_zeroFilled (width n : Nat) : Plain (zeroFilled width n) := by
  intro c mem
  rw [zeroFilled, String.toList_ofList] at mem
  rcases List.mem_append.mp mem with mem | mem
  · rw [(List.mem_replicate.mp mem).2]
    decide
  · exact plain_digits mem

/-- The first line of a text is read, and then the others. -/
theorem linesWith_line (unended : List Char → List Char) {line : List Char} (free : '\n' ∉ line) (cs : List Char) :
    linesWith unended (line ++ '\n' :: cs) = chopReturn line :: linesWith unended cs := by
  have cut := List.splitOnP_append_cons (p := (· == '\n')) line cs (beq_self_eq_true '\n')
  obtain ⟨first, others, pieces⟩ := List.exists_cons_of_ne_nil (List.splitOnP_ne_nil (· == '\n') cs)
  rw [linesWith, linesWith, cut, splitOnP_of_free free, pieces]
  simp

/-- **Joined rows are the rows of their text**, when the last of them is not empty. -/
theorem rows_joinWith {lines : List String} (areRows : ∀ line ∈ lines, IsRow line)
    (filled : lines.getLast? ≠ some "") : rows (joinWith "\n" lines) = lines := by
  induction lines with
  | nil => decide
  | cons line rest ih =>
    obtain ⟨⟨oneLine, unreturned⟩, others⟩ := List.forall_mem_cons.mp areRows
    have keeps : chopReturn line.toList = line.toList := chopReturn_eq_self_iff.mpr unreturned
    cases rest with
    | nil =>
      have nonempty : line.toList ≠ [] := fun empty => filled (congrArg some (String.toList_eq_nil_iff.mp empty))
      rw [joinWith, rows, linesWith_of_free _ oneLine, if_neg nonempty, keeps]
      simp
    | cons next rest =>
      have known : rows (joinWith "\n" (next :: rest)) = next :: rest := ih others filled
      have spelt : (joinWith "\n" (line :: next :: rest)).toList =
          line.toList ++ '\n' :: (joinWith "\n" (next :: rest)).toList := by simp [joinWith]
      rw [rows, spelt, linesWith_line _ oneLine, keeps, List.map_cons, String.ofList_toList]
      exact congrArg _ known

end ConfinedShell.Text
