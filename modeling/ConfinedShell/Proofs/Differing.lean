import ConfinedShell.Proofs.Reports

/-!
# What `diff` tells

`diff` pairs the lines of two files, numbers the pairs from 1 on and names those whose lines differ. The pairs end where
the shorter file does, so the numbers are those up to the smaller count of lines at which the lines differ
(`Commands.differingLines_eq`). What it tells of them is joined to one text, and the session lays the text out as the
same lines again (`Commands.rows_report`).

**`diff` names exactly the lines that differ** (`Session.diff_names_differing_lines`), for any bytes in the two files.
It does so in whichever order they are named, and does not depend on what is behind the end of the shorter file.
-/

set_option autoImplicit false

namespace ConfinedShell

/-- A file that can be read is regular. -/
theorem Resolved.isRegular_of_readFile {path : Resolved} {tree : FileTree} {bytes : Text.Bytes}
    (read : tree.readFile path.physical = .ok bytes) : path.isRegular tree = true := by
  rw [isRegular, FileTree.pathIsRegular]
  rw [FileTree.readFile] at read
  cases reached : tree.stat path.physical with
  | error cause =>
    rw [reached] at read
    cases read
  | ok node =>
    rw [reached] at read
    cases node with
    | file => rfl
    | directory | link => cases read

namespace Commands

/-! ## The lines that differ -/

/-- The numbers of two pairs of lines are counted on from the first. -/
theorem differing_from (left right : List String) (start : Nat) :
    (((left.zip right).zipIdx start).filter fun entry => entry.1.1 ≠ entry.1.2).map (·.2) =
      (List.range' start (min left.length right.length)).filter fun k => left[k - start]? ≠ right[k - start]? := by
  induction left generalizing right start with
  | nil => simp
  | cons first rest ih =>
    cases right with
    | nil => simp
    | cons other others =>
      have behind : (List.range' (start + 1) (min rest.length others.length)).filter
            (fun k => (first :: rest)[k - start]? ≠ (other :: others)[k - start]?) =
          (List.range' (start + 1) (min rest.length others.length)).filter
            (fun k => rest[k - (start + 1)]? ≠ others[k - (start + 1)]?) := by
        refine List.filter_congr fun k mem => ?_
        have later : k - start = k - (start + 1) + 1 := by
          have := (List.mem_range'_1.mp mem).1
          omega
        rw [later, List.getElem?_cons_succ, List.getElem?_cons_succ]
      have counted : min (first :: rest).length (other :: others).length = min rest.length others.length + 1 := by
        simp only [List.length_cons]
        omega
      rw [counted, List.range'_succ, List.filter_cons, behind, ← ih, List.zip_cons_cons, List.zipIdx_cons,
        List.filter_cons]
      by_cases same : first = other <;> simp [same]

/-- **The lines that differ**: up to the smaller count of lines, those numbers at which two lines stand that are not the
same. -/
theorem differingLines_eq (left right : List String) : differingLines left right =
    (List.range' 1 (min left.length right.length)).filter fun k => left[k - 1]? ≠ right[k - 1]? :=
  differing_from left right 1

theorem differingLines_comm (left right : List String) : differingLines left right = differingLines right left := by
  rw [differingLines_eq, differingLines_eq, Nat.min_comm]
  exact List.filter_congr fun k _ => decide_eq_decide.mpr ne_comm

theorem differingLines_self (lines : List String) : differingLines lines lines = [] := by
  simp [differingLines_eq]

/-- No line differs exactly when all do agree. -/
theorem differingLines_eq_nil_iff {left right : List String} : differingLines left right = [] ↔
    ∀ k, 1 ≤ k → k ≤ min left.length right.length → left[k - 1]? = right[k - 1]? := by
  rw [differingLines_eq, List.filter_eq_nil_iff]
  simp only [List.mem_range'_1, decide_eq_true_eq, not_not]
  constructor
  · exact fun all k first last => all k ⟨first, by omega⟩
  · exact fun all k inside => all k inside.1 (by omega)

/-- Only the lines count up to the end of the shorter text. -/
theorem differingLines_congr {left right otherLeft otherRight : List String}
    (count : min otherLeft.length otherRight.length = min left.length right.length)
    (sameLeft : otherLeft.take (min left.length right.length) = left.take (min left.length right.length))
    (sameRight : otherRight.take (min left.length right.length) = right.take (min left.length right.length)) :
    differingLines otherLeft otherRight = differingLines left right := by
  have line {one other : List String} {k : Nat}
      (same : one.take (min left.length right.length) = other.take (min left.length right.length))
      (inside : k - 1 < min left.length right.length) : one[k - 1]? = other[k - 1]? := by
    rw [← List.getElem?_take_of_lt inside, same, List.getElem?_take_of_lt inside]
  rw [differingLines_eq, differingLines_eq, count]
  refine List.filter_congr fun k mem => ?_
  have inside := List.mem_range'_1.mp mem
  rw [line sameLeft (by omega), line sameRight (by omega)]

/-! ## The report -/

/-- What is told of the lines that differ, line by line. -/
def report : List Nat → List String
  | [] => ["files are identical"]
  | numbers => numbers.map fun n => Text.decimal n ++ "c difference"

/-- The report is laid out as it is. -/
theorem rows_report (numbers : List Nat) : Text.rows (Text.joinWith "\n" (report numbers)) = report numbers := by
  have plain : Text.Plain "c difference" := by decide
  cases numbers with
  | nil => decide
  | cons first rest =>
    refine Text.rows_joinWith (fun line mem => ?_) (fun empty => ?_)
    · obtain ⟨n, -, rfl⟩ := List.mem_map.mp mem
      exact ((Text.plain_decimal n).append plain).isRow
    · obtain ⟨n, -, same⟩ := List.mem_map.mp (List.mem_of_getLast? empty)
      have filled := congrArg String.length same
      simp at filled

/-- Files are told to be identical only if no line differs. -/
theorem report_eq_identical_iff {numbers : List Nat} : report numbers = ["files are identical"] ↔ numbers = [] := by
  cases numbers with
  | nil => exact iff_of_true rfl rfl
  | cons first rest =>
    refine iff_of_false (fun same => ?_) (List.cons_ne_nil _ _)
    obtain ⟨line, -⟩ := List.cons.inj same
    have ends := congrArg (fun s => s.toList.getLast?) line
    simp [List.getLast?_append] at ends

variable {around : Surroundings} {scene : Scene} {first second : String} {left right : Resolved}
  {leftText rightText : String}

/-- Two files that can be read are compared. -/
theorem diff_ok (found : around.sandbox.resolve scene.tree scene.cwd first = .ok left)
    (foundOther : around.sandbox.resolve scene.tree scene.cwd second = .ok right)
    (regular : left.isRegular scene.tree = true) (regularOther : right.isRegular scene.tree = true)
    (read : left.readText scene.tree = .ok leftText) (readOther : right.readText scene.tree = .ok rightText) :
    diff.run around [first, second] scene =
      .ok (.text (Text.joinWith "\n" (report (differingLines (Text.lines leftText) (Text.lines rightText)))))
        scene := by
  refine (Action.bind_of_ok (Action.resolve_ok found)).trans ?_
  refine (Action.bind_of_ok (Action.resolve_ok foundOther)).trans ?_
  show (if (!left.isRegular scene.tree || !right.isRegular scene.tree) = true then _ else _ : Action Output) scene = _
  rw [regular, regularOther, if_neg (by decide)]
  refine (Action.bind_of_ok (Action.query_ok read)).trans ?_
  refine (Action.bind_of_ok (Action.query_ok readOther)).trans ?_
  cases differingLines (Text.lines leftText) (Text.lines rightText) <;> rfl

end Commands

namespace Session

variable {σ : Type} {session : Session σ} {now : Moment} {line first second : String} {bytes other : Text.Bytes}

/-- **What `diff` adds** for two files that can be read. -/
theorem added_diff (found : session.registry.find? "diff" = some Commands.diff) (reads : session.Reads first bytes)
    (readsOther : session.Reads second other) (now : Moment)
    (tokens : tokenize (Text.trim line) = some ("diff", [first, second])) :
    session.added now line = Commands.report
      (Commands.differingLines (Text.lines (Text.decodeLossy bytes)) (Text.lines (Text.decodeLossy other))) := by
  obtain ⟨left, resolved, read⟩ := reads
  obtain ⟨right, resolvedOther, readOther⟩ := readsOther
  have ended (around : Surroundings) (inSandbox : around.sandbox = session.sandbox) :=
    Commands.diff_ok (inSandbox ▸ resolved) (inSandbox ▸ resolvedOther)
      (Resolved.isRegular_of_readFile read) (Resolved.isRegular_of_readFile readOther)
      (Resolved.readText_ok read) (Resolved.readText_ok readOther)
  rw [(Ends.of_run tokens found (ended _ rfl)).added]
  exact Commands.rows_report _

/-- **`diff` names exactly the lines that differ.** Take two files that can be read, whatever their bytes are, and let
`m` be the smaller of their counts of lines. `diff` tells the numbers from 1 to `m` at which the lines differ, each once
and in increasing order, and that the files are identical exactly when the first `m` lines agree. It tells the same for
the files in the other order, it tells that a file is identical to itself, and it tells the same in every session in
which the two files differ from these only in lines behind the `m`-th, so that `m` is the same as well. -/
theorem diff_names_differing_lines (found : session.registry.find? "diff" = some Commands.diff)
    (reads : session.Reads first bytes) (readsOther : session.Reads second other)
    (tokens : tokenize (Text.trim line) = some ("diff", [first, second])) (now : Moment) :
    let left := Text.lines (Text.decodeLossy bytes)
    let right := Text.lines (Text.decodeLossy other)
    let m := min left.length right.length
    session.added now line =
        Commands.report ((List.range' 1 m).filter fun k => left[k - 1]? ≠ right[k - 1]?) ∧
      (session.added now line = ["files are identical"] ↔ ∀ k, 1 ≤ k → k ≤ m → left[k - 1]? = right[k - 1]?) ∧
      (∀ line' later, tokenize (Text.trim line') = some ("diff", [second, first]) →
        session.added later line' = session.added now line) ∧
      (∀ line' later, tokenize (Text.trim line') = some ("diff", [first, first]) →
        session.added later line' = ["files are identical"]) ∧
      ∀ (changed : Session σ) (bytes' other' : Text.Bytes) (later : Moment),
        changed.registry.find? "diff" = some Commands.diff → changed.Reads first bytes' → changed.Reads second other' →
        min (Text.lines (Text.decodeLossy bytes')).length (Text.lines (Text.decodeLossy other')).length = m →
        (Text.lines (Text.decodeLossy bytes')).take m = left.take m →
        (Text.lines (Text.decodeLossy other')).take m = right.take m →
          changed.added later line = session.added now line := by
  intro left right m
  have added : session.added now line = Commands.report (Commands.differingLines left right) :=
    added_diff found reads readsOther now tokens
  refine ⟨?_, ?_, fun line' later back => ?_, fun line' later same => ?_, ?_⟩
  · rw [added, Commands.differingLines_eq]
  · rw [added, Commands.report_eq_identical_iff, Commands.differingLines_eq_nil_iff]
  · rw [added_diff found readsOther reads later back, Commands.differingLines_comm, added]
  · rw [added_diff found reads reads later same, Commands.differingLines_self]
    rfl
  · intro changed bytes' other' later known readsFirst readsSecond count sameLeft sameRight
    have same := Commands.differingLines_congr count sameLeft sameRight
    rw [added_diff known readsFirst readsSecond later tokens, same, added]

end Session

namespace Twins

/-- A session in a root with two files. -/
def session (bytes other : Text.Bytes) : Session Unit :=
  .start ⟨Commands.builtin ""⟩ ⟨["root"]⟩ (Clock.fixed ⟨2024, 1, 1, 0, 0, 0⟩ 0)
    (.directory [("root", .directory [("f", .file bytes), ("g", .file other)])]) ()

theorem reads (bytes other : Text.Bytes) : (session bytes other).Reads "f" bytes :=
  ⟨⟨VirtualPath.parse "/f", ["root", "f"]⟩, rfl, rfl⟩

theorem reads_other (bytes other : Text.Bytes) : (session bytes other).Reads "g" other :=
  ⟨⟨VirtualPath.parse "/g", ["root", "g"]⟩, rfl, rfl⟩

/-- Two lines that end in carriage returns, a line that differs and a last line that is not ended. -/
def returned : Text.Bytes :=
  Text.encode "one\r\n\r\n" ++ [0xFF] ++ Text.encode "\nlast"

/-- The same first two lines and the same last one, and others behind it. -/
def longer : Text.Bytes :=
  Text.encode "one\n\nthree\nlast\nfive\n\n"

/-- The first four lines and another one behind them. -/
def other : Text.Bytes :=
  Text.encode "one\n\nthree\nlast\nV"

end Twins

namespace Session

open Twins in
/-- Only the third of the four common lines differs, whatever follows them. -/
theorem diff_names_third_line :
    let session := Twins.session returned longer
    session.added 0 "diff f g" = ["3c difference"] ∧ session.added 1 "diff  g f" = ["3c difference"] ∧
      session.added 2 "diff f f" = ["files are identical"] ∧
      (Twins.session returned other).added 3 "diff f g" = ["3c difference"] := by
  intro session
  have found (bytes other : Text.Bytes) : (Twins.session bytes other).registry.find? "diff" = some Commands.diff := rfl
  have tokens : tokenize (Text.trim "diff f g") = some ("diff", ["f", "g"]) := by decide +kernel
  have back : tokenize (Text.trim "diff  g f") = some ("diff", ["g", "f"]) := by decide +kernel
  have same : tokenize (Text.trim "diff f f") = some ("diff", ["f", "f"]) := by decide +kernel
  obtain ⟨added, -, swapped, alone, changed⟩ := diff_names_differing_lines (found returned longer)
    (Twins.reads returned longer) (Twins.reads_other returned longer) tokens 0
  have third : session.added 0 "diff f g" = ["3c difference"] := added.trans (by decide +kernel)
  refine ⟨third, (swapped _ 1 back).trans third, alone _ 2 same, Eq.trans ?_ third⟩
  exact changed _ returned other 3 (found returned other) (Twins.reads returned other)
    (Twins.reads_other returned other) (by decide +kernel) (by decide +kernel) (by decide +kernel)

end Session

end ConfinedShell
