import ConfinedShell.Proofs.Reports
import Mathlib.Data.List.Basic

/-!
# A month as a grid

The rows of a month are filled from the left: blank cells in front of the first day, then the days, and a row ends with
its seventh cell. Cutting into rows loses nothing (`Calendar.flatten_weeks`), and what stands in a column of a row stood
at a place with that remainder by seven (`Calendar.exists_of_mem_weeks`).

**The library follows the Gregorian calendar.** This is all that is assumed of it (`Calendar.Dates.Follows`). The grid
takes two numbers from the library: the weekday of the first day, and how many days later the next month begins. The
latter is the length of the month, in December too (`Calendar.dayNumber_nextMonth`), and since the weekdays of a month
follow each other (`Calendar.weekday_eq`), a day is in the column of its weekday when as many cells as the weekday of
the first are blank.

**The lines are read, not the cells.** The statement `Calendar.Shows` is about lines of text: their cells are cut out of
them again, two characters each (`Calendar.cells`), and the numbers are read off the cells (`Calendar.day?`).
-/

set_option autoImplicit false

namespace ConfinedShell

namespace Calendar

variable {year : Int} {month : Nat}

/-! ## Dates -/

/-- The month after a month. -/
def nextMonth (year : Int) (month : Nat) : Int × Nat :=
  if month = 12 then (year + 1, 1) else (year, month + 1)

/-- A year is as long as the calendar says. -/
theorem daysBeforeYear_succ (year : Int) :
    daysBeforeYear (year + 1) = daysBeforeYear year + if isLeapYear year then 366 else 365 := by
  simp only [daysBeforeYear, isLeapYear, decide_eq_true_eq]
  split <;> omega

/-- The months of a year take up the year. -/
theorem daysBeforeMonth_last (year : Int) :
    daysBeforeMonth year 12 + monthLength year 12 = if isLeapYear year then 366 else 365 := by
  cases leap : isLeapYear year <;> simp [daysBeforeMonth, monthLength, leap]

/-- **The first of the next month** comes as many days later as the month is long. -/
theorem dayNumber_nextMonth (inYear : 1 ≤ month ∧ month ≤ 12) :
    dayNumber (nextMonth year month).1 (nextMonth year month).2 1 =
      dayNumber year month 1 + monthLength year month := by
  rw [nextMonth]
  split
  · next december =>
    have months := daysBeforeMonth_last year
    have none : daysBeforeMonth (year + 1) 1 = 0 := rfl
    rw [december]
    simp only [dayNumber, daysBeforeYear_succ, none]
    split at months <;> simp_all <;> omega
  · obtain ⟨before, rfl⟩ := Nat.exists_eq_add_of_le' inYear.1
    simp only [dayNumber, daysBeforeMonth]
    omega

/-- The weekdays of a month follow each other. -/
theorem weekday_eq {day : Nat} (first : 1 ≤ day) :
    weekday year month day = (weekday year month 1 + (day - 1)) % 7 := by
  simp only [weekday, dayNumber]
  omega

theorem weekday_lt (day : Nat) : weekday year month day < 7 := by
  simp only [weekday]
  omega

theorem monthLength_le : monthLength year month ≤ 31 := by
  rw [monthLength]
  split
  · split <;> omega
  · split <;> omega

theorem monthLength_pos : 0 < monthLength year month := by
  rw [monthLength]
  split
  · split <;> omega
  · split <;> omega

/-! ## A library of dates -/

/-- **A library that follows the Gregorian calendar.** It may know the dates of some years only; what it says of a date
that it knows is true of the calendar. -/
structure Dates.Follows (dates : Dates) : Prop where
  /-- A date is the day it was asked for, which is a day of the calendar. -/
  date : ∀ {year month day date}, dates.date? year month day = some date →
    date = ⟨year, month, day⟩ ∧ (1 ≤ month ∧ month ≤ 12) ∧ 1 ≤ day ∧ day ≤ monthLength year month
  weekday : ∀ {year month day date}, dates.date? year month day = some date →
    dates.weekday date = Calendar.weekday year month day
  daysBetween : ∀ {year month day first year' month' day' last}, dates.date? year month day = some first →
    dates.date? year' month' day' = some last →
      dates.daysBetween first last = dayNumber year' month' day' - dayNumber year month day
  /-- The name of a month and a year are written in one line. -/
  monthText : ∀ date, Text.Plain (dates.monthText date)

theorem Dates.firstOfNext?_eq (dates : Dates) (year : Int) (month : Nat) :
    dates.firstOfNext? year month = dates.date? (nextMonth year month).1 (nextMonth year month).2 1 := by
  rw [firstOfNext?, nextMonth]
  split <;> rfl

/-- **The days between the first of a month and that of the next** are those of the month. -/
theorem Dates.Follows.dayCount_eq {dates : Dates} (follows : dates.Follows) {first next : Date}
    (isFirst : dates.date? year month 1 = some first)
    (isNext : dates.date? (nextMonth year month).1 (nextMonth year month).2 1 = some next) :
    dayCount (dates.daysBetween first next) = monthLength year month := by
  have short : monthLength year month ≤ 31 := monthLength_le
  rw [dayCount, follows.daysBetween isFirst isNext, dayNumber_nextMonth (follows.date isFirst).2.1]
  omega

/-! ## Cutting into weeks -/

/-- Cutting into rows loses nothing. -/
theorem flatten_weeks (row cells : List String) : (weeks row cells).flatten = row ++ cells := by
  induction cells generalizing row with
  | nil =>
    cases row with
    | nil => rfl
    | cons => simp [weeks]
  | cons cell rest ih =>
    rw [weeks]
    split <;> simp [ih]

/-- Every row but the last one is full. -/
theorem length_of_mem_dropLast_weeks {row cells week : List String} (mem : week ∈ (weeks row cells).dropLast) :
    week.length = 7 := by
  induction cells generalizing row with
  | nil =>
    rw [weeks] at mem
    split at mem <;> cases mem
  | cons cell rest ih =>
    rw [weeks] at mem
    split at mem
    · next full =>
      cases further : weeks [] rest with
      | nil =>
        rw [further] at mem
        cases mem
      | cons next others =>
        rw [further, List.dropLast_cons_of_ne_nil (List.cons_ne_nil _ _), ← further] at mem
        rcases List.mem_cons.mp mem with rfl | mem
        · rw [List.length_append]
          exact full
        · exact ih mem
    · exact ih mem

/-- What is in a column of a row was in the list at a place with that remainder by seven. -/
theorem exists_of_mem_weeks {row cells week : List String} (short : row.length < 7) (mem : week ∈ weeks row cells)
    {column : Nat} {cell : String} (found : week[column]? = some cell) :
    column < 7 ∧ ∃ weeksBefore, (row ++ cells)[7 * weeksBefore + column]? = some cell := by
  induction cells generalizing row with
  | nil =>
    rw [weeks] at mem
    split at mem
    · cases mem
    · rw [List.mem_singleton] at mem
      subst mem
      have inside := (List.getElem?_eq_some_iff.mp found).1
      exact ⟨by omega, 0, by simpa using found⟩
  | cons first rest ih =>
    have moved : row ++ first :: rest = (row ++ [first]) ++ rest := by simp
    rw [weeks] at mem
    rw [moved]
    split at mem
    · next full =>
      have length : (row ++ [first]).length = 7 := by rw [List.length_append]; exact full
      rcases List.mem_cons.mp mem with rfl | mem
      · have inside := (List.getElem?_eq_some_iff.mp found).1
        refine ⟨by omega, 0, ?_⟩
        rw [Nat.mul_zero, Nat.zero_add, List.getElem?_append_left inside]
        exact found
      · obtain ⟨inside, before, there⟩ := ih (by decide) mem
        refine ⟨inside, before + 1, ?_⟩
        rw [List.getElem?_append_right (by omega), length]
        rw [show 7 * (before + 1) + column - 7 = 7 * before + column by omega]
        exact there
    · next fits =>
      exact ih (by rw [List.length_append, List.length_singleton]; omega) mem

/-- A row holds one of the cells that follow those of the row begun, if there are any. -/
theorem exists_mem_of_mem_weeks {row cells week : List String} (mem : week ∈ weeks row cells) :
    (week = row ∧ row ≠ [] ∧ cells = []) ∨ ∃ cell ∈ cells, cell ∈ week := by
  induction cells generalizing row with
  | nil =>
    rw [weeks] at mem
    split at mem
    · cases mem
    · next begun => exact .inl ⟨List.mem_singleton.mp mem, by simpa using begun, rfl⟩
  | cons first rest ih =>
    right
    have further {begun : List String} (mem : week ∈ weeks begun rest) (holds : begun ≠ [] → first ∈ begun) :
        ∃ cell ∈ first :: rest, cell ∈ week := by
      rcases ih mem with ⟨rfl, some, -⟩ | ⟨cell, among, inside⟩
      · exact ⟨first, List.mem_cons_self, holds some⟩
      · exact ⟨cell, List.mem_cons_of_mem _ among, inside⟩
    rw [weeks] at mem
    split at mem
    · rcases List.mem_cons.mp mem with rfl | mem
      · exact ⟨first, List.mem_cons_self, by simp⟩
      · exact further mem (absurd rfl)
    · exact further mem fun _ => by simp

/-! ## Lines that are read -/

/-- The cells of a line: two characters each, and one between them. -/
def cellsOf : List Char → List String
  | first :: second :: _ :: rest => String.ofList [first, second] :: cellsOf rest
  | [] => []
  | last => [String.ofList last]

@[inherit_doc cellsOf]
def cells (line : String) : List String :=
  cellsOf line.toList

/-- The number that is read off a cell; a blank cell has none. -/
def day? (cell : String) : Option Nat :=
  Text.digits? (cell.toList.dropWhile Text.isBlank)

/-- **Rows show a month** when its days are read off them. -/
structure Shows (year : Int) (month : Nat) (rows : List String) : Prop where
  /-- The cells that are not blank are the numbers of the days, in order and each once. -/
  days : ((rows.flatMap cells).filter fun cell => ¬ Text.AllBlank cell).map day? =
    (List.range' 1 (monthLength year month)).map some
  /-- A day is in the column of its weekday. -/
  columns : ∀ row ∈ rows, ∀ column cell day, (cells row)[column]? = some cell → day? cell = some day →
    column = weekday year month day
  /-- Every row but the last has seven cells. -/
  full : ∀ row ∈ rows.dropLast, (cells row).length = 7
  /-- A day is on every row. -/
  filled : ∀ row ∈ rows, ∃ cell ∈ cells row, ∃ day, day? cell = some day

/-- The cells of a line are those that it was joined of. -/
theorem cells_joinWith {row : List String} (wide : ∀ cell ∈ row, cell.length = 2) :
    cells (Text.joinWith " " row) = row := by
  induction row with
  | nil => rfl
  | cons cell rest ih =>
    obtain ⟨width, others⟩ := List.forall_mem_cons.mp wide
    obtain ⟨first, second, letters⟩ := List.length_eq_two.mp (String.length_toList.trans width)
    have spelt : String.ofList [first, second] = cell := by rw [← letters, String.ofList_toList]
    cases rest with
    | nil =>
      rw [Text.joinWith, cells, letters]
      exact congrArg (fun cell => [cell]) spelt
    | cons next rest =>
      have whole : (Text.joinWith " " (cell :: next :: rest)).toList =
          first :: second :: ' ' :: (Text.joinWith " " (next :: rest)).toList := by
        simp [Text.joinWith, letters]
      rw [cells, whole, cellsOf, spelt]
      exact congrArg _ (ih others)

/-- The cell of a day. -/
def dayCell (day : Nat) : String :=
  Text.padLeft 2 (Text.decimal day)

/-- A cell of a grid is as wide as the others, and no line ends in it. -/
structure IsCell (cell : String) : Prop where
  wide : cell.length = 2
  plain : Text.Plain cell

/-- **The cell of a day** shows its number. -/
theorem dayCell_shows {day : Nat} (first : 1 ≤ day) (last : day ≤ 31) :
    IsCell (dayCell day) ∧ day? (dayCell day) = some day ∧ ¬ Text.AllBlank (dayCell day) := by
  have all : ∀ day ∈ List.range' 1 31, ((dayCell day).length = 2 ∧ Text.Plain (dayCell day)) ∧
      day? (dayCell day) = some day ∧ ¬ Text.AllBlank (dayCell day) := by
    decide +kernel
  obtain ⟨⟨wide, plain⟩, shows⟩ := all day (List.mem_range'_1.mpr ⟨first, by omega⟩)
  exact ⟨⟨wide, plain⟩, shows⟩

/-- A blank cell shows none. -/
theorem blankCell_shows : IsCell "  " ∧ day? "  " = none ∧ Text.AllBlank "  " :=
  ⟨⟨by decide, by decide⟩, by decide, by decide⟩

/-! ## The rows of a month -/

/-- The blank cells in front of the first day of a month. -/
def blanks (offset : Nat) : List String :=
  List.replicate offset "  "

/-- The cells of the days of a month. -/
def dayCells (days : Nat) : List String :=
  (List.range' 1 days).map dayCell

theorem monthRows_eq (offset days : Nat) : monthRows offset days = weeks (blanks offset) (dayCells days) := by
  have cells : (List.range days).map (fun i => Text.padLeft 2 (Text.decimal (i + 1))) = dayCells days := by
    rw [dayCells, List.range'_eq_map_range, List.map_map]
    refine List.map_congr_left fun i _ => ?_
    rw [Function.comp_apply, Nat.add_comm]
    rfl
  rw [monthRows, cells, blanks]

section

variable {offset days : Nat} (short : days ≤ 31)
include short

/-- The cells of the days show numbers. -/
theorem shows_of_mem_dayCells {cell : String} (mem : cell ∈ dayCells days) :
    IsCell cell ∧ (∃ day, day? cell = some day) ∧ ¬ Text.AllBlank cell := by
  obtain ⟨day, counted, rfl⟩ := List.mem_map.mp mem
  have inside := List.mem_range'_1.mp counted
  obtain ⟨isCell, shows, filled⟩ := dayCell_shows inside.1 (by omega)
  exact ⟨isCell, ⟨day, shows⟩, filled⟩

/-- Every cell of a month is blank or that of a day. -/
theorem isCell_of_mem {cell : String} (mem : cell ∈ blanks offset ++ dayCells days) : IsCell cell := by
  rcases List.mem_append.mp mem with mem | mem
  · rw [(List.mem_replicate.mp mem).2]
    exact blankCell_shows.1
  · exact (shows_of_mem_dayCells short mem).1

theorem isCell_of_mem_monthRows {week : List String} (among : week ∈ monthRows offset days) :
    ∀ cell ∈ week, IsCell cell := by
  intro cell mem
  rw [monthRows_eq] at among
  have cut : cell ∈ (weeks (blanks offset) (dayCells days)).flatten := List.mem_flatten.mpr ⟨week, among, mem⟩
  rw [flatten_weeks] at cut
  exact isCell_of_mem short cut

/-- The line of a week is read as the week. -/
theorem cells_week {week : List String} (among : week ∈ monthRows offset days) :
    cells (Text.joinWith " " week) = week :=
  cells_joinWith fun cell mem => (isCell_of_mem_monthRows short among cell mem).wide

/-- The cells that are not blank are those of the days. -/
theorem filter_cells :
    (blanks offset ++ dayCells days).filter (fun cell => ¬ Text.AllBlank cell) = dayCells days := by
  have none : (blanks offset).filter (fun cell => ¬ Text.AllBlank cell) = [] := by
    refine List.filter_eq_nil_iff.mpr fun cell mem => ?_
    rw [(List.mem_replicate.mp mem).2]
    simp [blankCell_shows.2.2]
  have all : (dayCells days).filter (fun cell => ¬ Text.AllBlank cell) = dayCells days := by
    refine List.filter_eq_self.mpr fun cell mem => ?_
    simp [(shows_of_mem_dayCells short mem).2.2]
  rw [List.filter_append, none, all, List.nil_append]

/-- A cell at a place of the month shows the day that has come there. -/
theorem place_of_day {place day : Nat} {cell : String}
    (found : (blanks offset ++ dayCells days)[place]? = some cell) (shows : day? cell = some day) :
    1 ≤ day ∧ place = offset + (day - 1) := by
  have width : (blanks offset).length = offset := List.length_replicate
  rcases Nat.lt_or_ge place offset with early | late
  · rw [List.getElem?_append_left (by omega)] at found
    rw [(List.mem_replicate.mp (List.mem_of_getElem? found)).2, blankCell_shows.2.1] at shows
    cases shows
  · rw [List.getElem?_append_right (by omega), width, dayCells, List.getElem?_map] at found
    obtain ⟨counted, at_, rfl⟩ := Option.map_eq_some_iff.mp found
    obtain ⟨inside, rfl⟩ := List.getElem?_eq_some_iff.mp at_
    have within := List.mem_range'_1.mp (List.getElem_mem inside)
    rw [(dayCell_shows within.1 (by omega)).2.1, Option.some_inj] at shows
    rw [List.getElem_range'] at shows
    omega

end

/-- The rows of a month of the calendar. -/
def gridRows (year : Int) (month : Nat) : List (List String) :=
  monthRows (weekday year month 1) (monthLength year month)

/-- **The lines of a month show it.** -/
theorem shows_monthRows (year : Int) (month : Nat) :
    Shows year month ((gridRows year month).map (Text.joinWith " ")) where
  days := by
    have read : ((gridRows year month).map (Text.joinWith " ")).flatMap cells =
        blanks (weekday year month 1) ++ dayCells (monthLength year month) := by
      rw [List.flatMap_map, ← flatten_weeks, ← monthRows_eq, ← List.flatMap_id]
      exact List.flatMap_congr fun week among => cells_week monthLength_le among
    rw [read, filter_cells monthLength_le, dayCells, List.map_map]
    refine List.map_congr_left fun day counted => ?_
    have inside := List.mem_range'_1.mp counted
    have short : monthLength year month ≤ 31 := monthLength_le
    rw [Function.comp_apply, (dayCell_shows inside.1 (by omega)).2.1]
  columns := by
    intro row mem column cell day found shows
    obtain ⟨week, among, rfl⟩ := List.mem_map.mp mem
    rw [cells_week monthLength_le among] at found
    have short : (blanks (weekday year month 1)).length < 7 := by
      rw [blanks, List.length_replicate]
      exact weekday_lt 1
    rw [gridRows, monthRows_eq] at among
    obtain ⟨inside, before, there⟩ := exists_of_mem_weeks short among found
    obtain ⟨first, place⟩ := place_of_day monthLength_le there shows
    rw [weekday_eq first]
    omega
  full := by
    intro row mem
    rw [← List.map_dropLast] at mem
    obtain ⟨week, among, rfl⟩ := List.mem_map.mp mem
    rw [cells_week monthLength_le (List.dropLast_subset _ among)]
    rw [gridRows, monthRows_eq] at among
    exact length_of_mem_dropLast_weeks among
  filled := by
    intro row mem
    obtain ⟨week, among, rfl⟩ := List.mem_map.mp mem
    rw [cells_week monthLength_le among]
    rw [gridRows, monthRows_eq] at among
    rcases exists_mem_of_mem_weeks among with ⟨-, -, none⟩ | ⟨cell, counted, inside⟩
    · have long : 0 < (dayCells (monthLength year month)).length := by
        rw [dayCells, List.length_map, List.length_range']
        exact monthLength_pos
      rw [none] at long
      cases long
    · exact ⟨cell, inside, (shows_of_mem_dayCells monthLength_le counted).2.1⟩

/-! ## The lines of the grid -/

/-- The line that names the weekdays. -/
def weekdayLine : String :=
  "Su Mo Tu We Th Fr Sa"

/-- Its cells begin the names of the weekdays, Sunday first. -/
theorem cells_weekdayLine : cells weekdayLine = weekdayNames.map fun name => String.ofList (name.toList.take 2) := by
  decide

theorem plain_monthName (month : Nat) : Text.Plain (monthName month) := by
  have all : ∀ name ∈ monthNames, Text.Plain name := by decide
  rw [monthName, List.getD_eq_getElem?_getD]
  cases found : monthNames[month - 1]? with
  | none => exact nofun
  | some name => exact all name (List.mem_of_getElem? found)

theorem plain_yearText (year : Int) : Text.Plain (yearText year) := by
  have minus : Text.Plain "-" := by decide
  have plus : Text.Plain "+" := by decide
  rw [yearText]
  split
  · exact Text.plain_zeroFilled _ _
  split
  · exact minus.append (Text.plain_zeroFilled _ _)
  · exact plus.append (Text.plain_zeroFilled _ _)

theorem Dates.gregorian_date? {day : Nat} {date : Date} (asked : Dates.gregorian.date? year month day = some date) :
    isDate year month day = true ∧ date = ⟨year, month, day⟩ := by
  obtain ⟨isDate, same⟩ := Option.ite_none_right_eq_some.mp asked
  exact ⟨isDate, (Option.some_inj.mp same).symm⟩

/-- **The Gregorian library follows the calendar.** -/
theorem Dates.gregorian_follows : Dates.gregorian.Follows where
  date := by
    intro year month day date asked
    obtain ⟨isDate, rfl⟩ := gregorian_date? asked
    simp only [Calendar.isDate, decide_eq_true_eq] at isDate
    exact ⟨rfl, ⟨isDate.2.2.1, isDate.2.2.2.1⟩, isDate.2.2.2.2⟩
  weekday := by
    intro year month day date asked
    obtain ⟨-, rfl⟩ := gregorian_date? asked
    rfl
  daysBetween := by
    intro year month day first year' month' day' last asked asked'
    obtain ⟨-, rfl⟩ := gregorian_date? asked
    obtain ⟨-, rfl⟩ := gregorian_date? asked'
    rfl
  monthText date := by
    have blank : Text.Plain " " := by decide
    exact ((plain_monthName date.month).append blank).append (plain_yearText date.year)

/-- The line that names the month, without the blanks behind it. -/
def titleLine (dates : Dates) (first : Date) : String :=
  String.ofList (Text.trimEnd Text.isBlank (Text.center 20 (dates.monthText first)).toList)

theorem Dates.Follows.plain_titleLine {dates : Dates} (follows : dates.Follows) (first : Date) :
    Text.Plain (titleLine dates first) := by
  have centred : Text.Plain (Text.center 20 (dates.monthText first)) :=
    ((Text.plain_spaces _).append (follows.monthText first)).append (Text.plain_spaces _)
  intro c mem
  rw [titleLine, String.toList_ofList, Text.trimEnd, List.mem_reverse] at mem
  exact centred c (List.mem_reverse.mp ((List.dropWhile_sublist _).subset mem))

/-- The lines of a month whose first day is a date, as that of the next one is. -/
theorem Dates.Follows.monthGrid?_eq_some {dates : Dates} (follows : dates.Follows) {first next : Date}
    (isFirst : dates.date? year month 1 = some first)
    (isNext : dates.date? (nextMonth year month).1 (nextMonth year month).2 1 = some next) :
    monthGrid? dates year month =
      some (titleLine dates first :: weekdayLine :: (gridRows year month).map (Text.joinWith " ")) := by
  have days := follows.dayCount_eq isFirst isNext
  have offset := follows.weekday isFirst
  rw [monthGrid?, dates.firstOfNext?_eq, isFirst, isNext]
  simp only [Option.bind_eq_bind, Option.bind_some, Option.pure_def, days, offset]
  rfl

/-- The next month of the last one is none. -/
example : monthGrid? .gregorian lastYear 12 = none ∧ (monthGrid? .gregorian lastYear 11).isSome = true := by
  decide +kernel

/-- The lines are laid out as they are. -/
theorem Dates.Follows.rows_grid {dates : Dates} (follows : dates.Follows) (first : Date) (year : Int) (month : Nat) :
    Text.rows (Text.joinWith "\n"
        (titleLine dates first :: weekdayLine :: (gridRows year month).map (Text.joinWith " "))) =
      titleLine dates first :: weekdayLine :: (gridRows year month).map (Text.joinWith " ") := by
  have header : Text.Plain weekdayLine := by decide
  have filled : weekdayLine ≠ "" := by decide
  have plain : ∀ row ∈ (gridRows year month).map (Text.joinWith " "), Text.Plain row := by
    intro row mem
    obtain ⟨week, among, rfl⟩ := List.mem_map.mp mem
    exact Text.Plain.joinWith (by decide) fun cell mem => (isCell_of_mem_monthRows monthLength_le among cell mem).plain
  refine Text.rows_joinWith ?_ fun empty => ?_
  · simp only [List.forall_mem_cons]
    exact ⟨(follows.plain_titleLine first).isRow, header.isRow, fun row mem => (plain row mem).isRow⟩
  · -- A day is on every row, so the last line is not empty whether it is one of them or the names of the weekdays.
    rcases List.mem_cons.mp (List.mem_of_getLast? (List.getLast?_cons_cons.symm.trans empty)) with same | mem
    · exact filled same.symm
    · obtain ⟨cell, inside, -⟩ := (shows_monthRows year month).filled "" mem
      cases inside

end Calendar

namespace Commands

/-- `cal` hands over the lines of the month that the clock shows. -/
theorem cal_run (around : Surroundings) (arguments : List String) (scene : Scene) {grid : List String}
    (shown : Calendar.monthGrid? around.clock.dates (around.clock.date around.now).year
      (around.clock.date around.now).month = some grid) :
    cal.run around arguments scene = .ok (.text (Text.joinWith "\n" grid)) scene := by
  rw [cal]
  dsimp only
  rw [shown]
  rfl

end Commands

namespace Calendar

variable {year : Int} {month : Nat}

/-- **`cal` is a correct calendar.** Take a library of dates that follows the Gregorian calendar, and a month whose
first day is a date, as is that of the next month. The grid of the month is there, and below the two lines of the header
the days can be read off it: the cells that are not blank are the numbers 1, 2, … in order, as many as the month has
days; each is in the column of its weekday, Sunday first; only the last row may be short, and none is empty. A session
in which the clock shows a date in this month adds just these lines to the transcript when it is asked for the
calendar. -/
theorem month_shown {dates : Dates} (follows : dates.Follows) {first next : Date}
    (isFirst : dates.date? year month 1 = some first)
    (isNext : dates.date? (nextMonth year month).1 (nextMonth year month).2 1 = some next) :
    ∃ title rows, monthGrid? dates year month = some (title :: weekdayLine :: rows) ∧ Shows year month rows ∧
      cells weekdayLine = (weekdayNames.map fun name => String.ofList (name.toList.take 2)) ∧
      ∀ (σ : Type) (session : Session σ) (now : Moment) (line : String) (arguments : List String),
        session.registry.find? "cal" = some Commands.cal →
        tokenize (Text.trim line) = some ("cal", arguments) → session.clock.dates = dates →
        (session.clock.date now).year = year → (session.clock.date now).month = month →
          session.added now line = title :: weekdayLine :: rows := by
  have grid := follows.monthGrid?_eq_some isFirst isNext
  refine ⟨_, _, grid, shows_monthRows year month, cells_weekdayLine, ?_⟩
  rintro σ session now line arguments found tokens rfl rfl rfl
  have ended := Commands.cal_run ((session.noted (Text.trim line)).surroundings now) arguments session.scene grid
  exact (Session.Ends.of_run tokens found ended).added.trans (follows.rows_grid first _ _)

end Calendar

namespace Almanac

/-- A session in a month of four full weeks. -/
def session : Session Unit :=
  .start ⟨Commands.builtin ""⟩ ⟨["root"]⟩ (Clock.fixed ⟨2026, 2, 14, 9, 5, 30⟩ 0)
    (.directory [("root", .directory [])]) ()

end Almanac

namespace Calendar

/-- The month begins on a Sunday and ends with a full row. -/
theorem month_shown_of_full_weeks :
    Dates.gregorian.Follows ∧ Dates.gregorian.date? 2026 2 1 = some ⟨2026, 2, 1⟩ ∧
      Dates.gregorian.date? (nextMonth 2026 2).1 (nextMonth 2026 2).2 1 = some ⟨2026, 3, 1⟩ ∧
      Almanac.session.added 0 "cal" =
        ["   February 2026", "Su Mo Tu We Th Fr Sa", " 1  2  3  4  5  6  7", " 8  9 10 11 12 13 14",
          "15 16 17 18 19 20 21", "22 23 24 25 26 27 28"] := by
  have isFirst : Dates.gregorian.date? 2026 2 1 = some ⟨2026, 2, 1⟩ := by decide
  have isNext : Dates.gregorian.date? (nextMonth 2026 2).1 (nextMonth 2026 2).2 1 = some ⟨2026, 3, 1⟩ := by decide
  have tokens : tokenize (Text.trim "cal") = some ("cal", []) := by decide +kernel
  obtain ⟨title, rows, grid, -, -, shown⟩ := month_shown Dates.gregorian_follows isFirst isNext
  have lines : monthGrid? .gregorian 2026 2 =
      some ["   February 2026", "Su Mo Tu We Th Fr Sa", " 1  2  3  4  5  6  7", " 8  9 10 11 12 13 14",
        "15 16 17 18 19 20 21", "22 23 24 25 26 27 28"] := by
    decide +kernel
  have added := shown Unit Almanac.session 0 "cal" [] rfl tokens rfl rfl rfl
  exact ⟨Dates.gregorian_follows, isFirst, isNext, added.trans (Option.some_inj.mp (grid.symm.trans lines))⟩

end Calendar

end ConfinedShell
