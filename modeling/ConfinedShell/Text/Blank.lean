import ConfinedShell.Text.Pieces

/-!
# Blank characters, trimming and words

A character is **blank** when it has the White_Space property: 25 characters, of which 19 lie
outside ASCII. Trimming cuts blanks from the two ends of a text, and the words of a text are its
longest runs of characters that are not blank. No word holds a blank (`not_blank_of_mem_wordsOf`), and a
trimmed text has no words exactly when all of it was blank (`words_trim_eq_nil`).
-/

set_option autoImplicit false

namespace ConfinedShell.Text

/-- The ranges of the blank characters, both ends included, in increasing order. -/
def blankRanges : List (Nat × Nat) :=
  [(0x09, 0x0D), (0x20, 0x20), (0x85, 0x85), (0xA0, 0xA0), (0x1680, 0x1680), (0x2000, 0x200A),
   (0x2028, 0x2029), (0x202F, 0x202F), (0x205F, 0x205F), (0x3000, 0x3000)]

/-- A blank character is one in a range of the table. -/
def isBlank (c : Char) : Bool :=
  blankRanges.any fun range => decide (range.1 ≤ c.toNat) && decide (c.toNat ≤ range.2)

/-- Drops from the end every character that satisfies `p`. -/
def trimEnd (p : Char → Bool) (cs : List Char) : List Char :=
  (cs.reverse.dropWhile p).reverse

/-- Drops the blanks at both ends. -/
def trimBlanks (cs : List Char) : List Char :=
  trimEnd isBlank (cs.dropWhile isBlank)

/-- The words of a list of characters, in order. -/
def wordsOf (cs : List Char) : List (List Char) :=
  (cs.splitOnP isBlank).filter fun word => !word.isEmpty

/-- A text without the blanks at its ends. -/
def trim (s : String) : String :=
  String.ofList (trimBlanks s.toList)

/-- The words of a text, in order. -/
def words (s : String) : List String :=
  (wordsOf s.toList).map String.ofList

/-! ## Laws -/

theorem not_blank_of_mem_wordsOf {cs word : List Char} {c : Char} (h : word ∈ wordsOf cs)
    (hc : c ∈ word) : isBlank c = false :=
  isFree_of_mem_splitOnP word (List.mem_filter.1 h).1 c hc

/-! ## Blank texts -/

/-- **A blank text** holds blank characters alone, or none. -/
def AllBlank (s : String) : Prop :=
  ∀ c ∈ s.toList, isBlank c = true

instance (s : String) : Decidable (AllBlank s) :=
  List.decidableBAll (fun c => isBlank c = true) s.toList

/-- Cutting a list gives no piece but empty ones exactly when every element of the list separates. -/
theorem all_empty_splitOnP {p : Char → Bool} {cs : List Char} :
    (∀ piece ∈ cs.splitOnP p, piece = []) ↔ ∀ c ∈ cs, p c = true := by
  induction cs with
  | nil => simp
  | cons c cs ih =>
    rw [List.splitOnP_cons_eq_if_modifyHead]
    split
    · next separates => simpa [separates] using ih
    · next inside =>
      have pieces : cs.splitOnP p ≠ [] := List.splitOnP_ne_nil p cs
      obtain ⟨first, others, parts⟩ := List.exists_cons_of_ne_nil pieces
      rw [parts]
      simp [inside]

/-- Only a blank list of characters has no words. -/
theorem wordsOf_eq_nil {cs : List Char} : wordsOf cs = [] ↔ ∀ c ∈ cs, isBlank c = true := by
  rw [← all_empty_splitOnP, wordsOf, List.filter_eq_nil_iff]
  simp

/-- What is dropped from the front satisfies `p`, so all the rest does exactly when all the list does. -/
theorem all_dropWhile {p : Char → Bool} {cs : List Char} :
    (∀ c ∈ cs.dropWhile p, p c = true) ↔ ∀ c ∈ cs, p c = true := by
  induction cs with
  | nil => simp
  | cons c cs ih =>
    by_cases holds : p c = true
    · simpa [List.dropWhile_cons, holds] using ih
    · simp [holds]

/-- Trimming cuts off blanks, so it makes no text blank that was not. -/
theorem all_trimBlanks {cs : List Char} :
    (∀ c ∈ trimBlanks cs, isBlank c = true) ↔ ∀ c ∈ cs, isBlank c = true := by
  simp only [trimBlanks, trimEnd, List.mem_reverse]
  rw [all_dropWhile]
  simp only [List.mem_reverse]
  exact all_dropWhile

/-- **A trimmed text has no words exactly when the text is blank.** -/
theorem words_trim_eq_nil {s : String} : words (trim s) = [] ↔ AllBlank s := by
  rw [words, List.map_eq_nil_iff, wordsOf_eq_nil, trim, String.toList_ofList]
  exact all_trimBlanks

end ConfinedShell.Text
