import ConfinedShell.Arrow

/-!
# What arrow keys send

A key sends three characters, in one of two forms that differ in the middle one. A line is **typed** with keys when it
is what they send, one after the other, and nothing else (`Key.typed`).

**A line is read in rounds**, each of which takes one key off the front (`Key.Rounds`). The reading ends well when
nothing is left, and gives up as soon as what is left begins with no key; so a sequence that is cut off, another key or
a letter behind the keys makes the whole line one without arrows. There are at most as many rounds as there are threes
of characters in the line, and they end in one way only (`Key.rounds_parseAll?`, `Key.Rounds.result_eq`).

So the lines of arrows are exactly those that are typed with keys, at least one (`Arrow.parse?_reads_typed_keys`).
-/

set_option autoImplicit false

namespace ConfinedShell

/-- The two forms in which a key is sent, named for the character that tells them apart. -/
inductive KeyForm where
  | bracket
  | letterO
  deriving DecidableEq

/-- **A key that is pressed**: its arrow, and the form in which it is sent. -/
structure Key where
  arrow : Arrow
  form : KeyForm
  deriving DecidableEq

/-- The character that names the arrow. -/
def Arrow.code : Arrow → Char
  | up => 'A'
  | down => 'B'

/-- The character that opens the form. -/
def KeyForm.mark : KeyForm → Char
  | bracket => '['
  | letterO => 'O'

namespace Key

/-- What a key sends. -/
def sent (key : Key) : List Char :=
  ['\x1b', key.form.mark, key.arrow.code]

/-- **The line that is typed with keys.** -/
def typed (keys : List Key) : String :=
  String.ofList (keys.flatMap sent)

/-! ## One round -/

/-- A key at the front is one arrow, and the rest gives the others. -/
theorem parseAll?_sent_append (key : Key) (rest : List Char) :
    Arrow.parseAll? (key.sent ++ rest) = (Arrow.parseAll? rest).map (key.arrow :: ·) := by
  obtain ⟨arrow, form⟩ := key
  cases form <;> cases arrow <;> rfl

/-- What begins with no key is not made of keys. -/
theorem parseAll?_of_no_key {cs : List Char} (some : cs ≠ []) (noKey : ∀ key : Key, ¬ key.sent <+: cs) :
    Arrow.parseAll? cs = none := by
  unfold Arrow.parseAll?
  split
  · exact absurd rfl some
  · next mark code rest =>
    split
    · next marked =>
      have begins (form : KeyForm) (arrow : Arrow) (isMark : form.mark = mark) (isCode : arrow.code = code) :
          (Key.mk arrow form).sent <+: '\x1b' :: mark :: code :: rest := by
        subst isMark isCode
        exact List.prefix_append _ rest
      obtain ⟨form, isMark⟩ : ∃ form : KeyForm, form.mark = mark := by
        rcases marked with rfl | rfl
        · exact ⟨.bracket, rfl⟩
        · exact ⟨.letterO, rfl⟩
      split
      · exact absurd (begins form .up isMark rfl) (noKey _)
      · exact absurd (begins form .down isMark rfl) (noKey _)
      · rfl
    · rfl
  · rfl

/-! ## The rounds of a reading -/

/-- **The rounds of a reading**: how many there are over a list of characters, and with what the reading ends. -/
inductive Rounds : List Char → Nat → Option (List Arrow) → Prop
  /-- Nothing is left. -/
  | done : Rounds [] 0 (some [])
  /-- What is left begins with no key. -/
  | stuck {cs : List Char} : cs ≠ [] → (∀ key : Key, ¬ key.sent <+: cs) → Rounds cs 0 none
  /-- A key is taken off the front. -/
  | next {rest : List Char} {rounds : Nat} {result : Option (List Arrow)} (key : Key) :
      Rounds rest rounds result → Rounds (key.sent ++ rest) (rounds + 1) (result.map (key.arrow :: ·))

/-- **Every reading ends**, after a round for each three characters at most, and with the arrows of the list. -/
theorem rounds_parseAll? (cs : List Char) :
    ∃ rounds, 3 * rounds ≤ cs.length ∧ Rounds cs rounds (Arrow.parseAll? cs) := by
  -- A round takes three characters at once, so the induction is on the length and not on the list.
  induction h : cs.length using Nat.strongRecOn generalizing cs with
  | ind length ih =>
    subst h
    by_cases nothing : cs = []
    · subst nothing
      exact ⟨0, Nat.le_refl _, .done⟩
    by_cases front : ∃ key : Key, key.sent <+: cs
    · obtain ⟨key, rest, rfl⟩ := front
      have count : (key.sent ++ rest).length = 3 + rest.length := List.length_append
      obtain ⟨rounds, few, read⟩ := ih rest.length (by omega) rest rfl
      refine ⟨rounds + 1, by omega, ?_⟩
      rw [parseAll?_sent_append]
      exact .next key read
    · have noKey : ∀ key : Key, ¬ key.sent <+: cs := not_exists.mp front
      refine ⟨0, Nat.zero_le _, ?_⟩
      rw [parseAll?_of_no_key nothing noKey]
      exact .stuck nothing noKey

namespace Rounds

variable {cs : List Char} {rounds : Nat} {result : Option (List Arrow)} {arrows : List Arrow}

/-- A reading can only end with the arrows of the list. -/
theorem result_eq (read : Rounds cs rounds result) : result = Arrow.parseAll? cs := by
  induction read with
  | done => rfl
  | stuck nonempty noKey => exact (parseAll?_of_no_key nonempty noKey).symm
  | next key _ ih => rw [parseAll?_sent_append, ih]

/-- **A reading that ends well has taken keys**, one in each round, and they were the whole list. -/
theorem exists_keys (read : Rounds cs rounds (some arrows)) :
    ∃ keys : List Key, keys.length = rounds ∧ keys.flatMap sent = cs ∧ keys.map Key.arrow = arrows := by
  generalize ended : some arrows = result at read
  induction read generalizing arrows with
  | done =>
    obtain rfl := Option.some.inj ended
    exact ⟨[], rfl, rfl, rfl⟩
  | stuck => cases ended
  | @next rest rounds result key _ ih =>
    obtain ⟨others, found, rfl⟩ := Option.map_eq_some_iff.mp ended.symm
    obtain ⟨keys, count, spelt, named⟩ := ih found.symm
    refine ⟨key :: keys, congrArg (· + 1) count, ?_, ?_⟩
    · rw [List.flatMap_cons, spelt]
    · rw [List.map_cons, named]

/-- Keys are read in as many rounds, one after the other. -/
theorem of_keys (keys : List Key) : Rounds (keys.flatMap sent) keys.length (some (keys.map Key.arrow)) := by
  induction keys with
  | nil => exact .done
  | cons key rest ih =>
    rw [List.flatMap_cons]
    exact .next key ih

end Rounds

/-- The arrows of a list of characters are those of the keys that it is made of. -/
theorem parseAll?_eq_some_iff {cs : List Char} {arrows : List Arrow} :
    Arrow.parseAll? cs = some arrows ↔
      ∃ keys : List Key, keys.flatMap sent = cs ∧ keys.map Key.arrow = arrows := by
  constructor
  · intro parsed
    obtain ⟨rounds, -, read⟩ := rounds_parseAll? cs
    rw [parsed] at read
    obtain ⟨keys, -, spelt, named⟩ := read.exists_keys
    exact ⟨keys, spelt, named⟩
  · rintro ⟨keys, rfl, rfl⟩
    exact (Rounds.of_keys keys).result_eq.symm

end Key

namespace Arrow

/-- The arrows of a line, when there are any, are those of all its characters. -/
theorem parse?_eq_some_iff {line : String} {arrows : List Arrow} :
    parse? line = some arrows ↔ arrows ≠ [] ∧ parseAll? line.toList = some arrows := by
  unfold parse?
  rw [Option.filter_eq_some_iff, and_comm]
  simp

/-- **A line of arrows is exactly one that is typed with keys.** It has arrows if and only if it is what one or more
keys send, and then they are the arrows of these keys, in order. So arrows are read back from every line that is typed
with them, whichever form each of them is sent in, and from no other line. The reading of any line ends after a round
for each three characters at most, and in whatever way it ends, the arrows of the line are what it ends with. -/
theorem parse?_reads_typed_keys (line : String) (arrows : List Arrow) :
    (parse? line = some arrows ↔
        ∃ keys : List Key, keys ≠ [] ∧ line = Key.typed keys ∧ keys.map Key.arrow = arrows) ∧
      (arrows ≠ [] → ∀ keys : List Key, keys.map Key.arrow = arrows → parse? (Key.typed keys) = some arrows) ∧
      (∃ rounds result, 3 * rounds ≤ line.length ∧ Key.Rounds line.toList rounds result) ∧
      ∀ rounds result, Key.Rounds line.toList rounds result →
        parse? line = result.filter fun arrows => !arrows.isEmpty := by
  have reads (text : String) : parse? text = some arrows ↔
      ∃ keys : List Key, keys ≠ [] ∧ text = Key.typed keys ∧ keys.map Key.arrow = arrows := by
    rw [parse?_eq_some_iff, Key.parseAll?_eq_some_iff]
    constructor
    · rintro ⟨filled, keys, spelt, rfl⟩
      refine ⟨keys, fun none => filled (none ▸ rfl), ?_, rfl⟩
      rw [Key.typed, spelt, String.ofList_toList]
    · rintro ⟨keys, filled, rfl, rfl⟩
      refine ⟨fun none => filled (List.map_eq_nil_iff.mp none), keys, ?_, rfl⟩
      rw [Key.typed, String.toList_ofList]
  refine ⟨reads line, ?_, ?_, ?_⟩
  · intro filled keys named
    apply (reads (Key.typed keys)).mpr
    refine ⟨keys, ?_, rfl, named⟩
    rintro rfl
    exact filled named.symm
  · obtain ⟨rounds, few, read⟩ := Key.rounds_parseAll? line.toList
    exact ⟨rounds, _, few, read⟩
  · intro rounds result read
    rw [read.result_eq]
    rfl

/-- Both forms are read, and a sequence that is cut off behind one that is whole makes the line one without arrows. -/
theorem parse?_reads_both_forms :
    parse? "\x1bOA\x1b[B\x1b[A" = some [up, down, up] ∧ parse? "\x1b[A\x1b[" = none := by
  constructor
  · obtain ⟨-, reads, -, -⟩ := parse?_reads_typed_keys "" [up, down, up]
    have filled : [up, down, up] ≠ [] := by simp
    exact reads filled [⟨up, .letterO⟩, ⟨down, .bracket⟩, ⟨up, .bracket⟩] rfl
  · obtain ⟨-, -, -, ends⟩ := parse?_reads_typed_keys "\x1b[A\x1b[" []
    have noKey : ∀ key : Key, ¬ key.sent <+: ['\x1b', '['] := by
      intro key front
      have short := front.length_le
      simp [Key.sent] at short
    exact ends 1 none (.next ⟨up, .bracket⟩ (.stuck (by simp) noKey))

end Arrow

end ConfinedShell
