import ConfinedShell.Text.Utf8
import Mathlib.Algebra.Group.Nat.Defs

/-!
# Reading what was written

A character is written in one of four ways, by its size, and the reader has bounds for the byte behind the first one
that depend on the first. What is written keeps within these bounds, because a character is no surrogate and is
written in as few bytes as it needs. So each character is read back (`Reader.run_encodeChar`), and with it every text
(`decodeLossy_encode`).

The other way round a character of ASCII is read from its own byte only, because no longer form of it is taken
(`Reader.Sound.of_step`). So lines can be cut before they are read, and the last byte tells whether a text ends in a
carriage return (`getLast?_decodeLossy`).
-/

set_option autoImplicit false

namespace ConfinedShell.Text

namespace Reader

/-! ## Bytes that are taken -/

theorem toNat_byte {n : Nat} (small : n < 0x100) : (UInt8.ofNat n).toNat = n := by
  rw [UInt8.toNat_ofNat', Nat.mod_eq_of_lt small]

/-- A byte is read, and then the rest by the reader that it leaves. -/
theorem run_cons (reader : Reader) (byte : UInt8) (bytes : Bytes) :
    run reader (byte :: bytes) = (reader.step byte).1 ++ run (reader.step byte).2 bytes := by
  cases reader <;> rfl

/-- Inside a character a byte between the bounds is taken, and others are to come. -/
theorem run_inside {low high n : Nat} (least : low ≤ n) (most : n ≤ high) (small : n < 0x100)
    (value more : Nat) (bytes : Bytes) :
    run (.inside value (more + 1) low high) (UInt8.ofNat n :: bytes) =
      run (.inside (value * 64 + (n - 0x80)) more 0x80 0xBF) bytes := by
  simp [run, step, toNat_byte small, least, most]

/-- The last byte of a character completes it. -/
theorem run_last {low high n : Nat} (least : low ≤ n) (most : n ≤ high) (small : n < 0x100)
    (value : Nat) (bytes : Bytes) :
    run (.inside value 0 low high) (UInt8.ofNat n :: bytes) =
      some (Char.ofNat (value * 64 + (n - 0x80))) :: run .between bytes := by
  simp [run, step, toNat_byte small, least, most]

/-- A byte that is a character of its own. -/
theorem run_one {n : Nat} (ascii : n < 0x80) (bytes : Bytes) :
    run .between (UInt8.ofNat n :: bytes) = some (Char.ofNat n) :: run .between bytes := by
  have same : (UInt8.ofNat n).toNat = n := toNat_byte (by omega)
  simp [run, step, enter, same, ascii]

/-- The first of two bytes. -/
theorem run_two {n : Nat} (least : 0xC2 ≤ n) (most : n ≤ 0xDF) (bytes : Bytes) :
    run .between (UInt8.ofNat n :: bytes) = run (.inside (n - 0xC0) 0 0x80 0xBF) bytes := by
  have same : (UInt8.ofNat n).toNat = n := toNat_byte (by omega)
  have notOne : ¬ n < 0x80 := by omega
  simp [run, step, enter, same, notOne, least, most]

/-- The first of three bytes, and bounds for the second one: they exclude overlong forms and surrogates alone. -/
theorem run_three (n next : Nat) (least : 0xE0 ≤ n) (most : n ≤ 0xEF) (continues : 0x80 ≤ next ∧ next ≤ 0xBF)
    (notOverlong : n = 0xE0 → 0xA0 ≤ next) (noSurrogate : n = 0xED → next ≤ 0x9F) (bytes : Bytes) :
    ∃ low high, low ≤ next ∧ next ≤ high ∧
      run .between (UInt8.ofNat n :: bytes) = run (.inside (n - 0xE0) 1 low high) bytes := by
  have same : (UInt8.ofNat n).toNat = n := toNat_byte (by omega)
  have notOne : ¬ n < 0x80 := by omega
  have notTwo : ¬ n ≤ 0xDF := by omega
  by_cases first : n = 0xE0
  · exact ⟨0xA0, 0xBF, notOverlong first, continues.2, by simp [run, step, enter, first]⟩
  by_cases surrogates : n = 0xED
  · exact ⟨0x80, 0x9F, continues.1, noSurrogate surrogates, by simp [run, step, enter, surrogates]⟩
  have others : 0xE1 ≤ n := by omega
  exact ⟨0x80, 0xBF, continues.1, continues.2,
    by simp [run, step, enter, same, notOne, notTwo, first, surrogates, others, most]⟩

/-- The first of four bytes, and bounds for the second one: they exclude overlong forms and numbers that are too
great. -/
theorem run_four (n next : Nat) (least : 0xF0 ≤ n) (most : n ≤ 0xF4) (continues : 0x80 ≤ next ∧ next ≤ 0xBF)
    (notOverlong : n = 0xF0 → 0x90 ≤ next) (notTooGreat : n = 0xF4 → next ≤ 0x8F) (bytes : Bytes) :
    ∃ low high, low ≤ next ∧ next ≤ high ∧
      run .between (UInt8.ofNat n :: bytes) = run (.inside (n - 0xF0) 2 low high) bytes := by
  have same : (UInt8.ofNat n).toNat = n := toNat_byte (by omega)
  have notOne : ¬ n < 0x80 := by omega
  have notTwo : ¬ n ≤ 0xDF := by omega
  have notThree : ¬ n ≤ 0xEF := by omega
  have notFirst : n ≠ 0xE0 := by omega
  have notSurrogates : n ≠ 0xED := by omega
  by_cases first : n = 0xF0
  · exact ⟨0x90, 0xBF, notOverlong first, continues.2, by simp [run, step, enter, first]⟩
  by_cases greatest : n = 0xF4
  · exact ⟨0x80, 0x8F, continues.1, notTooGreat greatest, by simp [run, step, enter, greatest]⟩
  have others : 0xF1 ≤ n ∧ n ≤ 0xF3 := by omega
  exact ⟨0x80, 0xBF, continues.1, continues.2,
    by simp [run, step, enter, same, notOne, notTwo, notThree, notFirst, notSurrogates, first, others]⟩

/-! ## Reading back -/

/-- **A character is read back** from the bytes that it is written as, whatever comes behind them. -/
theorem run_encodeChar (c : Char) (bytes : Bytes) :
    run .between (String.utf8EncodeChar c ++ bytes) = some c :: run .between bytes := by
  have valid : c.toNat < 0xD800 ∨ 0xDFFF < c.toNat ∧ c.toNat < 0x110000 := c.valid
  have back : Char.ofNat c.toNat = c := Char.ofNat_toNat c
  have written : c.val.toNat = c.toNat := rfl
  rw [String.utf8EncodeChar, written]
  generalize c.toNat = v at valid back
  split
  · rw [List.singleton_append, run_one (by omega), back]
  split
  · rw [List.cons_append, List.singleton_append, run_two (by omega) (by omega),
      run_last (by omega) (by omega) (by omega)]
    have value : (v / 64 % 32 + 192 - 0xC0) * 64 + (v % 64 + 128 - 0x80) = v := by omega
    rw [value, back]
  split
  · obtain ⟨low, high, least, most, entered⟩ := run_three (v / 4096 % 16 + 224)
      (v / 64 % 64 + 128) (by omega) (by omega) (by omega) (by omega) (by omega)
      (UInt8.ofNat (v / 64 % 64 + 128) :: UInt8.ofNat (v % 64 + 128) :: bytes)
    have value : ((v / 4096 % 16 + 224 - 0xE0) * 64 + (v / 64 % 64 + 128 - 0x80)) * 64 +
        (v % 64 + 128 - 0x80) = v := by omega
    rw [List.cons_append, List.cons_append, List.singleton_append, entered, run_inside least most (by omega),
      run_last (by omega) (by omega) (by omega), value, back]
  · obtain ⟨low, high, least, most, entered⟩ := run_four (v / 262144 % 8 + 240)
      (v / 4096 % 64 + 128) (by omega) (by omega) (by omega) (by omega) (by omega)
      (UInt8.ofNat (v / 4096 % 64 + 128) :: UInt8.ofNat (v / 64 % 64 + 128) :: UInt8.ofNat (v % 64 + 128) :: bytes)
    have value : (((v / 262144 % 8 + 240 - 0xF0) * 64 + (v / 4096 % 64 + 128 - 0x80)) * 64 +
        (v / 64 % 64 + 128 - 0x80)) * 64 + (v % 64 + 128 - 0x80) = v := by omega
    rw [List.cons_append, List.cons_append, List.cons_append, List.singleton_append, entered,
      run_inside least most (by omega), run_inside (by omega) (by omega) (by omega),
      run_last (by omega) (by omega) (by omega), value, back]

/-- All characters of a text are read back. -/
theorem run_encode (s : String) : run .between (encode s) = s.toList.map some := by
  rw [encode]
  induction s.toList with
  | nil => rfl
  | cons c rest ih => rw [List.flatMap_cons, run_encodeChar, ih, List.map_cons]

end Reader

/-- **A text is read back** from the bytes that it is written as. -/
theorem decodeLossy_encode (s : String) : decodeLossy (encode s) = s := by
  rw [decodeLossy, Reader.run_encode, List.map_map]
  have same : ((fun c => c.getD replacement) ∘ some : Char → Char) = id := rfl
  rw [same, List.map_id, String.ofList_toList]

/-- Different texts are written as different bytes. -/
theorem encode_inj {s t : String} : encode s = encode t ↔ s = t := by
  refine ⟨fun same => ?_, congrArg encode⟩
  rw [← decodeLossy_encode s, same, decodeLossy_encode]

/-! ## Characters of ASCII -/

namespace Reader

/-- **A sound reader** is between two characters, or inside one that is beyond ASCII: whatever comes next, its number
is `0x80` or more. -/
def Sound : Reader → Prop
  | .between => True
  | .inside value more low _ => 0x80 ≤ low ∧ 0x80 ≤ (value * 64 + (low - 0x80)) * 64 ^ more

variable {reader : Reader} {bytes : Bytes} {c : Char}

/-- Only a number that is no character's own becomes NUL. -/
theorem eq_toNat_of_ofNat {n : Nat} (notNul : c ≠ '\x00') (same : Char.ofNat n = c) : n = c.toNat := by
  by_cases valid : n.isValidChar
  · rw [Char.ofNat, dif_pos valid] at same
    exact congrArg Char.toNat same
  · rw [Char.ofNat, dif_neg valid] at same
    exact absurd same.symm notNul

/-- A byte that begins a character leaves a sound reader, and completes a character of ASCII only when it is that. -/
theorem enter_sound (notNul : c ≠ '\x00') (byte : UInt8) :
    (enter byte).2.Sound ∧ (some c ∈ (enter byte).1 → byte.toNat = c.toNat) := by
  unfold enter
  dsimp only
  split
  · exact ⟨trivial, fun mem => eq_toNat_of_ofNat notNul (Option.some.inj (List.mem_singleton.mp mem)).symm⟩
  -- Behind any other first byte the bounds keep the number beyond ASCII.
  repeat' split
  all_goals first
    | exact ⟨⟨by omega, by omega⟩, nofun⟩
    | exact ⟨trivial, fun mem => nomatch List.mem_singleton.mp mem⟩

/-- **A character of ASCII is read from its own byte only**, and a sound reader stays sound. -/
theorem Sound.of_step (sound : reader.Sound) (notNul : c ≠ '\x00') (ascii : c.toNat < 0x80) (byte : UInt8) :
    (reader.step byte).2.Sound ∧ (some c ∈ (reader.step byte).1 → byte.toNat = c.toNat) := by
  cases reader with
  | between => exact enter_sound notNul byte
  | inside value more low high =>
    obtain ⟨least, great⟩ := sound
    rw [step]
    split
    · next taken =>
      have grows : value * 64 + (low - 0x80) ≤ value * 64 + (byte.toNat - 0x80) := by omega
      have greater := Nat.le_trans great (Nat.mul_le_mul_right (64 ^ more) grows)
      cases more with
      | zero =>
        refine ⟨trivial, fun mem => ?_⟩
        have same := eq_toNat_of_ofNat notNul (Option.some.inj (List.mem_singleton.mp mem)).symm
        omega
      | succ more =>
        refine ⟨⟨Nat.le_refl _, ?_⟩, nofun⟩
        rw [Nat.pow_succ', ← Nat.mul_assoc] at greater
        simpa using greater
    · refine ⟨(enter_sound notNul byte).1, fun mem => (enter_sound notNul byte).2 ?_⟩
      simpa using mem

/-- **A byte of ASCII is read as its character**, at most behind a stretch that it cuts short. -/
theorem Sound.step_ascii (sound : reader.Sound) {byte : UInt8} (ascii : byte.toNat < 0x80) :
    ∃ cut, (∀ stretch ∈ cut, stretch = none) ∧ (reader.step byte).1 = cut ++ [some (Char.ofNat byte.toNat)] ∧
      (reader.step byte).2 = .between := by
  have entered : enter byte = ([some (Char.ofNat byte.toNat)], .between) := by simp [enter, ascii]
  cases reader with
  | between => exact ⟨[], nofun, by rw [step, entered]; rfl, by rw [step, entered]⟩
  | inside value more low high =>
    obtain ⟨least, -⟩ := sound
    have notTaken : ¬ (low ≤ byte.toNat ∧ byte.toNat ≤ high) := by omega
    refine ⟨[none], fun _ mem => List.mem_singleton.mp mem, ?_, ?_⟩
    · rw [step, if_neg notTaken, entered]
      rfl
    · rw [step, if_neg notTaken, entered]

/-- At the end there is at most a stretch that is cut short. -/
theorem run_nil (reader : Reader) : run reader [] = [] ∧ reader = .between ∨ run reader [] = [none] := by
  cases reader with
  | between => exact .inl ⟨rfl, rfl⟩
  | inside => exact .inr rfl

/-- **A character of ASCII is read at the end alone** when its byte comes nowhere but at the end. -/
theorem Sound.not_mem_dropLast (sound : reader.Sound) (notNul : c ≠ '\x00') (ascii : c.toNat < 0x80)
    (atEnd : ∀ byte ∈ bytes.dropLast, byte.toNat ≠ c.toNat) : some c ∉ (run reader bytes).dropLast := by
  induction bytes generalizing reader with
  | nil => rcases run_nil reader with ⟨nothing, -⟩ | cut <;> simp [*]
  | cons byte rest ih =>
    obtain ⟨soundNext, own⟩ := sound.of_step notNul ascii byte
    rw [run_cons]
    intro mem
    by_cases last : rest = []
    · subst last
      by_cases same : byte.toNat = c.toNat
      · obtain ⟨cut, stretches, read, next⟩ := sound.step_ascii (same ▸ ascii)
        rw [read, next, run, List.append_nil, List.dropLast_concat] at mem
        cases stretches _ mem
      · rcases List.mem_append.mp (List.dropLast_subset _ mem) with mem | mem
        · exact same (own mem)
        · rcases run_nil (reader.step byte).2 with ⟨nothing, -⟩ | cut <;> simp [*] at mem
    · rw [List.dropLast_cons_of_ne_nil last] at atEnd
      obtain ⟨notHere, notBehind⟩ := List.forall_mem_cons.mp atEnd
      by_cases nothing : run (reader.step byte).2 rest = []
      · rw [nothing, List.append_nil] at mem
        exact notHere (own (List.dropLast_subset _ mem))
      · rw [List.dropLast_append_of_ne_nil nothing] at mem
        rcases List.mem_append.mp mem with mem | mem
        · exact notHere (own mem)
        · exact ih soundNext notBehind mem

/-- A byte completes something, or the reader is inside a character after it. -/
theorem step_completes (reader : Reader) (byte : UInt8) :
    (reader.step byte).1 ≠ [] ∨ (reader.step byte).2 ≠ .between := by
  have entered : (enter byte).1 ≠ [] ∨ (enter byte).2 ≠ .between := by
    unfold enter
    dsimp only
    repeat' split
    all_goals first
      | exact .inl (List.cons_ne_nil _ _)
      | exact .inr nofun
  cases reader with
  | between => exact entered
  | inside value more low high =>
    rw [step]
    split
    · cases more with
      | zero => exact .inl (List.cons_ne_nil _ _)
      | succ more => exact .inr nofun
    · exact .inl (List.cons_ne_nil _ _)

/-- Something is read of any bytes, and of a character that is cut short. -/
theorem run_ne_nil (some : reader ≠ .between ∨ bytes ≠ []) : run reader bytes ≠ [] := by
  induction bytes generalizing reader with
  | nil =>
    cases reader with
    | between => exact absurd rfl (some.resolve_right (absurd rfl))
    | inside => exact List.cons_ne_nil _ _
  | cons byte rest ih =>
    rw [run_cons]
    rcases reader.step_completes byte with completes | inside
    · exact List.append_ne_nil_of_left_ne_nil completes _
    · exact List.append_ne_nil_of_right_ne_nil _ (ih (.inl inside))

/-- **A character of ASCII is read last** when its byte is the last one, and not otherwise. -/
theorem Sound.getLast?_run (sound : reader.Sound) (notNul : c ≠ '\x00') (ascii : c.toNat < 0x80) (ne : bytes ≠ []) :
    (run reader bytes).getLast? = some (some c) ↔ ∃ byte, bytes.getLast? = some byte ∧ byte.toNat = c.toNat := by
  induction bytes generalizing reader with
  | nil => exact absurd rfl ne
  | cons byte rest ih =>
    obtain ⟨soundNext, own⟩ := sound.of_step notNul ascii byte
    rw [run_cons]
    by_cases last : rest = []
    · subst last
      constructor
      · intro isLast
        refine ⟨byte, rfl, own ?_⟩
        rcases List.mem_append.mp (List.mem_of_getLast? isLast) with mem | mem
        · exact mem
        · rcases run_nil (reader.step byte).2 with ⟨nothing, -⟩ | cut <;> simp [*] at mem
      · rintro ⟨only, isLast, same⟩
        obtain rfl : byte = only := by simpa using isLast
        obtain ⟨cut, -, read, next⟩ := sound.step_ascii (same ▸ ascii)
        rw [read, next, run, List.append_nil, List.getLast?_concat, same, Char.ofNat_toNat]
    · have more : run (reader.step byte).2 rest ≠ [] := run_ne_nil (.inr last)
      obtain ⟨next, others, rfl⟩ := List.exists_cons_of_ne_nil last
      rw [List.getLast?_append, List.getLast?_eq_some_getLast more, Option.some_or,
        ← List.getLast?_eq_some_getLast more, List.getLast?_cons_cons]
      exact ih soundNext last

end Reader

/-- **A text ends in a character of ASCII** when its bytes end in the byte of that character, and not otherwise. -/
theorem getLast?_decodeLossy {bytes : Bytes} {c : Char} (notNul : c ≠ '\x00') (ascii : c.toNat < 0x80) :
    (decodeLossy bytes).toList.getLast? = some c ↔ ∃ byte, bytes.getLast? = some byte ∧ byte.toNat = c.toNat := by
  rw [decodeLossy, String.toList_ofList, List.getLast?_map]
  by_cases nothing : bytes = []
  · subst nothing
    simp [Reader.run]
  · have sound : Reader.between.Sound := trivial
    rw [← sound.getLast?_run notNul ascii nothing]
    have notReplaced : replacement ≠ c := by
      rintro rfl
      exact absurd ascii (by decide)
    cases (Reader.between.run bytes).getLast? with
    | none => simp
    | some read => cases read <;> simp [notReplaced]

end ConfinedShell.Text
