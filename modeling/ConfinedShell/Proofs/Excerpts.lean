import ConfinedShell.Proofs.Reports
import ConfinedShell.Proofs.Secrecy
import Mathlib.Data.List.Infix

/-!
# Parts of a file

`head` and `tail` show as many lines as they are asked for, at one end of a file, and `grep` those lines in which a text
stands. They cut the text of the file into the same lines, so what they show fits together.

A count is a numeral that stands for a number below two to the power 64 (`Text.count?_eq_some_iff`). So arguments either
**ask for** some lines of a file (`Commands.AsksFor`) or they are wrong, and then the command fails before it looks at
any file (`Commands.countAndFile_of_wrong`).

**What is added** to the transcript stands behind the echo of the line, and nothing else is changed there
(`Session.Adds`). No such command changes the files, so a second one reads the same lines: the first lines and then the
others are the whole file (`Session.excerpts_fit_together`).
-/

set_option autoImplicit false

namespace ConfinedShell

namespace Text

/-! ## Numerals -/

/-- **A numeral** stands for a number: it is made of decimal digits, at least one, and may have one plus sign in
front. -/
def Numeral (s : String) (n : Nat) : Prop :=
  ∃ digits : List Char, (s.toList = digits ∨ s.toList = '+' :: digits) ∧ digits ≠ [] ∧
    (∀ c ∈ digits, c.isDigit = true) ∧ Nat.ofDigitChars 10 digits 0 = n

/-- A digit is a character between the first digit and the last. -/
theorem isDigit_iff {c : Char} : c.isDigit = true ↔ '0' ≤ c ∧ c ≤ '9' := by
  rw [Char.isDigit, Bool.and_eq_true, decide_eq_true_eq, decide_eq_true_eq]
  rfl

/-- The number that was read so far with one more digit; anything else ends the reading for good. -/
def withDigit (read : Option Nat) (c : Char) : Option Nat :=
  read.bind fun n => if '0' ≤ c ∧ c ≤ '9' then some (n * 10 + (c.toNat - '0'.toNat)) else none

theorem foldl_withDigit_none (cs : List Char) : cs.foldl withDigit none = none := by
  induction cs with
  | nil => rfl
  | cons c rest ih => exact ih

/-- Digits are read from the left, on top of the number that was read before them. -/
theorem foldl_withDigit_eq_some_iff {cs : List Char} {start n : Nat} :
    cs.foldl withDigit (some start) = some n ↔
      (∀ c ∈ cs, c.isDigit = true) ∧ Nat.ofDigitChars 10 cs start = n := by
  induction cs generalizing start with
  | nil => simp [Nat.ofDigitChars]
  | cons c rest ih =>
    rw [List.foldl_cons, withDigit, Option.bind_some, List.forall_mem_cons, isDigit_iff]
    by_cases digit : '0' ≤ c ∧ c ≤ '9'
    · rw [if_pos digit, ih, Nat.mul_comm start 10]
      simp [digit, Nat.ofDigitChars]
    · rw [if_neg digit, foldl_withDigit_none]
      simp [digit]

theorem digits?_eq_some_iff {cs : List Char} {n : Nat} : digits? cs = some n ↔
    cs ≠ [] ∧ (∀ c ∈ cs, c.isDigit = true) ∧ Nat.ofDigitChars 10 cs 0 = n := by
  cases cs with
  | nil => simp [digits?]
  | cons c rest =>
    show (c :: rest).foldl withDigit (some 0) = some n ↔ _
    rw [foldl_withDigit_eq_some_iff, and_iff_right (List.cons_ne_nil c rest)]

/-- **A count is a numeral** whose number fits into a machine word. -/
theorem count?_eq_some_iff {s : String} {n : Nat} : count? s = some n ↔ Numeral s n ∧ n < 2 ^ 64 := by
  have limit : countLimit = 2 ^ 64 := rfl
  have plain {cs : List Char} (noSign : ∀ rest, cs ≠ '+' :: rest) (is : s.toList = cs) :
      Numeral s n ↔ digits? cs = some n := by
    rw [digits?_eq_some_iff]
    constructor
    · rintro ⟨digits, same | same, read⟩
      · rw [← is, same]
        exact read
      · exact absurd (is.symm.trans same) (noSign digits)
    · exact fun read => ⟨cs, .inl is, read⟩
  have signed {rest : List Char} (is : s.toList = '+' :: rest) : Numeral s n ↔ digits? rest = some n := by
    rw [digits?_eq_some_iff]
    constructor
    · rintro ⟨digits, same | same, read⟩
      · have notDigit := read.2.1 '+' (same ▸ is ▸ List.mem_cons_self)
        cases notDigit
      · obtain rfl := (List.cons.inj (is.symm.trans same)).2
        exact read
    · exact fun read => ⟨rest, .inr is, read⟩
  unfold count?
  rw [Option.filter_eq_some_iff, decide_eq_true_eq, limit]
  apply and_congr_left'
  split
  · next rest is => exact (signed is).symm
  · next noSign => exact (plain (fun rest same => noSign rest same) rfl).symm

/-- The digits of a number are a numeral for it. -/
theorem numeral_decimal (n : Nat) : Numeral (decimal n) n := by
  have spelt : (decimal n).toList = Nat.toDigits 10 n := String.toList_ofList
  refine ⟨Nat.toDigits 10 n, .inl spelt, Nat.toDigits_ne_nil, ?_, Nat.ofDigitChars_toDigits (by decide) (by decide)⟩
  exact fun c mem => Nat.isDigit_of_mem_toDigits (by decide) (by decide) mem

end Text

namespace Commands

open ConfinedShell.Action (fail)

/-! ## Arguments -/

/-- **Arguments ask for lines of a file** when they are the letter of the count, the count and the file. -/
def AsksFor (count : Nat) (file : String) (arguments : List String) : Prop :=
  ∃ numeral, arguments = ["-n", numeral, file] ∧ Text.Numeral numeral count ∧ count < 2 ^ 64

theorem asksFor_iff {count : Nat} {file : String} {arguments : List String} : AsksFor count file arguments ↔
    ∃ numeral, arguments = ["-n", numeral, file] ∧ Text.count? numeral = some count := by
  simp only [AsksFor, Text.count?_eq_some_iff]

/-- Any number of lines below the limit can be asked for. -/
theorem asksFor_decimal {count : Nat} (fits : count < 2 ^ 64) (file : String) :
    AsksFor count file ["-n", Text.decimal count, file] :=
  ⟨Text.decimal count, rfl, Text.numeral_decimal count, fits⟩

/-- **Arguments that ask for nothing** are a wrong use. -/
theorem countAndFile_of_wrong (info : CommandInfo) {arguments : List String}
    (wrong : ∀ count file, ¬ AsksFor count file arguments) :
    countAndFile info arguments = fail info.usageFailure := by
  unfold countAndFile
  split
  · next numeral file =>
    cases counted : Text.count? numeral with
    | none => rfl
    | some n => exact absurd (asksFor_iff.mpr ⟨numeral, rfl, counted⟩) (wrong n file)
  · rfl

variable {around : Surroundings} {scene : Scene} {file pattern text : String} {arguments : List String}

/-- `head` fails on arguments that ask for nothing, whatever files there are, -/
theorem head_of_wrong (wrong : ∀ count file, ¬ AsksFor count file arguments) :
    head.run around arguments scene = .error (.failure headInfo.usageFailure) scene := by
  show (countAndFile headInfo arguments >>= _) scene = _
  rw [countAndFile_of_wrong headInfo wrong]
  exact Action.bind_of_error rfl

/-- and so does `tail`. -/
theorem tail_of_wrong (wrong : ∀ count file, ¬ AsksFor count file arguments) :
    tail.run around arguments scene = .error (.failure tailInfo.usageFailure) scene := by
  show (countAndFile tailInfo arguments >>= _) scene = _
  rw [countAndFile_of_wrong tailInfo wrong]
  exact Action.bind_of_error rfl

/-- `grep` fails unless it is given two arguments, whatever files there are. -/
theorem grep_of_wrong (wrong : arguments.length ≠ 2) :
    grep.run around arguments scene = .error (.failure grepInfo.usageFailure) scene := by
  show (Action.twoArguments grepInfo arguments >>= _) scene = _
  apply Action.bind_of_error
  unfold Action.twoArguments
  split
  · exact absurd rfl wrong
  · rfl

/-! ## Lines in which a text stands -/

/-- A text stands in a line when it is a part of it in one piece. -/
theorem occursIn_iff {pattern line : List Char} : occursIn pattern line = true ↔ pattern <:+: line := by
  induction line with
  | nil => simp [occursIn]
  | cons c rest ih =>
    rw [occursIn, Bool.or_eq_true, ih, List.isPrefixOf_iff_prefix, List.infix_cons_iff]

/-- The lines of a file that can be read are searched. -/
theorem grep_ok (read : readFile around file scene = .ok text scene) :
    grep.run around [pattern, file] scene =
      .ok (linesOutput ((Text.lines text).filter fun line => pattern.toList <:+: line.toList)) scene := by
  have same : (Text.lines text).filter (fun line => occursIn pattern.toList line.toList) =
      (Text.lines text).filter fun line => pattern.toList <:+: line.toList := by
    refine List.filter_congr fun line _ => ?_
    rw [Bool.eq_iff_iff, occursIn_iff, decide_eq_true_eq]
  rw [← same]
  exact Action.bind_of_ok read

end Commands

namespace Session

variable {σ : Type} {session : Session σ} {now : Moment} {line name file pattern : String}
  {arguments : List String} {bytes : Text.Bytes} {count : Nat}

/-! ## What is added to the transcript -/

/-- A line on which a command is used in a wrong way adds how it is to be used. -/
theorem adds_usage {command : Command} {info : CommandInfo}
    (tokens : tokenize (Text.trim line) = some (name, arguments))
    (found : session.registry.find? name = some command)
    (wrong : ∀ around,
      command.run around arguments session.scene = .error (.failure info.usageFailure) session.scene) :
    session.Adds now line ["usage: " ++ info.usage] :=
  adds_of_error tokens ((dispatch_noted_of_found found (Text.trim line) now arguments).trans (wrong _))

/-- A file that can be read can be read after a line that leaves the scene as it is. -/
theorem Reads.process (reads : session.Reads file bytes) (kept : (session.process now line).scene = session.scene) :
    (session.process now line).Reads file bytes := by
  obtain ⟨path, resolved, read⟩ := reads
  refine ⟨path, ?_, ?_⟩
  · rw [kept, (session.process_leaves now line).2.1]
    exact resolved
  · rw [kept]
    exact read

section

variable (reads : session.Reads file bytes)
include reads

/-- `head` adds as many lines as are asked for, or all when there are fewer, -/
theorem adds_first (found : session.registry.find? "head" = some Commands.head) (now : Moment)
    (tokens : tokenize (Text.trim line) = some ("head", arguments)) (asks : Commands.AsksFor count file arguments) :
    session.Adds now line
        ((Text.lines (Text.decodeLossy bytes)).take (min count (Text.lines (Text.decodeLossy bytes)).length)) ∧
      (session.process now line).scene = session.scene := by
  obtain ⟨numeral, rfl, counted⟩ := Commands.asksFor_iff.mp asks
  rw [← List.take_eq_take_min]
  exact adds_head reads found now counted tokens

/-- and so does `tail`. -/
theorem adds_last (found : session.registry.find? "tail" = some Commands.tail) (now : Moment)
    (tokens : tokenize (Text.trim line) = some ("tail", arguments)) (asks : Commands.AsksFor count file arguments) :
    session.Adds now line ((Text.lines (Text.decodeLossy bytes)).drop
        ((Text.lines (Text.decodeLossy bytes)).length - min count (Text.lines (Text.decodeLossy bytes)).length)) ∧
      (session.process now line).scene = session.scene := by
  obtain ⟨numeral, rfl, counted⟩ := Commands.asksFor_iff.mp asks
  have same : (Text.lines (Text.decodeLossy bytes)).length - count =
      (Text.lines (Text.decodeLossy bytes)).length - min count (Text.lines (Text.decodeLossy bytes)).length := by
    omega
  rw [← same]
  exact adds_tail reads found now counted tokens

/-- `grep` adds the lines of a file in which a text stands. -/
theorem adds_grep (found : session.registry.find? "grep" = some Commands.grep) (now : Moment)
    (tokens : tokenize (Text.trim line) = some ("grep", [pattern, file])) :
    session.Adds now line
      ((Text.lines (Text.decodeLossy bytes)).filter fun text => pattern.toList <:+: text.toList) :=
  (adds_of_lines tokens found (Commands.grep_ok (reads.readFile _ now))).1

end

/-- **The parts of a file fit together.** Take a file that can be read, whatever its bytes are. For any count below two
to the power 64, `head` adds exactly its first lines and `tail` its last ones, as many as are asked for or all of them;
and every such count can be written as a numeral. So when `head` is asked for some of the lines, and then `tail` for as
many as there are besides, what they add is the whole file, empty lines included. `grep` adds the lines that hold its
pattern, each as often as it stands in the file and in that order. With any other arguments each of the three adds how
it is to be used, and it does so whatever files there are. -/
theorem excerpts_fit_together (knowsHead : session.registry.find? "head" = some Commands.head)
    (knowsTail : session.registry.find? "tail" = some Commands.tail)
    (knowsGrep : session.registry.find? "grep" = some Commands.grep) (reads : session.Reads file bytes)
    (now later : Moment) :
    let all := Text.lines (Text.decodeLossy bytes)
    (∀ line arguments count, tokenize (Text.trim line) = some ("head", arguments) →
        Commands.AsksFor count file arguments → session.Adds now line (all.take (min count all.length))) ∧
      (∀ line arguments count, tokenize (Text.trim line) = some ("tail", arguments) →
        Commands.AsksFor count file arguments →
          session.Adds now line (all.drop (all.length - min count all.length))) ∧
      (∀ count, count < 2 ^ 64 → Commands.AsksFor count file ["-n", Text.decimal count, file]) ∧
      (∀ line other arguments others count, count ≤ all.length →
        tokenize (Text.trim line) = some ("head", arguments) → Commands.AsksFor count file arguments →
        tokenize (Text.trim other) = some ("tail", others) → Commands.AsksFor (all.length - count) file others →
          ∃ front back, session.Adds now line front ∧ (session.process now line).Adds later other back ∧
            front ++ back = all) ∧
      (∀ line pattern, tokenize (Text.trim line) = some ("grep", [pattern, file]) →
        session.Adds now line (all.filter fun text => pattern.toList <:+: text.toList)) ∧
      (∀ line arguments tree, (∀ count file, ¬ Commands.AsksFor count file arguments) →
        (tokenize (Text.trim line) = some ("head", arguments) →
            (session.withTree tree).Adds now line ["usage: head -n <N> <file>"]) ∧
          (tokenize (Text.trim line) = some ("tail", arguments) →
            (session.withTree tree).Adds now line ["usage: tail -n <N> <file>"])) ∧
      ∀ line arguments tree, arguments.length ≠ 2 → tokenize (Text.trim line) = some ("grep", arguments) →
        (session.withTree tree).Adds now line ["usage: grep <pattern> <file>"] := by
  intro all
  refine ⟨?_, ?_, ?_, ?_, ?_, ?_, ?_⟩
  · intro line arguments count tokens asks
    exact (adds_first reads knowsHead now tokens asks).1
  · intro line arguments count tokens asks
    exact (adds_last reads knowsTail now tokens asks).1
  · intro count fits
    exact Commands.asksFor_decimal fits file
  · intro line other arguments others count within tokens asks tokensOther asksOther
    obtain ⟨front, kept⟩ := adds_first reads knowsHead now tokens asks
    have knows : (session.process now line).registry.find? "tail" = some Commands.tail := by
      rw [(session.process_leaves now line).1]
      exact knowsTail
    -- `tail` reads the same file, since `head` has left the scene as it was.
    obtain ⟨back, -⟩ := adds_last (reads.process kept) knows later tokensOther asksOther
    refine ⟨_, _, front, back, ?_⟩
    have same : all.length - min (all.length - count) all.length = count := by omega
    rw [Nat.min_eq_left within, same]
    exact List.take_append_drop count all
  · intro line pattern tokens
    exact adds_grep reads knowsGrep now tokens
  · intro line arguments tree wrong
    have usageHead : "usage: " ++ Commands.headInfo.usage = "usage: head -n <N> <file>" := by decide
    have usageTail : "usage: " ++ Commands.tailInfo.usage = "usage: tail -n <N> <file>" := by decide
    rw [← usageHead, ← usageTail]
    constructor
    · intro tokens
      exact adds_usage tokens knowsHead fun _ => Commands.head_of_wrong wrong
    · intro tokens
      exact adds_usage tokens knowsTail fun _ => Commands.tail_of_wrong wrong
  · intro line arguments tree wrong tokens
    have usageGrep : "usage: " ++ Commands.grepInfo.usage = "usage: grep <pattern> <file>" := by decide
    rw [← usageGrep]
    exact adds_usage tokens knowsGrep fun _ => Commands.grep_of_wrong wrong

/-- A file of five lines is parted behind the second of them, the greatest count shows all of it, and a count that is
one greater shows nothing, whether the file is there or not. -/
theorem excerpts_fit_together_of_five :
    let session := Gallery.session Gallery.motley
    let all := ["one", "", "", "\uFFFD", "last"]
    (∃ front back, session.Adds 0 "head -n +2 f" front ∧
        (session.process 0 "head -n +2 f").Adds 1 "tail -n 003 f" back ∧ front ++ back = all) ∧
      session.Adds 0 "tail -n 18446744073709551615 f" all ∧ session.Adds 0 "grep st f" ["last"] ∧
      (session.withTree (.directory [])).Adds 0 "head -n 18446744073709551616 f" ["usage: head -n <N> <file>"] := by
  intro session all
  have lines : Text.lines (Text.decodeLossy Gallery.motley) = all := by decide +kernel
  have knowsHead : session.registry.find? "head" = some Commands.head := rfl
  obtain ⟨-, last, -, parted, found, wrong, -⟩ :=
    excerpts_fit_together knowsHead rfl rfl (Gallery.reads Gallery.motley) 0 1
  rw [lines] at last parted found
  refine ⟨?_, ?_, ?_, ?_⟩
  · have tokens : tokenize (Text.trim "head -n +2 f") = some ("head", ["-n", "+2", "f"]) := by decide +kernel
    have others : tokenize (Text.trim "tail -n 003 f") = some ("tail", ["-n", "003", "f"]) := by decide +kernel
    have asks : Commands.AsksFor 2 "f" ["-n", "+2", "f"] := Commands.asksFor_iff.mpr ⟨"+2", rfl, by decide⟩
    have asksOthers : Commands.AsksFor 3 "f" ["-n", "003", "f"] := Commands.asksFor_iff.mpr ⟨"003", rfl, by decide⟩
    exact parted _ _ _ _ 2 (by decide) tokens asks others asksOthers
  · have tokens : tokenize (Text.trim "tail -n 18446744073709551615 f") =
        some ("tail", ["-n", "18446744073709551615", "f"]) := by decide +kernel
    have asks : Commands.AsksFor 18446744073709551615 "f" ["-n", "18446744073709551615", "f"] :=
      Commands.asksFor_iff.mpr ⟨"18446744073709551615", rfl, by decide⟩
    exact last _ _ _ tokens asks
  · have tokens : tokenize (Text.trim "grep st f") = some ("grep", ["st", "f"]) := by decide +kernel
    have only : (all.filter fun text => "st".toList <:+: text.toList) = ["last"] := by decide +kernel
    have added := found _ _ tokens
    rwa [only] at added
  · have tokens : tokenize (Text.trim "head -n 18446744073709551616 f") =
        some ("head", ["-n", "18446744073709551616", "f"]) := by decide +kernel
    have nothing : ∀ count file, ¬ Commands.AsksFor count file ["-n", "18446744073709551616", "f"] := by
      intro count file asks
      obtain ⟨numeral, same, counted⟩ := Commands.asksFor_iff.mp asks
      obtain ⟨rfl, rfl⟩ : "18446744073709551616" = numeral ∧ "f" = file := by simpa using same
      have refused : Text.count? "18446744073709551616" = none := by decide
      rw [refused] at counted
      cases counted
    exact (wrong _ _ (.directory []) nothing).1 tokens

end Session

end ConfinedShell
