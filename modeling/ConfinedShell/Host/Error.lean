import ConfinedShell.Text.Column

/-!
# What the host reports

The host refuses a call with one of its numbered errors, or the call never reaches it: a name with a
NUL in it cannot be handed over, only a regular file can be copied, and bytes that are not UTF-8 are
not text.
-/

set_option autoImplicit false

namespace ConfinedShell

/-- The host's numbered errors. -/
inductive SystemError where
  | notPermitted
  | noEntry
  | inputOutput
  | permissionDenied
  | busy
  | fileExists
  | notDirectory
  | isDirectory
  | invalidArgument
  | noSpace
  | nameTooLong
  | notEmpty
  | tooManyLinks
  /-- An error that no call of this library gives. -/
  | unnamed (number : Nat)
  deriving DecidableEq, Inhabited

namespace SystemError

/-- The host's number of an error. -/
def number : SystemError → Nat
  | notPermitted => 1
  | noEntry => 2
  | inputOutput => 5
  | permissionDenied => 13
  | busy => 16
  | fileExists => 17
  | notDirectory => 20
  | isDirectory => 21
  | invalidArgument => 22
  | noSpace => 28
  | nameTooLong => 36
  | notEmpty => 39
  | tooManyLinks => 40
  | unnamed number => number

/-- The errors that have a name of their own. -/
def named : List SystemError :=
  [notPermitted, noEntry, inputOutput, permissionDenied, busy, fileExists, notDirectory, isDirectory,
   invalidArgument, noSpace, nameTooLong, notEmpty, tooManyLinks]

/-- The error with a given number. -/
def ofNumber (number : Nat) : SystemError :=
  (named.find? fun e => e.number == number).getD (unnamed number)

/-- The host's words for an error. -/
def words : SystemError → String
  | notPermitted => "Operation not permitted"
  | noEntry => "No such file or directory"
  | inputOutput => "Input/output error"
  | permissionDenied => "Permission denied"
  | busy => "Device or resource busy"
  | fileExists => "File exists"
  | notDirectory => "Not a directory"
  | isDirectory => "Is a directory"
  | invalidArgument => "Invalid argument"
  | noSpace => "No space left on device"
  | nameTooLong => "File name too long"
  | notEmpty => "Directory not empty"
  | tooManyLinks => "Too many levels of symbolic links"
  | unnamed number => "Unknown error " ++ Text.decimal number

end SystemError

/-- Why a call on the host failed. -/
inductive HostError where
  | system (error : SystemError)
  /-- A name holds a NUL and cannot be handed to the host. -/
  | nulInName
  /-- The source of a copy is no regular file. -/
  | notRegular
  /-- Bytes that were to be read as text are not UTF-8. -/
  | notText
  deriving DecidableEq, Inhabited

/-- The words for a failed call. -/
def HostError.message : HostError → String
  | .system e => e.words ++ " (os error " ++ Text.decimal e.number ++ ")"
  | .nulInName => "file name contained an unexpected NUL byte"
  | .notRegular => "the source path is neither a regular file nor a symlink to a regular file"
  | .notText => "stream did not contain valid UTF-8"

/-- Numbers and named errors determine each other. -/
theorem SystemError.ofNumber_number {e : SystemError} (h : e ∈ named) : ofNumber e.number = e := by
  simp only [named, List.mem_cons, List.not_mem_nil, or_false] at h
  rcases h with rfl | rfl | rfl | rfl | rfl | rfl | rfl | rfl | rfl | rfl | rfl | rfl | rfl <;> rfl

end ConfinedShell
