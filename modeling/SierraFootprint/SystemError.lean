import SierraFootprint.Decimal.Numeral

/-!
# Errors of the operating system

What can go wrong with a file or a process, as far as it matters here, with the wording that a
reader sees.
-/
namespace SierraFootprint

/-- A numbered error of the operating system. -/
inductive OsError
  | notPermitted
  | noSuchFile
  | argumentsTooLong
  | execFormat
  | unavailable
  | noMemory
  | permissionDenied
  | notDirectory
  | isDirectory
  | nameTooLong
  | tooManyLinks
  deriving DecidableEq, Repr

namespace OsError

def all : List OsError :=
  [notPermitted, noSuchFile, argumentsTooLong, execFormat, unavailable, noMemory,
   permissionDenied, notDirectory, isDirectory, nameTooLong, tooManyLinks]

def number : OsError → Nat
  | notPermitted => 1
  | noSuchFile => 2
  | argumentsTooLong => 7
  | execFormat => 8
  | unavailable => 11
  | noMemory => 12
  | permissionDenied => 13
  | notDirectory => 20
  | isDirectory => 21
  | nameTooLong => 36
  | tooManyLinks => 40

def text : OsError → String
  | notPermitted => "Operation not permitted"
  | noSuchFile => "No such file or directory"
  | argumentsTooLong => "Argument list too long"
  | execFormat => "Exec format error"
  | unavailable => "Resource temporarily unavailable"
  | noMemory => "Cannot allocate memory"
  | permissionDenied => "Permission denied"
  | notDirectory => "Not a directory"
  | isDirectory => "Is a directory"
  | nameTooLong => "File name too long"
  | tooManyLinks => "Too many levels of symbolic links"

/-- The error with a number. -/
def ofNumber? (n : Nat) : Option OsError :=
  all.find? (fun e => e.number == n)

def message (e : OsError) : String :=
  e.text ++ " (os error " ++ Decimal.numeral e.number ++ ")"

end OsError

/-- Why a file could not be read or a process not be started. -/
inductive SystemError
  | os (e : OsError)
  /-- A path holds a byte zero and so cannot be handed over. -/
  | nulInPath
  /-- An argument holds a byte zero. -/
  | nulInArgument
  /-- The bytes of a file are not text. -/
  | notUtf8
  /-- Another error, known by its wording. -/
  | other (text : String)
  deriving DecidableEq, Repr

def SystemError.message : SystemError → String
  | os e => e.message
  | nulInPath => "file name contained an unexpected NUL byte"
  | nulInArgument => "nul byte found in provided data"
  | notUtf8 => "stream did not contain valid UTF-8"
  | other text => text

end SierraFootprint
