import SierraFootprint.Decimal.Numeral

/-!
# How a program ends

A program that is waited for has ended, or has only been stopped or resumed. A word tells which.
-/
namespace SierraFootprint

/-- What is known of a program that was waited for. -/
inductive Ending
  | exited (code : Nat)
  /-- A signal ended the program, and may have left a memory image. -/
  | killed (signal : Nat) (dumped : Bool)
  /-- A signal stopped the program without ending it. -/
  | stopped (signal : Nat)
  | resumed
  /-- The word stands for none of these. -/
  | unrecognised (word : Int)
  deriving DecidableEq, Repr

namespace Ending

/-- The only way to succeed is the exit code zero. -/
def isSuccess (e : Ending) : Bool :=
  e == exited 0

@[simp] theorem isSuccess_iff (e : Ending) : e.isSuccess ↔ e = exited 0 := by
  simp [isSuccess]

def code? : Ending → Option Nat
  | exited code => some code
  | _ => none

/-- The signal that ended the program. -/
def signal? : Ending → Option Nat
  | killed signal _ => some signal
  | _ => none

/-- A word of 32 bits, without regard to its sign. -/
def bits (word : Int) : Nat :=
  (word % 0x100000000).toNat

/-- An ending as it is packed into a word. The low seven bits hold the signal, and the next one
tells whether there is a memory image. Without a signal eight more bits hold the exit code. Where
the low seven bits are all set the program has not ended, and those eight hold the signal that
stopped it. -/
def ofWord (word : Int) : Ending :=
  let low := bits word % 128
  let high := bits word / 256 % 256
  if low = 0 then exited high
  else if low ≠ 127 then killed low (bits word / 128 % 2 == 1)
  else if bits word % 256 = 127 then stopped high
  else if bits word = 0xFFFF then resumed
  else unrecognised word

/-- The names of the signals that have one. -/
def signalName? : Nat → Option String
  | 1 => some "SIGHUP"
  | 2 => some "SIGINT"
  | 3 => some "SIGQUIT"
  | 4 => some "SIGILL"
  | 5 => some "SIGTRAP"
  | 6 => some "SIGABRT"
  | 7 => some "SIGBUS"
  | 8 => some "SIGFPE"
  | 9 => some "SIGKILL"
  | 10 => some "SIGUSR1"
  | 11 => some "SIGSEGV"
  | 12 => some "SIGUSR2"
  | 13 => some "SIGPIPE"
  | 14 => some "SIGALRM"
  | 15 => some "SIGTERM"
  | 16 => some "SIGSTKFLT"
  | 17 => some "SIGCHLD"
  | 18 => some "SIGCONT"
  | 19 => some "SIGSTOP"
  | 20 => some "SIGTSTP"
  | 21 => some "SIGTTIN"
  | 22 => some "SIGTTOU"
  | 23 => some "SIGURG"
  | 24 => some "SIGXCPU"
  | 25 => some "SIGXFSZ"
  | 26 => some "SIGVTALRM"
  | 27 => some "SIGPROF"
  | 28 => some "SIGWINCH"
  | 29 => some "SIGIO"
  | 30 => some "SIGPWR"
  | 31 => some "SIGSYS"
  | _ => none

/-- A signal by its number, with its name if it has one. -/
def signalText (signal : Nat) : String :=
  match signalName? signal with
  | some name => Decimal.numeral signal ++ " (" ++ name ++ ")"
  | none => Decimal.numeral signal

def text : Ending → String
  | exited code => "exit status: " ++ Decimal.numeral code
  | killed signal dumped =>
    "signal: " ++ signalText signal ++ (if dumped then " (core dumped)" else "")
  | stopped signal => "stopped (not terminated) by signal: " ++ signalText signal
  | resumed => "continued (WIFCONTINUED)"
  | unrecognised word =>
    "unrecognised wait status: " ++ Decimal.signedNumeral word ++ " 0x" ++
      String.ofList (Nat.toDigits 16 (bits word))

end Ending
end SierraFootprint
