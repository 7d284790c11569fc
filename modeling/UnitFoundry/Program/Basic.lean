/-! # Programs

An executable file is described by what it does when it runs: how it answers a question for its
version, and what one run of it leaves behind. -/

namespace UnitFoundry

/-- How a run ends. -/
inductive Ending where
  /-- The program ends by itself with a code. -/
  | exit (code : Nat)
  /-- The program is killed by a signal, and may leave an image of its memory behind. -/
  | signal (number : Nat) (coreDumped : Bool := false)
deriving DecidableEq, Repr

/-- Whether a run counts as successful. -/
def Ending.isSuccess : Ending → Bool
  | .exit 0 => true
  | _ => false

/-- The usual name of a signal. -/
def Ending.signalName : Nat → String
  | 1 => " (SIGHUP)"
  | 2 => " (SIGINT)"
  | 3 => " (SIGQUIT)"
  | 4 => " (SIGILL)"
  | 5 => " (SIGTRAP)"
  | 6 => " (SIGABRT)"
  | 7 => " (SIGBUS)"
  | 8 => " (SIGFPE)"
  | 9 => " (SIGKILL)"
  | 10 => " (SIGUSR1)"
  | 11 => " (SIGSEGV)"
  | 12 => " (SIGUSR2)"
  | 13 => " (SIGPIPE)"
  | 14 => " (SIGALRM)"
  | 15 => " (SIGTERM)"
  | 16 => " (SIGSTKFLT)"
  | 17 => " (SIGCHLD)"
  | 18 => " (SIGCONT)"
  | 19 => " (SIGSTOP)"
  | 20 => " (SIGTSTP)"
  | 21 => " (SIGTTIN)"
  | 22 => " (SIGTTOU)"
  | 23 => " (SIGURG)"
  | 24 => " (SIGXCPU)"
  | 25 => " (SIGXFSZ)"
  | 26 => " (SIGVTALRM)"
  | 27 => " (SIGPROF)"
  | 28 => " (SIGWINCH)"
  | 29 => " (SIGIO)"
  | 30 => " (SIGPWR)"
  | 31 => " (SIGSYS)"
  | _ => ""

/-- How a run ended, for a reader. -/
def Ending.describe : Ending → String
  | .exit code => "exit status: " ++ toString code
  | .signal n coreDumped =>
    "signal: " ++ toString n ++ signalName n ++ (if coreDumped then " (core dumped)" else "")

/-- What an executable file does when it runs. -/
structure Program where
  /-- The exit code of a run that is asked for the version. -/
  versionExit : Nat := 0
  /-- What the program writes to the output path that its arguments name. -/
  output : Option ByteArray := none
  /-- What the program writes to standard error. -/
  stderr : String := ""
  /-- How a run ends. -/
  ending : Ending := .exit 0

end UnitFoundry
