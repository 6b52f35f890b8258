/-!
Signals, by number, as the kernel numbers them on the machines this library models.

A signal either has a handler, is ignored, or takes its default action: for most signals the
default is to end the process, for a few (`CHLD`, `CONT`, `URG`, `WINCH`) it is to do nothing,
and the stop signals are modelled as doing nothing. `KILL` cannot be caught or ignored.
-/
namespace CrashTest.Os

/-- The name of each signal, without its `SIG` prefix. -/
def signalNames : List (String × Nat) :=
  [("HUP", 1), ("INT", 2), ("QUIT", 3), ("ILL", 4), ("TRAP", 5), ("ABRT", 6), ("BUS", 7),
    ("FPE", 8), ("KILL", 9), ("USR1", 10), ("SEGV", 11), ("USR2", 12), ("PIPE", 13),
    ("ALRM", 14), ("TERM", 15), ("STKFLT", 16), ("CHLD", 17), ("CONT", 18), ("STOP", 19),
    ("TSTP", 20), ("TTIN", 21), ("TTOU", 22), ("URG", 23), ("XCPU", 24), ("XFSZ", 25),
    ("VTALRM", 26), ("PROF", 27), ("WINCH", 28), ("IO", 29), ("PWR", 30), ("SYS", 31)]

/-- The hang-up signal. -/
def sigHup : Nat := 1

/-- The interrupt signal. -/
def sigInt : Nat := 2

/-- The quit signal. -/
def sigQuit : Nat := 3

/-- The kill signal, which cannot be caught or ignored. -/
def sigKill : Nat := 9

/-- The termination signal. -/
def sigTerm : Nat := 15

/-- The signal a parent gets when a child ends. -/
def sigChld : Nat := 17

/-- The number of a signal written as a name (with or without `SIG`, in any case) or a number. -/
def signalNumber? (s : String) : Option Nat :=
  let upper := s.toUpper
  let bare := if upper.startsWith "SIG" then (upper.drop 3).toString else upper
  match bare.toNat? with
  | some n => if n < 65 then some n else none
  | none => (signalNames.find? (·.1 == bare)).map (·.2)

/-- The name of a signal number, without `SIG`. -/
def signalName (n : Nat) : String :=
  match signalNames.find? (·.2 == n) with
  | some (name, _) => name
  | none => toString n

/-- How the C library describes a signal, as a shell shows a job it ended. -/
def signalDescription (n : Nat) : String :=
  let texts : List String :=
    ["Hangup", "Interrupt", "Quit", "Illegal instruction", "Trace/breakpoint trap", "Aborted",
      "Bus error", "Floating point exception", "Killed", "User defined signal 1",
      "Segmentation fault", "User defined signal 2", "Broken pipe", "Alarm clock", "Terminated",
      "Stack fault", "Child exited", "Continued", "Stopped (signal)", "Stopped",
      "Stopped (tty input)", "Stopped (tty output)", "Urgent I/O condition",
      "CPU time limit exceeded", "File size limit exceeded", "Virtual timer expired",
      "Profiling timer expired", "Window changed", "I/O possible", "Power failure",
      "Bad system call"]
  if 1 ≤ n && n ≤ 31 then texts.getD (n - 1) ""
  else if 34 ≤ n && n ≤ 64 then "Real-time signal " ++ toString (n - 34)
  else "Unknown signal " ++ toString n

/-- Whether a signal's default action leaves the process running. -/
def ignoredByDefault (n : Nat) : Bool :=
  n = 17 || n = 18 || n = 19 || n = 20 || n = 21 || n = 22 || n = 23 || n = 28

end CrashTest.Os
