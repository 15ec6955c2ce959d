import LineShell.Decimal
/-!
# Signals

Signals have numbers, and most have names. What one does to a process that is not prepared for it
depends on the signal: nothing, an end, or a stop until another signal lets the process go on.
-/

namespace LineShell.SystemSignal

/-- What a signal does to a process that is not prepared for it. -/
inductive Disposition where
  | deadly
  | harmless
  | halting
  deriving DecidableEq, Repr

/-- The signal by which a process is interrupted. -/
def interrupt : Nat := 2

/-- The signal by which a process is told to leave. -/
def quit : Nat := 3

/-- The signal of a number that is out of range. -/
def badNumber : Nat := 8

/-- The signal that ends a process whatever it is prepared for. -/
def kill : Nat := 9

/-- The signal of a broken pipe. -/
def brokenPipe : Nat := 13

/-- The signal that asks a process to end. -/
def terminate : Nat := 15

/-- The signal that tells of a child. -/
def childChanged : Nat := 17

/-- The signal that lets a process go on. -/
def proceed : Nat := 18

/-- The signal that stops a process whatever it is prepared for. -/
def stop : Nat := 19

/-- What a signal does to an unprepared process. -/
def disposition (signal : Nat) : Disposition :=
  if [0, 17, 18, 23, 28].contains signal then .harmless
  else if [19, 20, 21, 22].contains signal then .halting
  else .deadly

/-- The last signal there is. -/
def last : Nat := 64

/-- The names of the signals, from the first. -/
def names : List String :=
  ["HUP", "INT", "QUIT", "ILL", "TRAP", "ABRT", "BUS", "FPE", "KILL", "USR1", "SEGV", "USR2",
    "PIPE", "ALRM", "TERM", "STKFLT", "CHLD", "CONT", "STOP", "TSTP", "TTIN", "TTOU", "URG",
    "XCPU", "XFSZ", "VTALRM", "PROF", "WINCH", "IO", "PWR", "SYS", "32", "33", "RTMIN"]
    ++ (List.range 15).map (fun i => "RTMIN+" ++ (i + 1).repr)
    ++ (List.range 14).map (fun i => "RTMAX-" ++ (14 - i).repr) ++ ["RTMAX"]

/-- What is said of those that the first signals end. -/
def descriptions : List String :=
  ["Hangup", "Interrupt", "Quit", "Illegal instruction", "Trace/breakpoint trap", "Aborted",
    "Bus error", "Floating point exception", "Killed", "User defined signal 1",
    "Segmentation fault", "User defined signal 2", "Broken pipe", "Alarm clock", "Terminated",
    "Stack fault", "Child exited", "Continued", "Stopped (signal)", "Stopped",
    "Stopped (tty input)", "Stopped (tty output)", "Urgent I/O condition",
    "CPU time limit exceeded", "File size limit exceeded", "Virtual timer expired",
    "Profiling timer expired", "Window changed", "I/O possible", "Power failure",
    "Bad system call"]

/-- The first signal that has no use of its own. -/
def firstFree : Nat := 34

/-- What is said of a process that a signal ended. -/
def description (signal : Nat) : String :=
  match descriptions[signal - 1]? with
  | some text => text
  | none =>
    if firstFree ≤ signal then "Real-time signal " ++ (signal - firstFree).repr
    else "Unknown signal " ++ signal.repr

/-- The signal that a number or a name stands for. The case of letters does not matter. -/
def ofText? (text : String) : Option Nat :=
  match Decimal.number? text with
  | some n => if n ≤ last then some n else none
  | none => (names.idxOf? text.toUpper).map (· + 1)

end LineShell.SystemSignal
