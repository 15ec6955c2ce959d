import LineShell.Process.Wait
/-!
# What the system does with a launch

A kernel answers two questions: whether a new process can be made, and what running an argument
vector in it leads to. A program that was started always comes to an end.
-/

namespace LineShell

/-- The life of a started program: what becomes of it, and what it writes. -/
structure Execution where
  changes : List Change
  ends : ∃ c ∈ changes, c.isEnd
  out : Bytes := []
  err : Bytes := []

/-- What differs between the ways to start a program. -/
structure StartRules where
  /-- Whether an executable file of unknown format is handed to the command language. -/
  runsScripts : Bool
  /-- Whether the program is deaf to the signal of a broken pipe, as the shell itself is. -/
  keepsIgnored : Bool
  deriving DecidableEq, Repr

/-- A forked child replaces itself. -/
def StartRules.forked : StartRules := ⟨true, true⟩

/-- A child is spawned afresh. -/
def StartRules.spawned : StartRules := ⟨false, false⟩

/-- The system's answers, where directories are of type `Dir`. -/
structure Kernel (Dir : Type) where
  /-- Makes a new process. -/
  fork : Except Errno Pid
  /-- Runs an argument vector in a directory. -/
  exec : StartRules → Dir → List Bytes → Except Errno Execution

/-- A request made of the system in the course of a launch. -/
inductive SystemCall where
  /-- Make a new process. -/
  | fork
  /-- In the new process: become this program. -/
  | exec (argv : List Bytes)
  /-- In the new process: end with this status. -/
  | exit (code : Nat)
  /-- Start this program in a new process. -/
  | spawn (argv : List Bytes)
  /-- Wait for this child. -/
  | wait (child : Pid)
  deriving DecidableEq, Repr

/-- What the shell learns of a launch: how it came out, what to note in the log about it, and what
the child wrote. -/
structure Launch where
  outcome : Outcome
  notes : List Note := []
  out : Bytes := []
  err : Bytes := []

/-- A launch together with the requests it made of the system. -/
structure Attempt where
  launch : Launch
  calls : List SystemCall

/-- A launch that ends before anything is asked of the system. -/
def Attempt.refused (fault : Fault) : Attempt := ⟨{ outcome := .failed fault }, []⟩

end LineShell
