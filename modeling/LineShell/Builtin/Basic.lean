import LineShell.Console
import LineShell.History
/-!
# Commands that run inside the shell

A builtin has a name and a way to run. Running it may write to the console and change the working
directory; it ends by saying whether the shell goes on, or with an error.
-/

namespace LineShell

/-- Whether the shell goes on after a line. -/
inductive Signal where
  | proceed
  | stop
  deriving DecidableEq, Repr

/-- What changing to a named directory leads to, from a given one. -/
abbrev ChangeDir (Dir : Type) := Dir → String → Except Fault Dir

/-- What a builtin may look at. -/
structure Context (Dir : Type) where
  history : History
  /-- The names of all builtins, in the order of their table. -/
  names : List String
  changeDir : ChangeDir Dir

/-- What a builtin may change. -/
structure Bench (Dir : Type) where
  console : Console
  dir : Dir

/-- What running a builtin comes to. -/
structure Reply (Dir : Type) where
  trace : Trace Dir
  bench : Bench Dir
  result : Except ShellError Signal

/-- A command that runs inside the shell. -/
structure Builtin (Dir : Type) where
  name : String
  /-- Runs the command. The arguments begin with its own name. -/
  run : Context Dir → List String → Bench Dir → Reply Dir

/-- Prints pieces, and then ends with the given result unless printing failed. -/
def Bench.printThen {Dir : Type} (bench : Bench Dir) (pieces : List Bytes)
    (result : Except ShellError Signal) : Reply Dir :=
  let shown := bench.console.print pieces
  ⟨shown.trace, { bench with console := shown.console },
    match shown.fault? with
    | some fault => .error (.io fault)
    | none => result⟩

end LineShell
