import LineShell.LogFilter
import LineShell.Machine.Standard
import LineShell.Options
import LineShell.Session
import LineShell.Stream.Device
/-!
# The program as a whole

An invocation is a command line, an input, and a machine to run on. It comes to an exit status, what
both outputs received from the shell and from the programs it launched, and the notes that were
logged. The status is 0 exactly when the command line was in order and what it asks for succeeded.
-/

namespace LineShell

/-- How the program is invoked. -/
structure Invocation where
  args : List String
  /-- The log filter that the environment sets, if it sets one. -/
  logFilter : Option String := none
  input : Source
  machine : Machine
  dir : Location

/-- What an invocation comes to. -/
structure Completion where
  status : Nat
  out : Bytes := []
  /-- Standard error without the log. -/
  err : Bytes := []
  log : List Note := []
  deriving DecidableEq, Repr

namespace Trace

/-- What standard output received from the shell and from launched programs, in order. -/
def allOut {Dir : Type} (trace : Trace Dir) : Bytes :=
  trace.flatMap fun | .out bytes | .childOut bytes => bytes | _ => []

/-- What standard error received from the shell and from launched programs, in order. -/
def allErr {Dir : Type} (trace : Trace Dir) : Bytes :=
  trace.flatMap fun | .err bytes | .childErr bytes => bytes | _ => []

section
variable {Dir : Type} (s t : Trace Dir) (event : Event Dir) (notes : List Note)

@[simp] theorem allErr_nil : allErr ([] : Trace Dir) = [] := rfl

@[simp] theorem allErr_cons :
    allErr (event :: t)
      = (match event with | .err bytes | .childErr bytes => bytes | _ => []) ++ allErr t := rfl

@[simp] theorem allErr_append : allErr (s ++ t) = allErr s ++ allErr t := by simp [allErr]

@[simp] theorem allErr_notes : allErr (notes.map .note : Trace Dir) = [] := by
  simp [allErr]

end

end Trace

namespace Invocation

/-- The streams of an invocation. What a machine without room seems to take is lost later. -/
def console (invocation : Invocation) : Console :=
  if invocation.machine.outIsFull then { out := { device := .fullTerminal } } else {}

/-- What a shell finds itself on: the machine, with the environment that programs inherit. -/
def host (invocation : Invocation) : Host Location Unit :=
  (invocation.machine.withVariables
    (invocation.logFilter.map (LogFilter.variableName, ·)).toList).forkingHost

/-- Runs the shell with these settings. -/
def runShell (invocation : Invocation) (settings : Settings) : Run Location Unit :=
  (Shell.start settings invocation.dir ()).run invocation.host invocation.input invocation.console

/-- The notes that are logged. -/
def logged (invocation : Invocation) (settings : Settings) (notes : List Note) : List Note :=
  notes.filter (LogFilter.choose invocation.logFilter settings).admits

/-- What a run of the shell comes to, whatever launched its programs. -/
def completionOf {State : Type} (invocation : Invocation) (settings : Settings)
    (run : Run Location State) : Completion :=
  let out := if invocation.machine.outIsFull then [] else run.trace.allOut
  let log := invocation.logged settings run.trace.notes
  match run.result with
  | .ok () => { status := 0, out, err := run.trace.allErr, log }
  | .error error =>
    { status := 1, out, err := run.trace.allErr ++ Utf8.encode (Console.diagnostic error), log }

/-- What a request for help comes to. Help that cannot be shown is a failure of its own. -/
def showHelp (invocation : Invocation) : Completion :=
  if invocation.machine.outIsFull then
    let complaint := "failed printing to stdout: " ++ (Fault.system .noSpace).message ++ "\n"
    { status := 101, err := Utf8.encode complaint }
  else { status := 0, out := Utf8.encode usage }

/-- Runs the program. -/
def run (invocation : Invocation) : Completion :=
  match Request.ofArguments invocation.args with
  | .error error => { status := 1, err := Utf8.encode error.report }
  | .ok .help => invocation.showHelp
  | .ok (.run settings) => invocation.completionOf settings (invocation.runShell settings)

end Invocation

end LineShell
