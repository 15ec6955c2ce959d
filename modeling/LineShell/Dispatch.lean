import LineShell.Builtin.Registry
import LineShell.Host
/-!
# Carrying out one command

The first word decides: nothing is done for a blank line, a builtin runs inside the shell, and
anything else is launched. Before a launch standard output is flushed, so that what the shell
printed stands before what the program prints. Errors are reported and the shell goes on.
-/

namespace LineShell

variable {Dir State : Type}

/-- What carrying out a command comes to. -/
structure Dispatched (Dir State : Type) where
  trace : Trace Dir
  bench : Bench Dir
  launcher : State
  signal : Signal

/-- Runs a builtin and reports its error. -/
def runBuiltin (builtin : Builtin Dir) (context : Context Dir) (args : List String)
    (bench : Bench Dir) : Trace Dir × Bench Dir × Signal :=
  let reply := builtin.run context args bench
  let trace := .note (.runningBuiltin builtin.name) :: reply.trace
  match reply.result with
  | .ok signal => (trace, reply.bench, signal)
  | .error error =>
    let (reported, console) := reply.bench.console.report error
    (trace ++ reported, { reply.bench with console }, .proceed)

/-- The note on how a launch came out. -/
def outcomeNote (program : String) : Outcome → Note
  | .exited code => .childExited program code
  | .killed signal => .childKilled program signal
  | .failed fault => .launchFailed program fault

/-- The note on a flush: there is one only if it failed. -/
def unflushedNotes (note : Fault → Note) : Option Fault → Trace Dir
  | some fault => [.note (note fault)]
  | none => []

@[simp] theorem unflushedNotes_eq (note : Fault → Note) (fault? : Option Fault) :
    (unflushedNotes note fault? : Trace Dir) = (fault?.elim [] fun fault => [note fault]).map .note := by
  cases fault? <;> rfl

/-- Launches a program and reports a launch that failed. -/
def launchProgram (host : Host Dir State) (program : String) (args : List String)
    (bench : Bench Dir) (launcher : State) : Dispatched Dir State :=
  let flushed := bench.console.flush
  let (launch, launcher) := host.launch bench.dir args launcher
  let trace := flushed.trace ++ unflushedNotes .unflushedBeforeLaunch flushed.fault?
    ++ .launch args bench.dir :: launch.notes.map .note
    ++ [.childOut launch.out, .childErr launch.err, .note (outcomeNote program launch.outcome)]
  match launch.outcome with
  | .failed fault =>
    let (reported, console) := flushed.console.report (.launch fault)
    ⟨trace ++ reported, { bench with console }, launcher, .proceed⟩
  | _ => ⟨trace, { bench with console := flushed.console }, launcher, .proceed⟩

/-- Does what the first word of a command asks for. -/
def carryOut (host : Host Dir State) (history : History) (args : List String)
    (bench : Bench Dir) (launcher : State) : Dispatched Dir State :=
  match args with
  | [] => ⟨[], bench, launcher, .proceed⟩
  | name :: _ =>
    match Registry.standard.find? name with
    | some builtin =>
      let context := ⟨history, Registry.standardNames, host.changeDir⟩
      let (trace, bench, signal) := runBuiltin builtin context args bench
      ⟨trace, bench, launcher, signal⟩
    | none => launchProgram host name args bench launcher

/-- Carries out the command with these words. -/
def dispatch (host : Host Dir State) (history : History) (args : List String)
    (bench : Bench Dir) (launcher : State) : Dispatched Dir State :=
  let done := carryOut host history args bench launcher
  { done with trace := .dispatch args history :: done.trace }

/-- A command to carry out, which may be recorded in the history first. -/
structure Order where
  args : List String
  recorded : Bool := false
  deriving DecidableEq, Repr

/-- The history that an order is carried out with. -/
def Order.historyAfter (order : Order) (history : History) : History :=
  if order.recorded then history.record order.args else history

/-- Carries out commands one after another on one console, whatever their signals are. -/
def dispatchAll (host : Host Dir State) (history : History) (bench : Bench Dir) (launcher : State) :
    List Order → List (Dispatched Dir State)
  | [] => []
  | order :: orders =>
    let history := order.historyAfter history
    let done := dispatch host history order.args bench launcher
    done :: dispatchAll host history done.bench done.launcher orders

end LineShell
