import LineShell.Dispatch
import LineShell.Settings
import LineShell.Words
/-!
# A session

The shell shows its prompt, reads a line, records it, carries it out, and starts over until `exit`
or the end of input. It gives up only when the prompt cannot be shown or a line cannot be read.
Every line that is read makes the source smaller, so a run always ends.
-/

namespace LineShell

variable {Dir State : Type}

/-- A shell between two runs. -/
structure Shell (Dir State : Type) where
  prompt : String := defaultPrompt
  history : History := {}
  dir : Dir
  launcher : State

/-- What a run comes to. -/
structure Run (Dir State : Type) where
  trace : Trace Dir
  result : Except ShellError Unit
  shell : Shell Dir State

namespace Shell

/-- The shell of these settings in a directory. -/
def start (settings : Settings) (dir : Dir) (launcher : State) : Shell Dir State :=
  { prompt := settings.prompt, dir, launcher }

/-- The end of a run that succeeded: standard output is flushed once more, and whether that works
does not matter. -/
def finish (shell : Shell Dir State) (trace : Trace Dir) (console : Console) : Run Dir State :=
  let flushed := console.flush
  ⟨trace ++ flushed.trace ++ unflushedNotes .unflushedOnExit flushed.fault?, .ok (), shell⟩

/-- Records a line and carries it out. -/
def execute (host : Host Dir State) (shell : Shell Dir State) (console : Console) (line : String) :
    Trace Dir × Shell Dir State × Console × Signal :=
  let args := words line
  let history := shell.history.record args
  let done := dispatch host history args ⟨console, shell.dir⟩ shell.launcher
  (done.trace, { shell with history, dir := done.bench.dir, launcher := done.launcher },
    done.bench.console, done.signal)

/-- Runs the shell on a source and a console. -/
def run (host : Host Dir State) (shell : Shell Dir State) (source : Source) (console : Console) :
    Run Dir State :=
  let shown := console.prompt shell.prompt
  match shown.fault? with
  | some fault => ⟨shown.trace, .error (.io fault), shell⟩
  | none =>
    match h : source.readLine with
    | (.failed fault, _) =>
      ⟨shown.trace ++ [.read (.failed fault)], .error (.read fault), shell⟩
    | (.endOfInput, _) =>
      shell.finish (shown.trace ++ [.read .endOfInput, .note .endOfInput]) shown.console
    | (.line line, rest) =>
      let (trace, after, console, signal) := shell.execute host shown.console line
      let trace := shown.trace ++ .read (.line line) :: trace
      match signal with
      | .stop => after.finish trace console
      | .proceed =>
        let later := after.run host rest console
        { later with trace := trace ++ later.trace }
termination_by source.weight
decreasing_by exact Source.readLine_weight h

/-- Runs one shell on several inputs in turn, each with a console of its own. -/
def runAll (host : Host Dir State) (shell : Shell Dir State) :
    List (Source × Console) → List (Run Dir State)
  | [] => []
  | (source, console) :: inputs =>
    let run := shell.run host source console
    run :: run.shell.runAll host inputs

end Shell

end LineShell
