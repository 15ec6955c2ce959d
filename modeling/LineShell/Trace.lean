import LineShell.Fault
import LineShell.History
import LineShell.Stream.Source
/-!
# What can be observed

A run is observed as a list of events: what was read, which commands were to be carried out with
which history, what the output streams took, every flush, every launch with the directory it
happened in, what the launched program wrote, and the notes of the debug log. The functions at the
end each pick one kind of event out of a run.
-/

namespace LineShell

/-- A note in the debug log. -/
inductive Note where
  | runningBuiltin (name : String)
  | changedDirectory (target : String)
  | spawnedChild (program : String)
  | childExited (program : String) (code : Int)
  | childKilled (program : String) (signal : Int)
  | launchFailed (program : String) (fault : Fault)
  | unflushedBeforeLaunch (fault : Fault)
  | unflushedOnExit (fault : Fault)
  | endOfInput
  deriving DecidableEq, Repr

/-- A note as it stands in the log. The process number of a child is masked. -/
def Note.text : Note → String
  | .runningBuiltin name => "DEBUG running builtin builtin=" ++ name
  | .changedDirectory target => "DEBUG changed directory target=" ++ target
  | .spawnedChild program => "DEBUG spawned child pid=* program=" ++ program
  | .childExited program code =>
    "DEBUG child exited program=" ++ program ++ " code=" ++ toString code
  | .childKilled program signal =>
    "DEBUG child killed by signal program=" ++ program ++ " signal=" ++ toString signal
  | .launchFailed program fault =>
    "DEBUG launch failed program=" ++ program ++ " error=" ++ fault.message
  | .unflushedBeforeLaunch fault =>
    "DEBUG failed to flush output before launch error=" ++ fault.message
  | .unflushedOnExit fault => "DEBUG failed to flush output on exit error=" ++ fault.message
  | .endOfInput => "DEBUG end of input"

/-- The part of the program that a note comes from, as log filters name it. -/
def Note.origin : Note → String
  | .runningBuiltin _ | .childExited _ _ | .childKilled _ _ | .launchFailed _ _
  | .unflushedBeforeLaunch _ => "minish::executor::dispatcher"
  | .changedDirectory _ => "minish::executor::builtin::commands"
  | .spawnedChild _ => "minish::executor::launcher::fork_exec"
  | .unflushedOnExit _ | .endOfInput => "minish::repl"

/-- The names of a note's fields. -/
def Note.fields : Note → List String
  | .runningBuiltin _ => ["message", "builtin"]
  | .changedDirectory _ => ["message", "target"]
  | .spawnedChild _ => ["message", "pid", "program"]
  | .childExited _ _ => ["message", "program", "code"]
  | .childKilled _ _ => ["message", "program", "signal"]
  | .launchFailed _ _ => ["message", "program", "error"]
  | .unflushedBeforeLaunch _ | .unflushedOnExit _ => ["message", "error"]
  | .endOfInput => ["message"]

/-- Something observed, where directories are of type `Dir`. -/
inductive Event (Dir : Type) where
  /-- A line was asked for, with this result. -/
  | read (reading : Reading String)
  /-- A command was to be carried out, and this was the history it could see. -/
  | dispatch (args : List String) (history : History)
  /-- Standard output took these bytes. -/
  | out (bytes : Bytes)
  /-- Standard error took these bytes. -/
  | err (bytes : Bytes)
  /-- Standard output was asked to flush. -/
  | flush (worked : Bool)
  /-- A program was launched with these arguments, in this directory. -/
  | launch (args : List String) (dir : Dir)
  /-- A launched program wrote these bytes to its standard output. -/
  | childOut (bytes : Bytes)
  /-- A launched program wrote these bytes to its standard error. -/
  | childErr (bytes : Bytes)
  /-- A note was logged. -/
  | note (note : Note)
  deriving DecidableEq, Repr

/-- Whether an event is a step of the shell: a read, a dispatch or a launch. -/
def Event.isStep {Dir : Type} : Event Dir → Bool
  | .read _ | .dispatch _ _ | .launch _ _ => true
  | _ => false

/-- Events in the order they happened. -/
abbrev Trace (Dir : Type) := List (Event Dir)

namespace Trace

variable {Dir : Type}

/-- What standard output took. -/
def out (trace : Trace Dir) : Bytes :=
  trace.flatMap fun | .out bytes => bytes | _ => []

/-- What standard error took. -/
def err (trace : Trace Dir) : Bytes :=
  trace.flatMap fun | .err bytes => bytes | _ => []

/-- The launches, with their directories. -/
def launches (trace : Trace Dir) : List (List String × Dir) :=
  trace.filterMap fun | .launch args dir => some (args, dir) | _ => none

/-- The notes logged. -/
def notes (trace : Trace Dir) : List Note :=
  trace.filterMap fun | .note note => some note | _ => none

/-- The steps of the shell: its reads, dispatches and launches. -/
def steps (trace : Trace Dir) : Trace Dir := trace.filter Event.isStep

/-- The lines read. -/
def lines (trace : Trace Dir) : List String :=
  trace.filterMap fun | .read (.line line) => some line | _ => none

/-- The results of asking for a line. -/
def readings (trace : Trace Dir) : List (Reading String) :=
  trace.filterMap fun | .read reading => some reading | _ => none

/-- The commands that were to be carried out, with the history each could see. -/
def dispatches (trace : Trace Dir) : List (List String × History) :=
  trace.filterMap fun | .dispatch args history => some (args, history) | _ => none

/-- The flushes asked for, and whether they worked. -/
def flushes (trace : Trace Dir) : List Bool :=
  trace.filterMap fun | .flush worked => some worked | _ => none

/-- What launched programs wrote to their standard output. -/
def childOut (trace : Trace Dir) : Bytes :=
  trace.flatMap fun | .childOut bytes => bytes | _ => []

/-- What launched programs wrote to their standard error. -/
def childErr (trace : Trace Dir) : Bytes :=
  trace.flatMap fun | .childErr bytes => bytes | _ => []

section
variable (s t : Trace Dir) (event : Event Dir) (notes : List Note)

@[simp] theorem out_nil : out ([] : Trace Dir) = [] := rfl
@[simp] theorem err_nil : err ([] : Trace Dir) = [] := rfl
@[simp] theorem launches_nil : launches ([] : Trace Dir) = [] := rfl
@[simp] theorem lines_nil : lines ([] : Trace Dir) = [] := rfl
@[simp] theorem readings_nil : readings ([] : Trace Dir) = [] := rfl
@[simp] theorem dispatches_nil : dispatches ([] : Trace Dir) = [] := rfl
@[simp] theorem steps_nil : steps ([] : Trace Dir) = [] := rfl
@[simp] theorem childErr_nil : childErr ([] : Trace Dir) = [] := rfl
@[simp] theorem flushes_nil : flushes ([] : Trace Dir) = [] := rfl

@[simp] theorem out_cons :
    out (event :: t) = (match event with | .out bytes => bytes | _ => []) ++ out t := rfl

@[simp] theorem err_cons :
    err (event :: t) = (match event with | .err bytes => bytes | _ => []) ++ err t := rfl

@[simp] theorem childErr_cons :
    childErr (event :: t) = (match event with | .childErr bytes => bytes | _ => []) ++ childErr t := rfl

@[simp] theorem launches_cons :
    launches (event :: t)
      = (match event with | .launch args dir => [(args, dir)] | _ => []) ++ launches t := by
  cases event <;> rfl

@[simp] theorem lines_cons :
    lines (event :: t) = (match event with | .read (.line line) => [line] | _ => []) ++ lines t := by
  cases event with
  | read reading => cases reading <;> rfl
  | _ => rfl

@[simp] theorem readings_cons :
    readings (event :: t) = (match event with | .read reading => [reading] | _ => []) ++ readings t := by
  cases event <;> rfl

@[simp] theorem dispatches_cons :
    dispatches (event :: t)
      = (match event with | .dispatch args history => [(args, history)] | _ => [])
        ++ dispatches t := by
  cases event <;> rfl

@[simp] theorem flushes_cons :
    flushes (event :: t) = (match event with | .flush worked => [worked] | _ => []) ++ flushes t := by
  cases event <;> rfl

@[simp] theorem steps_cons :
    steps (event :: t) = if event.isStep then event :: steps t else steps t := by
  cases event <;> rfl

@[simp] theorem out_append : out (s ++ t) = out s ++ out t := by simp [out]
@[simp] theorem err_append : err (s ++ t) = err s ++ err t := by simp [err]
@[simp] theorem childErr_append : childErr (s ++ t) = childErr s ++ childErr t := by simp [childErr]
@[simp] theorem launches_append : launches (s ++ t) = launches s ++ launches t := by simp [launches]
@[simp] theorem notes_append : Trace.notes (s ++ t) = s.notes ++ t.notes := by simp [Trace.notes]
@[simp] theorem lines_append : lines (s ++ t) = lines s ++ lines t := by simp [lines]
@[simp] theorem readings_append : readings (s ++ t) = readings s ++ readings t := by simp [readings]
@[simp] theorem dispatches_append : dispatches (s ++ t) = dispatches s ++ dispatches t := by
  simp [dispatches]
@[simp] theorem steps_append : steps (s ++ t) = steps s ++ steps t := by simp [steps]
@[simp] theorem flushes_append : flushes (s ++ t) = flushes s ++ flushes t := by simp [flushes]

theorem mem_launches_iff {t : Trace Dir} {args : List String} {dir : Dir} :
    (args, dir) ∈ t.launches ↔ .launch args dir ∈ t := by
  induction t with
  | nil => simp
  | cons event t ih => cases event <;> simp [ih]

theorem mem_readings_iff {t : Trace Dir} {reading : Reading String} :
    reading ∈ t.readings ↔ .read reading ∈ t := by
  induction t with
  | nil => simp
  | cons event t ih => cases event <;> simp [ih]

theorem mem_flushes_iff {t : Trace Dir} {worked : Bool} : worked ∈ t.flushes ↔ .flush worked ∈ t := by
  induction t with
  | nil => simp
  | cons event t ih => cases event <;> simp [ih]

/-! Reads, dispatches and launches are all among the steps. -/

theorem filterMap_steps {α : Type} {pick : Event Dir → Option α}
    (h : ∀ event, event.isStep = false → pick event = none) :
    t.steps.filterMap pick = t.filterMap pick := by
  induction t with
  | nil => rfl
  | cons event t ih =>
    cases hstep : event.isStep with
    | true => simp [hstep, List.filterMap_cons, ih]
    | false => simp [hstep, ih, h event hstep]

theorem lines_steps : t.steps.lines = t.lines :=
  filterMap_steps t fun event h => by cases event <;> trivial

theorem readings_steps : t.steps.readings = t.readings :=
  filterMap_steps t fun event h => by cases event <;> trivial

theorem dispatches_steps : t.steps.dispatches = t.dispatches :=
  filterMap_steps t fun event h => by cases event <;> trivial

theorem launches_steps : t.steps.launches = t.launches :=
  filterMap_steps t fun event h => by cases event <;> trivial

/-! Notes are no events of any other kind. -/

@[simp] theorem out_notes : out (notes.map .note : Trace Dir) = [] := by simp [out]
@[simp] theorem err_notes : err (notes.map .note : Trace Dir) = [] := by simp [err]
@[simp] theorem childErr_notes : childErr (notes.map .note : Trace Dir) = [] := by simp [childErr]
@[simp] theorem launches_notes : launches (notes.map .note : Trace Dir) = [] := by simp [launches]
@[simp] theorem readings_notes : readings (notes.map .note : Trace Dir) = [] := by simp [readings]
@[simp] theorem flushes_notes : flushes (notes.map .note : Trace Dir) = [] := by simp [flushes]
@[simp] theorem steps_notes : steps (notes.map .note : Trace Dir) = [] := by
  simp [steps, Event.isStep]

end

end Trace

end LineShell
