import LineShell.Host
import LineShell.Machine.Printf
import LineShell.Machine.Schedule
import LineShell.Machine.Script.Shell
/-!
# A machine that runs programs

A machine is a tree of files and the directories in which programs are looked up. A program is started
in a world of its own, where standard input is empty, and runs there to its end. `Machine.kernel` is
the machine as a shell sees it.
-/

namespace LineShell

/-- A machine. -/
structure Machine where
  files : FileTree
  /-- The directories in which a program is looked up that is named without a slash. -/
  searchPath : List String
  /-- Whether standard output has no room. -/
  outIsFull : Bool := false
  /-- The variables that programs find set. -/
  environment : Environment := []

namespace Machine

/-- The machine with further variables. -/
def withVariables (machine : Machine) (more : Environment) : Machine :=
  { machine with environment := more ++ machine.environment }

/-- The directory a name leads to from a given one. -/
def changeDir (machine : Machine) : ChangeDir Location := fun dir name =>
  machine.files.locateDirectory dir (Octets.ofText name)

/-- What the programs of a machine do. -/
def load : Loader := fun utility image =>
  let name := image.args.headD ""
  let args := image.args.drop 1
  match utility with
  | .succeed => .ended 0
  | .fail => .ended 1
  | .echo => (Utility.deliver name (Utility.runEcho args)).toProgram
  | .printf => (Utility.deliver name (Printf.runProgram name args)).toProgram
  | .pwd => Act.toProgram do
    Utility.deliver name (← Utility.runPwd name image.environment args)
  | .sh => Script.Shell.run image

/-- The number of the process of a shell that starts programs. -/
def shellPid : Pid := 100

/-- The number of the process of a program that it starts. -/
def programPid : Pid := shellPid + 1

/-- What a program has open when it is started. -/
def openFiles (machine : Machine) : List (Nat × OpenFile) :=
  [(0, { channel := .nothing, reads := true }),
    (1, { channel := if machine.outIsFull then .noRoom else .out, writes := true }),
    (2, { channel := .err, writes := true })]

/-- The process that is to become a program. -/
def starting (rules : StartRules) (dir : Location) : Process where
  pid := programPid
  parent := shellPid
  program := .ended 0
  dir
  descriptors := (List.range 3).map fun number => (number, { file := number })
  handling := if rules.keepsIgnored then [(SystemSignal.brokenPipe, .ignored)] else []

/-- The world in which a program is started. -/
def world (machine : Machine) (rules : StartRules) (dir : Location) : World where
  files := machine.files
  processes := [starting rules dir]
  openFiles := machine.openFiles
  nextPid := programPid + 1
  nextNumber := 3
  watched := programPid

/-- The variables that a program finds set, which are octets. -/
def variablesFor (machine : Machine) : Environment :=
  ("PATH", ":".intercalate machine.searchPath)
    :: machine.environment.map fun (name, value) => (name, Octets.ofText value)

/-- The first path in a list at which a program can be run. Paths at which there is nothing, or
nothing that may be run, are passed over; of these a refusal is told in preference. -/
def firstThatRuns {α : Type} (attempt : String → Except Errno α) (denied : Bool) :
    List String → Except Errno α
  | [] => .error (if denied then .accessDenied else .noEntry)
  | path :: paths =>
    match attempt path with
    | .ok started => .ok started
    | .error errno =>
      if errno = .noEntry ∨ errno = .notDirectory then firstThatRuns attempt denied paths
      else if errno = .accessDenied then firstThatRuns attempt true paths
      else .error errno

/-- Runs the program of a name: a name with a slash is the path to it, any other is looked up. -/
def lookUp {α : Type} (machine : Machine) (attempt : String → Except Errno α) (name : String) :
    Except Errno α :=
  if name = "" then .error .noEntry
  else if name.toList.contains '/' then attempt name
  else firstThatRuns attempt false (machine.searchPath.map (· ++ "/" ++ name))

/-- Starts the program at a path. An executable file that is neither a program nor names one may be
handed to the command language. -/
def startAt (machine : Machine) (rules : StartRules) (dir : Location) (args : List String)
    (path : String) : Except Errno World :=
  let become := (machine.world rules dir).become load (starting rules dir)
  match become path args machine.variablesFor with
  | .ok world => .ok world
  | .error errno =>
    if errno = .unknownFormat ∧ rules.runsScripts then
      let runner := Script.Command.scriptRunner
      become runner (runner :: path :: args.drop 1) machine.variablesFor
    else .error errno

/-- The machine as a shell sees it. Processes have numbers that nobody asks for. -/
def kernel (machine : Machine) : Kernel Location where
  fork := .ok programPid
  exec rules dir argv :=
    let args := argv.map Octets.ofBytes
    (machine.lookUp (machine.startAt rules dir args) (args.headD "")).map fun world =>
      (world.run load World.lateTurns World.turns).execution

/-- A shell's host on this machine that launches by fork and exec. -/
def forkingHost (machine : Machine) : Host Location Unit :=
  .forking machine.changeDir machine.kernel

/-- A shell's host on this machine that launches by spawning. -/
def spawningHost (machine : Machine) : Host Location Unit :=
  .spawning machine.changeDir machine.kernel

end Machine

end LineShell
