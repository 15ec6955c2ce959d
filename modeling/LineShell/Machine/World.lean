import LineShell.Machine.FileTree
import LineShell.Machine.Program
import LineShell.Machine.SystemSignal
/-!
# Processes and what they have open

A world is what a system consists of while programs run: its files, its processes, and what these
have open. A process has open files under numbers; after a fork both processes have the same ones. A
process that has ended is kept until its parent has asked for it. One process is watched: what
becomes of it, and what arrives at the two outputs, is all that is seen of a world.
-/

namespace LineShell

/-- Where the bytes of an open file come from and go to. -/
inductive Channel where
  | nothing
  | zeros
  | noRoom
  /-- The outputs that are seen. -/
  | out
  | err
  | pipe (number : Nat)
  | file (place : Location)
  | directory (place : Location)
  deriving DecidableEq, Repr

/-- An open file. -/
structure OpenFile where
  channel : Channel
  reads : Bool := false
  writes : Bool := false
  appends : Bool := false
  /-- Where in the file the next byte is. -/
  offset : Nat := 0
  deriving DecidableEq, Repr

/-- What a process has under a number: an open file, and whether programs find it there. -/
structure Descriptor where
  file : Nat
  isKept : Bool := true
  deriving DecidableEq, Repr

/-- A process. -/
structure Process where
  pid : Pid
  parent : Pid
  program : Program
  dir : Location
  descriptors : List (Nat × Descriptor)
  handling : List (Nat × Handling) := []
  /-- The signals that it has not yet asked for. -/
  noted : List Nat := []
  isStopped : Bool := false
  /-- The signals that wait for it to go on. -/
  delayed : List Nat := []
  mask : Nat := 18

/-- A process that has ended. -/
structure Ended where
  pid : Pid
  parent : Pid
  change : Change

/-- Processes, their files and what is seen of them. What came last stands first in the lists. -/
structure World where
  files : FileTree
  processes : List Process
  ended : List Ended := []
  openFiles : List (Nat × OpenFile)
  pipes : List (Nat × Bytes) := []
  /-- The next number of a process, and of an open file or a pipe. -/
  nextPid : Pid
  nextNumber : Nat
  /-- The process that is watched. -/
  watched : Pid
  changes : List Change := []
  out : List Bytes := []
  err : List Bytes := []

namespace Process

/-- What a process does when a signal reaches it. Two signals cannot be prepared for. -/
def handlingOf (process : Process) (signal : Nat) : Handling :=
  if signal = SystemSignal.kill ∨ signal = SystemSignal.stop then .standard
  else (process.handling.lookup signal).getD .standard

/-- Lets a number mean an open file, or nothing. -/
def withDescriptor (process : Process) (number : Nat) (descriptor? : Option Descriptor) :
    Process :=
  let others := process.descriptors.filter (·.1 != number)
  { process with descriptors := (descriptor?.map (number, ·)).toList ++ others }

/-- The lowest number that is free, from a given one on. -/
def freeNumber (process : Process) (first : Nat) : Nat :=
  ((List.range (process.descriptors.length + 1)).map (first + ·)).find? (fun number =>
    (process.descriptors.lookup number).isNone) |>.getD first

end Process

namespace World

/-- The process with a number. -/
def process? (world : World) (pid : Pid) : Option Process :=
  world.processes.find? (·.pid = pid)

/-- Changes the process with a number. -/
def modify (world : World) (pid : Pid) (change : Process → Process) : World :=
  { world with
    processes := world.processes.map fun process =>
      if process.pid = pid then change process else process }

/-- What a process has open under a number. -/
def openFile? (world : World) (process : Process) (number : Nat) : Option (Nat × OpenFile) :=
  (process.descriptors.lookup number).bind fun descriptor =>
    (world.openFiles.lookup descriptor.file).map (descriptor.file, ·)

/-- Changes an open file. -/
def withOpenFile (world : World) (number : Nat) (file : OpenFile) : World :=
  { world with
    openFiles := world.openFiles.map fun entry => if entry.1 = number then (number, file) else entry }

/-- Whether any process has an open file of some kind. -/
def anyOpen (world : World) (isSuch : OpenFile → Bool) : Bool :=
  world.processes.any fun process =>
    process.descriptors.any fun entry => (world.openFiles.lookup entry.2.file).any isSuch

/-- Opens a file in a process, under a number. -/
def openAt (world : World) (pid : Pid) (number : Nat) (file : OpenFile) (isKept : Bool) : World :=
  let opened := { world with
    openFiles := (world.nextNumber, file) :: world.openFiles
    nextNumber := world.nextNumber + 1 }
  opened.modify pid (·.withDescriptor number (some { file := world.nextNumber, isKept }))

/-! ## Signals -/

/-- Notes a signal for a process that is prepared for it. -/
def note (world : World) (pid : Pid) (signal : Nat) : World :=
  world.modify pid fun process =>
    if process.handlingOf signal = .noted ∧ !process.noted.contains signal then
      { process with noted := process.noted ++ [signal] }
    else process

/-- Ends a process. Those it leaves behind belong to the first of all processes. -/
def bury (world : World) (process : Process) (change : Change) : World :=
  let others := (world.processes.filter (·.pid != process.pid)).map fun other =>
    if other.parent = process.pid then { other with parent := 1 } else other
  let isAwaited := others.any (·.pid = process.parent)
  let dead : List Ended :=
    if isAwaited then [{ pid := process.pid, parent := process.parent, change }] else []
  let changes :=
    if process.pid = world.watched then change :: world.changes else world.changes
  let buried := { world with
    processes := others
    ended := dead ++ world.ended.filter fun (it : Ended) => it.parent != process.pid
    changes }
  buried.note process.parent SystemSignal.childChanged

/-- Stops a process. -/
def halt (world : World) (process : Process) : World :=
  let changes :=
    if process.pid = world.watched then .stopped :: world.changes else world.changes
  ({ world with changes }.modify process.pid fun process => { process with isStopped := true }).note
    process.parent SystemSignal.childChanged

/-- Lets a signal reach a process that goes on. -/
def strike (world : World) (process : Process) (signal : Nat) : World :=
  match process.handlingOf signal with
  | .ignored => world
  | .noted => world.note process.pid signal
  | .standard =>
    match SystemSignal.disposition signal with
    | .harmless => world
    | .halting => world.halt process
    | .deadly => world.bury process (.killed signal)

/-- Lets a stopped process go on. The signals that waited for that reach it now. -/
def wake (world : World) (process : Process) : World :=
  let changes :=
    if process.pid = world.watched then .continued :: world.changes else world.changes
  let awake := { world with changes }.modify process.pid fun process =>
    { process with isStopped := false, delayed := [] }
  process.delayed.foldl (fun world signal =>
    match world.process? process.pid with
    | some process => world.strike process signal
    | none => world) awake

/-- Sends a signal to a process. -/
def deliver (world : World) (process : Process) (signal : Nat) : World :=
  if signal = 0 then world
  else if signal = SystemSignal.proceed then
    let world := if process.isStopped then world.wake process else world
    match world.process? process.pid with
    | some process => world.strike process signal
    | none => world
  else if process.isStopped ∧ signal ≠ SystemSignal.kill then
    world.modify process.pid fun process => { process with delayed := process.delayed ++ [signal] }
  else world.strike process signal

/-- Sends a signal to each of some processes. -/
def deliverAll (world : World) (pids : List Pid) (signal : Nat) : World :=
  pids.foldl (fun world pid =>
    match world.process? pid with
    | some process => world.deliver process signal
    | none => world) world

/-- Sends a signal from a process to another one, to those that came of the watched one, or to all
of those. -/
def send (world : World) (process : Process) (target : Int) (signal : Nat) :
    Option Errno × World :=
  if SystemSignal.last < signal then (some .invalidArgument, world)
  else if target = -1 then
    let others := (world.processes.map (·.pid)).filter (· != process.pid)
    (if others.isEmpty then some .noProcess else none, world.deliverAll others signal)
  else if target = 0 then (none, world.deliverAll (world.processes.map (·.pid)) signal)
  else if target < 0 then (some .noProcess, world)
  else
    match world.process? target.toNat with
    | some other => (none, world.deliver other signal)
    | none =>
      let isThere := target = 1 ∨ target.toNat = world.watched - 1 ∨
        world.ended.any (·.pid = target.toNat)
      (if isThere then none else some .noProcess, world)

end World

end LineShell
