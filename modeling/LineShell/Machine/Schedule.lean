import LineShell.Machine.System
import LineShell.Process.Kernel
/-!
# Processes that run side by side

Processes take turns in the order in which they were made, each for as many steps as a slice has. When
none can go on, a stopped process that is watched is let go on. A world runs until the process that is
watched has ended, and a while longer for those it left behind.
-/

namespace LineShell.World

/-- How many steps a process takes in its turn. -/
def slice : Nat := 1000

/-- How many turns there are. -/
def turns : Nat := 100000000

/-- How many turns those have who are left behind. -/
def lateTurns : Nat := 1000

/-- Lets a process take so many steps, if it can, and tells whether it took any. -/
def runProcess (load : Loader) : Nat → World → Pid → Bool × World
  | 0, world, _ => (true, world)
  | steps + 1, world, pid =>
    match world.process? pid with
    | none => (true, world)
    | some process =>
      if process.isStopped then (steps + 1 < slice, world)
      else
        match world.step load process with
        | none => (steps + 1 < slice, world)
        | some world => runProcess load steps world pid

/-- Lets every process have its turn, and tells whether any could use it. -/
def turn (load : Loader) (world : World) : Bool × World :=
  (world.processes.map (·.pid)).foldl (fun (went, world) pid =>
    match world.process? pid with
    | none => (went, world)
    | some _ =>
      let (goes, world) := world.runProcess load slice pid
      (went || goes, world)) (false, world)

/-- Gives turns until the watched process has ended, and then so many more. -/
def run (load : Loader) (late : Nat) : Nat → World → World
  | 0, world => world
  | turns + 1, world =>
    match world.process? world.watched, late with
    | none, 0 => world
    | watched?, late =>
      let (went, next) := world.turn load
      let late := if watched?.isNone then late - 1 else late
      if went then run load late turns next
      else
        match next.process? next.watched with
        | none => next
        | some process => if process.isStopped then run load late turns (next.wake process) else next

/-- What became of the watched process, if it came to an end, and of what it was to write. -/
def execution (world : World) : Execution :=
  let changes := world.changes.reverse
  let out := world.out.reverse.flatten
  let err := world.err.reverse.flatten
  if h : ∃ c ∈ changes, c.isEnd then { changes, ends := h, out, err }
  else
    { changes := changes ++ [.killed SystemSignal.kill]
      ends := ⟨.killed SystemSignal.kill, by simp, rfl⟩
      out, err }

end LineShell.World
