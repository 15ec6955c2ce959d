import LineShell.Machine.Script.Redirection
/-!
# The command language: jobs

Processes that were started together are a job. A shell waits for the jobs that are not in the
background, and notes on the way what has become of others. Of a job that it waits for it tells which
signals ended its processes, but not of the signals that are nothing unusual.
-/

namespace LineShell.Script

namespace Job

/-- Whether a process of the job has not ended. -/
def isRunning (job : Job) : Bool := job.processes.any (·.2.isNone)

/-- The status of a process that has ended. -/
def statusOf : Change → Nat
  | .exited code => code
  | .killed signal => 128 + signal
  | _ => 0

/-- The status of the job, which is the one of its last process. -/
def status (job : Job) : Nat := ((job.processes.getLast?.bind (·.2)).map statusOf).getD 0

/-- The number of the last process of the job. -/
def lastPid? (job : Job) : Option Pid := job.processes.getLast?.map (·.1)

/-- The signals that are nothing unusual. -/
def silentSignals : List Nat := [SystemSignal.interrupt, SystemSignal.brokenPipe]

/-- What is said of the end of a process by a signal. -/
def farewell : Change → String
  | .killed signal =>
    if silentSignals.contains signal then ""
    else String.ofList ((SystemSignal.description signal).toList.take 32)
  | _ => ""

/-- What a list of jobs says of the end of a process. -/
def ending : Change → String
  | .exited 0 => "Done"
  | .exited code => "Done(" ++ decimal code ++ ")"
  | .killed signal => String.ofList ((SystemSignal.description signal).toList.take 32)
  | _ => ""

/-- Notes what became of a process. -/
def withEnd (job : Job) (pid : Pid) (change : Change) : Job :=
  { job with
    processes := job.processes.map fun entry =>
      if entry.1 = pid then (pid, some change) else entry }

end Job

namespace State

/-- The job with a number. -/
def job? (state : State) (number : Nat) : Option Job := state.jobs.find? (·.number = number)

/-- Forgets a job. -/
def withoutJob (state : State) (number : Nat) : State :=
  { state with jobs := state.jobs.filter (·.number != number) }

/-- Changes a job. -/
def withJob (state : State) (number : Nat) (change : Job → Job) : State :=
  { state with
    jobs := state.jobs.map fun job => if job.number = number then change job else job }

/-- Makes a job that has no process yet, with the lowest number that is free. The number of a job that
nobody has to wait for any more is free. -/
def withNewJob (state : State) : Nat × State :=
  let isFree := fun number => (state.job? number).all fun job =>
    !job.isRunning && job.wasWaitedFor
  let numbers := (List.range (state.jobs.length + 1)).map (· + 1)
  let number := (numbers.find? isFree).getD (state.jobs.length + 1)
  let others := (state.withoutJob number).jobs
  (number, { state with jobs := { number, processes := [] } :: others })

end State

/-- How a process is started. -/
inductive Start where
  | foreground
  | background
  deriving DecidableEq, Repr

namespace Jobs

/-- Makes a job that has no process yet. -/
def make : Eval Nat := do
  let (number, state) := (← get).withNewJob
  set state
  pure number

/-- Asks for a child that has ended: whether there was one, or nothing if none can come. What ended a
process of the job that is waited for is told. -/
def reap (patience : Patience) (awaited? : Option Nat) : Eval (Option Bool) := do
  match ← Eval.act (Act.wait patience) with
  | .childless | .nothing => pure none
  | .interrupted => pure (some false)
  | .ended pid change => do
    let owner? := (← get).jobs.find? fun job => job.processes.any fun entry =>
      entry.1 = pid && entry.2.isNone
    match owner? with
    | none => pure ()
    | some job => do
      modify (·.withJob job.number (·.withEnd pid change))
      if awaited? = some job.number ∧ Job.farewell change ≠ "" then
        discard (Eval.act (.say 2 (Job.farewell change ++ "\n")))
    pure (some true)

/-- Whether a job is there and has not ended. -/
def isRunning (state : State) (number : Nat) : Bool := (state.job? number).any (·.isRunning)

/-- Asks for children that have ended until none is left of which this is known, but at first waits
for one, or for all processes of a job. It tells whether that was not interrupted. -/
def await (patience : Patience) (awaited? : Option Nat) : Eval Bool := do
  let isOver := fun state : State => awaited?.any fun number => !isRunning state number
  let patience := if isOver (← get) then .none else patience
  Eval.loop (fun (patience, calm) => do
    match ← reap patience awaited? with
    | none => pure (.inr calm)
    | some went => do
      let state ← get
      let goesOn := went && awaited?.isSome && !isOver state
      pure (.inl (if goesOn then patience else .none, calm && went))) (patience, true)

/-- Waits for the processes of a job, and tells its status. -/
def finish (number : Nat) : Eval Nat := do
  discard (await .endless (some number))
  let status := ((← get).job? number).elim 0 Job.status
  modify (·.withoutJob number)
  pure status

/-- What a new process forgets of the one it came from. -/
def forget (state : State) : State :=
  { state with
    isFirst := false, skip? := none, loops := 0, jobs := [], due := [], lastingStatus? := none
    traps := state.traps.filter (·.2 = "") }

/-- Begins a new process. -/
def enter (start : Start) (isFirstOfJob : Bool) : Eval Unit := do
  let state ← get
  for (signal, action) in state.traps do
    if action ≠ "" ∧ signal ≠ 0 ∧ !state.deaf.contains signal then
      Eval.act (.ask (.handle signal .standard))
  set (forget state)
  if start = .background then
    for signal in [SystemSignal.interrupt, SystemSignal.quit] do
      Eval.act (.ask (.handle signal .ignored))
      modify fun state => { state with deaf := signal :: state.deaf }
    if isFirstOfJob then
      Eval.act (.close 0)
      discard (Eval.act (.openFile "/dev/null" { reads := true }))

/-- Goes on as two processes, of which the new one belongs to a job, does something and ends. -/
def fork (start : Start) (job : Nat) (child : Eval Unit) : Eval Pid := do
  let isFirstOfJob := ((← get).job? job).all (·.processes.isEmpty)
  match ← Eval.act .fork with
  | none => do
    enter start isFirstOfJob
    child
    throw .ended
  | some pid => do
    modify (·.withJob job fun job => { job with processes := job.processes ++ [(pid, none)] })
    if start = .background then
      modify fun state => { state with background? := some pid }
    pure pid

end Jobs

end LineShell.Script
