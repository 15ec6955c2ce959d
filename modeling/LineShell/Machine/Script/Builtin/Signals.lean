import LineShell.Machine.Script.Builtin.Options
import LineShell.Machine.Script.Job
/-!
# The command language: signals and jobs

The commands that send signals, prepare for them, and deal with the processes in the background.
-/

namespace LineShell.Script

namespace SignalName

/-- The names by which signals are known to the command language. Signal zero is the end of the shell;
a signal that has no name is known by its number. -/
def all : List String :=
  "EXIT" :: SystemSignal.names.map fun name => if name = "STKFLT" then "16" else name

/-- The signal of a number or a name, from a given one on. -/
def find? (least : Nat) (text : String) : Option Nat :=
  match Decimal.number? text with
  | some n => if n ≤ SystemSignal.last then some n else none
  | none => (all.drop least).idxOf? text.toUpper |>.map (· + least)

/-- The name of a signal. -/
def ofSignal (signal : Nat) : String := (all[signal]?).getD ""

end SignalName

namespace Builtin

/-! ## Sending signals -/

/-- How `kill` is used. -/
def killUsage : String :=
  "Usage: kill [-s sigspec | -signum | -sigspec] [pid | job]... or\nkill -l [exitstatus]"

/-- Looks for the job that a text tells. The first job is the last one that was made. -/
def findJob (text : String) : Eval Job := do
  let jobs := (← get).jobs
  let orFail := fun (job? : Option Job) complaint => match job? with
    | some job => pure job
    | none => Eval.fail complaint
  let missing := "No such job: " ++ text
  match text.toList with
  | ['%'] | ['%', '+'] | ['%', '%'] => orFail jobs.head? "No current job"
  | ['%', '-'] => orFail (jobs.drop 1).head? "No previous job"
  | '%' :: rest =>
    match Decimal.number? (String.ofList rest) with
    | some n => orFail (jobs.find? (·.number = n)) missing
    | none =>
      if rest = ['?'] then
        match jobs with
        | [] => Eval.fail missing
        | [job] => pure job
        | _ => Eval.fail (text ++ ": ambiguous")
      else Eval.fail missing
  | _ => Eval.fail missing

/-- The process or processes that an argument of `kill` means. -/
def killTarget (text : String) : Eval Int := do
  match text.toList with
  | '%' :: _ => do
    let job ← findJob text
    pure (-Int.ofNat ((job.processes.head?.map (·.1)).getD 0))
  | '-' :: rest => do pure (-Int.ofNat (← Eval.number (String.ofList rest)))
  | _ => do pure (Int.ofNat (← Eval.number text))

/-- Sends a signal to each of some targets. -/
def killAll (signal : Nat) : List String → Eval Nat
  | [] => pure 0
  | text :: rest => do
    let failure? ← Eval.act (.send (← killTarget text) signal)
    match failure? with
    | none => killAll signal rest
    | some errno => do
      Eval.warn (errno.text ++ "\n")
      discard (killAll signal rest)
      pure 1

/-- Tells the name of a signal, or of all. -/
def listSignals : List String → Eval Nat
  | [] => do
    Eval.print (String.join (("0" :: SignalName.all.drop 1).map (· ++ "\n")))
    pure 0
  | text :: _ => do
    let n ← Eval.number text
    let signal := if 128 < n then n - 128 else n
    if 0 < signal ∧ signal ≤ SystemSignal.last then
      Eval.print (SignalName.ofSignal signal ++ "\n")
      pure 0
    else Eval.fail ("invalid signal number or exit status: " ++ text)

/-- The options of `kill`: whether signals are to be listed, and which signal is to be sent. -/
def killOptions (options : List GivenOption) : Eval (Bool × Option Nat) :=
  options.foldlM (fun (lists, signal?) (letter, value) => do
    if letter = 'l' then pure (true, signal?)
    else
      match SignalName.find? 1 value with
      | some signal => pure (lists, some signal)
      | none => Eval.fail ("invalid signal number or name: " ++ value)) (false, none)

/-- The command `kill`. -/
def kill (args : List String) : Eval Nat := do
  let direct? := match args with
    | first :: _ =>
      match first.toList with
      | '-' :: name => SignalName.find? 1 (String.ofList name)
      | _ => none
    | [] => none
  let isOption := args.head?.any (·.toList.head? = some '-')
  let (lists, signal?, rest) ←
    match direct? with
    | some signal => pure (false, some signal, args.drop 1)
    | none =>
      if isOption then do
        let (options, rest) ← Eval.options ['l'] ['s'] args
        let (lists, signal?) ← killOptions options
        pure (lists, signal?, rest)
      else pure (false, none, args)
  let signal? := if lists then signal? else some (signal?.getD SystemSignal.terminate)
  match lists, signal?, rest with
  | true, none, rest => listSignals rest
  | false, some signal, target :: targets => killAll signal (target :: targets)
  | true, some _, [] => listSignals []
  | _, _, _ => Eval.fail killUsage

/-! ## Preparing for signals -/

/-- Tells the actions for signals. -/
def listTraps (state : State) : String :=
  String.join ((List.range (SystemSignal.last + 1)).map fun signal =>
    match state.traps.lookup signal with
    | some action =>
      "trap -- " ++ quotedForScript action ++ " " ++ SignalName.ofSignal signal ++ "\n"
    | none => "")

/-- What the process does when a signal reaches it for which there is an action or none. -/
def handlingFor : Option String → Handling
  | none => .standard
  | some "" => .ignored
  | some _ => .noted

/-- Sets the action for a signal, or takes it back. -/
def setTrap (signal : Nat) (action? : Option String) : Eval Unit := do
  let others := (← get).traps.filter (·.1 != signal)
  let traps := (action?.map (signal, ·)).toList ++ others
  modify fun state => { state with traps }
  if signal ≠ 0 ∧ !(← get).deaf.contains signal then
    Eval.act (.handle signal (handlingFor action?))

/-- Sets the action for each of some signals. -/
def setTraps (action? : Option String) : List String → Eval Nat
  | [] => pure 0
  | text :: rest =>
    match SignalName.find? 0 text with
    | none => do
      discard (Eval.act (.say 2 ("trap: " ++ text ++ ": bad trap\n")))
      pure 1
    | some signal => do
      setTrap signal action?
      setTraps action? rest

/-- The command `trap`. -/
def trap (args : List String) : Eval Nat := do
  match ← Eval.noOptions args with
  | [] => do
    Eval.print (listTraps (← get))
    pure 0
  | [signal] => setTraps none [signal]
  | action :: signals =>
    if (Decimal.number? action).any (· ≤ SystemSignal.last) then setTraps none (action :: signals)
    else setTraps (if action = "-" then none else some action) signals

/-! ## Processes in the background -/

/-- Waits for the job that a text tells, by its number or the number of its last process. -/
def waitFor (text : String) : Eval (Option Nat) := do
  let job? ← match text.toList with
    | '%' :: _ => do pure (some (← findJob text))
    | _ => do
      let pid ← Eval.number text
      pure ((← get).jobs.find? (·.lastPid? = some pid))
  match job? with
  | none => pure (some 127)
  | some job =>
    if ← Jobs.await .some (some job.number) then
      modify (·.withJob job.number fun job => { job with wasWaitedFor := true })
      pure (((← get).job? job.number).map Job.status)
    else pure none

/-- Waits for all jobs, as long as no signal interrupts that. -/
def waitForAll : Eval Bool :=
  Eval.loop (fun () => do
    if (← get).jobs.any (·.isRunning) then
      if ← Jobs.await .some none then pure (.inl ()) else pure (.inr false)
    else
      modify fun state =>
        { state with jobs := state.jobs.map fun job => { job with wasWaitedFor := true } }
      pure (.inr true)) ()

/-- The status of waiting that a signal has interrupted. -/
def interruptedStatus : Eval Nat := do
  let noted ← Eval.act .noted
  modify fun state => { state with due := state.due ++ noted }
  pure (128 + ((← get).due.getLast?).getD 0)

/-- The command `wait`. -/
def wait (args : List String) : Eval Nat := do
  match ← Eval.noOptions args with
  | [] => if ← waitForAll then pure 0 else interruptedStatus
  | texts =>
    let status? ← texts.foldlM (fun status? text => do
      match status? with
      | none => pure none
      | some _ => waitFor text) (some 127)
    match status? with
    | some status => pure status
    | none => interruptedStatus

/-- The line of a list that tells of a job. -/
def jobLine (state : State) (showsPid : Bool) (job : Job) : String :=
  let sign :=
    if state.jobs.head?.any (·.number = job.number) then "+"
    else if (state.jobs.drop 1).head?.any (·.number = job.number) then "-"
    else " "
  let pid :=
    if showsPid then decimal ((job.processes.head?.map (·.1)).getD 0) ++ " " else ""
  let front := "[" ++ decimal job.number ++ "] " ++ sign ++ " " ++ pid
  let text :=
    if job.isRunning then "Running"
    else ((job.processes.getLast?.bind (·.2)).map Job.ending).getD ""
  let told := front ++ text
  told ++ String.ofList (List.replicate (max 1 (33 - told.length)) ' ') ++ "\n"

/-- Shows a job in a list, and forgets it if it has ended. -/
def showJob (onlyPid showsPid : Bool) (job : Job) : Eval Unit := do
  if onlyPid then
    Eval.print (decimal ((job.processes.head?.map (·.1)).getD 0) ++ "\n")
  else
    Eval.print (jobLine (← get) showsPid job)
    if !job.isRunning then modify (·.withoutJob job.number)

/-- The command `jobs`. -/
def jobs (args : List String) : Eval Nat := do
  let (options, rest) ← Eval.options ['l', 'p'] [] args
  let onlyPid := (options.getLast?).any (·.1 = 'p')
  let showsPid := (options.getLast?).any (·.1 = 'l')
  discard (Jobs.await .none none)
  match rest with
  | [] => (← get).jobs.forM (showJob onlyPid showsPid)
  | texts => texts.forM fun text => do showJob onlyPid showsPid (← findJob text)
  pure 0

/-- The commands `fg` and `bg`, which only work where jobs are under control. -/
def resume (args : List String) : Eval Nat := do
  let texts ← Eval.noOptions args
  let job ← findJob (texts.headD "%")
  if job.processes.isEmpty then pure 0
  else Eval.fail ("job " ++ texts.headD "(null)" ++ " not created under job control")

end Builtin

end LineShell.Script
