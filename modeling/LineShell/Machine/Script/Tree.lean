import LineShell.Machine.Script.Job
import LineShell.Machine.Script.Supply
/-!
# The command language: what commands are made of

How texts are carried out as scripts, what is done when signals have arrived, how a shell ends, and how
commands are carried out in processes of their own: all this for a given way to carry out commands.
-/

namespace LineShell.Script

/-- How a command is carried out. -/
structure Flags where
  /-- Whether the shell ends with the command. -/
  exits : Bool := false
  /-- Whether the status is looked at, so that a failure does not end the shell. -/
  isTested : Bool := false
  deriving DecidableEq, Repr

/-- Carries out commands. -/
abbrev Tree := Flags → Command → Eval Nat

namespace Tree

/-! ## Texts as scripts -/

/-- Carries out the commands of a text, up to one that lets others be passed over. -/
def runText (tree : Tree) (flags : Flags) (text : String) : Eval Nat := do
  let line := (← get).lastLine
  let status ← Eval.loop (fun ((supply, status) : Supply × Nat) => do
    match ← supply.next with
    | (none, _) => pure (.inr status)
    | (some none, supply) => pure (.inl (supply, status))
    | (some (some command), supply) => do
      let status ← tree flags command
      if (← get).skip?.isSome then pure (.inr status) else pure (.inl (supply, status)))
    (.ofText text, 0)
  modify fun state => { state with lastLine := line }
  pure status

/-- Goes on behind the end of a function, or of a file that is left in the same way. -/
def afterReturn (state : State) : State :=
  if state.skip?.any Skip.isReturn then { state with skip? := none } else state

/-- Carries out the commands of a file. -/
def runFile (tree : Tree) (supply : Supply) : Eval Nat :=
  Eval.loop (fun ((supply, status) : Supply × Nat) => do
    match ← supply.next with
    | (none, _) => pure (.inr status)
    | (some none, supply) => pure (.inl (supply, status))
    | (some (some command), supply) => do
      let status ← tree {} command
      if (← get).skip?.isSome then
        modify afterReturn
        pure (.inr status)
      else pure (.inl (supply, status))) (supply, 0)

/-! ## Signals -/

/-- Carries out the actions for the signals that have arrived, the lowest first, with the status as it
was before them. -/
def runDue (tree : Tree) (status : Nat) : Eval Unit :=
  Eval.loop (fun () => do
    let state ← get
    match state.due.min?, state.skip? with
    | some signal, none => do
      set { state with due := state.due.filter (· != signal) }
      match state.traps.lookup signal with
      | none => pure ()
      | some action => do
        discard (runText tree {} action)
        if (← get).skip? ≠ some .returns then
          modify fun state => { state with status }
      pure (.inl ())
    | _, _ => pure (.inr ())) ()

/-- Lets other processes go on, and carries out the actions for the signals that have arrived. -/
def runActions (tree : Tree) : Eval Unit := do
  let noted ← Eval.act .noted
  let state ← get
  let due := state.due ++ noted.filter (!state.due.contains ·)
  if !due.isEmpty then
    let status := state.lastingStatus?.getD state.status
    set { state with due, lastingStatus? := some status }
    runDue tree status
    modify fun after => { after with lastingStatus? := state.lastingStatus? }

/-! ## The end of a shell -/

/-- Lets the status that was told to last count, if the shell was told to end. -/
def settle (wasLeft : Bool) : Eval Unit := do
  let state ← get
  let counts := wasLeft || state.skip? = some .returnsLast
  let status := if counts then state.lastingStatus?.getD state.status else state.status
  set { state with
    status, lastingStatus? := none, skip? := none, loops := 0, isTracing := false }
  Redirection.undoTo 0

/-- Ends the process, after the action for that. -/
def leave {α : Type} (tree : Tree) (halt? : Option Halt) : Eval α := do
  if halt?.isSome then settle (halt? = some .left)
  let state ← get
  set { state with lastingStatus? := some state.status }
  let wasLeft ← match state.traps.lookup 0 with
    | none => pure true
    | some action => do
      modify fun state =>
        { state with traps := state.traps.filter (·.1 != 0), skip? := none }
      match ← Eval.attempt (runText tree {} action) with
      | .ok _ => pure true
      | .error halt => pure (halt = .left)
  settle wasLeft
  Eval.flush
  Eval.act (.exit (← get).status)

/-! ## Processes -/

/-- Does something in a process of its own, which ends then. -/
def inChild (tree : Tree) (body : Eval Unit) : Eval Unit := do
  match ← Eval.attempt body with
  | .ok () => leave tree none
  | .error halt => leave tree (some halt)

/-- Starts a process of a job that does something. -/
def start (tree : Tree) (start : Start) (job : Nat) (body : Eval Unit) : Eval Unit :=
  discard (Jobs.fork start job (inChild tree body))

/-- Lets an end of a pipe be a number of its own. -/
def connect (source target : Nat) : Eval Unit := do
  if source ≠ target then
    discard (Eval.act (.duplicate source target))
    Eval.act (.close source)

/-- Reads up to the end. -/
def readAll (descriptor : Nat) : Eval String := do
  let bytes ← Eval.loop (fun (found : List Bytes) => do
    match ← Eval.act (.read descriptor 128 .endless) with
    | .ok (byte :: bytes) => pure (.inl ((byte :: bytes) :: found))
    | _ => pure (.inr found.reverse)) []
  pure (Octets.ofBytes bytes.flatten)

/-- The output of a command that is carried out by a process of its own. -/
def substitute (tree : Tree) : Substitute := fun command => do
  let (source, target) ← Eval.act (.ask .pipe)
  let job ← Jobs.make
  start tree .foreground job do
    Eval.act (.close source)
    connect target 1
    discard (tree { exits := true } command)
  Eval.act (.close target)
  let output ← readAll source
  Eval.act (.close source)
  let status ← Jobs.finish job
  modify fun state => { state with substituted := status }
  pure output

/-! ## Texts that are not in a script -/

/-- Expands a text as one in double quotes. If that does not work, it stays as it is. -/
def expandText (tree : Tree) (text : String) : Eval String := do
  let state ← get
  let reader : Reader :=
    { rest := text.toList, nextDocument := state.nextDocument
      again := state.endIsAhead, token := .endOfFile }
  let worked ← Eval.attempt (do
    match Parse.quotedText.run reader with
    | .ok (word, reader) => do
      modify (Supply.note reader)
      modify fun after => { after with lastLine := state.lastLine }
      expandWhole (substitute tree) { quoted := true } word
    | .error (.wrong line _ complaint) => do
      modify fun state => { state with line, endIsAhead := false }
      Eval.fail complaint
    | .error _ => pure text)
  match worked with
  | .ok expanded => pure expanded
  | .error .fault => pure text
  | .error halt => throw halt

end Tree

end LineShell.Script
