import LineShell.Machine.Script.Evaluation
/-!
# The command language: the program that runs scripts

A shell is given a script as an argument or in a file, or reads it from its input. If it is told to be
interactive it goes on behind what is wrong, though it has nobody to talk to.
-/

namespace LineShell.Script.Shell

/-! ## The start -/

/-- The variables that every shell finds set. -/
def presets : List (String × String) :=
  [("PATH", Command.usualPath), ("IFS", " \t\n"), ("OPTIND", "1"), ("PS1", "# "), ("PS2", "> "),
    ("PS4", "+ ")]

/-- The variables that are set whatever was handed on. -/
def firmNames : List String := ["IFS", "OPTIND"]

/-- Gives a variable a value without asking whether it may have it. -/
def preset (marks : State.Marks) (state : State) (entry : String × String) : State :=
  match state.set entry.1 (some entry.2) marks with
  | .ok state => state
  | .error _ => state

/-- What a shell keeps in mind at first. -/
def initial (image : Image) : State :=
  let start : State :=
    { pid := image.pid, name := image.args.headD "", deaf := image.ignored }
  let fixed := presets.foldl (preset { isFixed := true }) start
  let given := image.environment.filter fun entry => isName entry.1.toList
  let state := given.foldl (preset { isExported := true }) fixed
  let firm := presets.filter fun entry => firmNames.contains entry.1
  preset {} (firm.foldl (preset {}) state) ("PPID", decimal image.parent)

/-- The path by which the directory was reached, if it is told. -/
def reachedPath? : Eval (Option String) := do
  match (← get).value? "PWD" with
  | none => pure none
  | some path =>
    if path.toList.head? ≠ some '/' then pure none
    else
      let there ← Eval.act (.inspect path true)
      let here ← Eval.act (.inspect "." true)
      match there, here with
      | .ok there, .ok here => pure (if there.place = here.place then some path else none)
      | _, _ => pure none

/-- What a shell is to run. -/
structure Task where
  text? : Option String := none
  supply? : Option Supply := none

/-- Takes what a shell is to run off its arguments. -/
def prepare (args : List String) : Eval Task := do
  let (args, special, _) ← Builtin.setOptions true (args.length + 1) args []
  let isText := special.contains 'c'
  if args.isEmpty then
    if isText then Eval.fail "-c requires an argument"
    else modify (·.withOption 's' true)
  if (← get).has 'i' then modify (·.withOption 'm' true)
  let readsInput := (← get).has 's'
  let input? := if readsInput then some (Supply.ofDescriptor 0) else none
  let name := fun (words : List String) (state : State) =>
    { state with name := words.headD state.name, arguments := words.drop 1 }
  match isText, readsInput, args with
  | true, _, text :: rest => do
    modify (name rest)
    pure { text? := some text, supply? := input? }
  | false, false, path :: rest => do
    let descriptor ← Builtin.openScript path
    modify (name (path :: rest))
    pure { supply? := some (.ofDescriptor descriptor) }
  | _, _, args => do
    modify fun state => { state with arguments := args }
    pure { supply? := input? }

/-! ## Reading on -/

/-- How often an end of the input is passed over by a shell that ignores it. -/
def endLimit : Nat := 50

/-- Shows that a command can be given, if anybody may be there to give it. -/
def showPrompt : Eval Unit := do
  let state ← get
  if state.has 'i' then
    discard (Eval.act (.say 2 (← tree.expandText (state.value "PS1"))))

/-- Carries out the commands of the input, or of the file that is the script. -/
def runInput (supply : Supply) : Eval Unit :=
  Eval.loop (fun ((supply, ends) : Supply × Nat) => do
    showPrompt
    match ← supply.next with
    | (none, supply) => do
      let state ← get
      if ends < endLimit && state.has 'I' then
        discard (Eval.act (.say 2 "\nUse \"exit\" to leave shell.\n"))
        pure (.inl (supply, ends + 1))
      else
        if ends < endLimit && state.has 'i' then discard (Eval.act (.say 2 "\n"))
        pure (.inr ())
    | (some none, supply) => pure (.inl (supply, 0))
    | (some (some command), supply) => do
      discard (tree {} command)
      if (← get).skip?.isSome then
        modify Tree.afterReturn
        pure (.inr ())
      else pure (.inl (supply, 0))) (supply, 0)

/-- Forgets what was going on when something was wrong. -/
def recover (state : State) : State :=
  { state.unwindLocals 0 with
    lastingStatus? := none, skip? := none, loops := 0, isTracing := false }

/-- Does something, and goes on with the input behind what is wrong, if the shell is interactive. -/
def persisting (body : Eval Unit) (supply : Supply) : Eval Unit :=
  Eval.loop (fun (body : Eval Unit) => do
    match ← Eval.attempt body with
    | .ok () => pure (.inr ())
    | .error halt => do
      let state ← get
      if halt = .fault && state.has 'i' && state.isFirst then
        Redirection.undoTo 0
        modify recover
        let fresh : Supply :=
          { supply with reader := { supply.reader with line := state.lastLine } }
        pure (.inl (runInput fresh))
      else throw halt) body

/-- Runs what there is to run. -/
def perform (task : Task) : Eval Unit := do
  let body : Eval Unit := do
    match task.text? with
    | some text => discard (tree.runText {} text)
    | none => pure ()
    match task.supply? with
    | some supply => runInput supply
    | none => pure ()
  persisting body (task.supply?.getD (.ofDescriptor 0))

/-- The program that runs scripts. -/
def run (image : Image) : Program :=
  let life : Eval Unit := do
    let result ← Eval.attempt (do
      Builtin.rememberDir (← reachedPath?) false
      let task ← prepare (image.args.drop 1)
      Builtin.dropControl
      perform task)
    match result with
    | .ok () => tree.leave none
    | .error halt => tree.leave (some halt)
  let act : Act (Except Halt Unit × State) := life.run.run (initial image)
  act fun _ => .ended 0

end LineShell.Script.Shell
