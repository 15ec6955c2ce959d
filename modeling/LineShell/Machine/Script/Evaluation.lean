import LineShell.Machine.Script.Simple
/-!
# The command language: its meaning

Commands are carried out one after another, some in processes of their own. How a command is carried
out is told for given ways to carry out its parts; `tree` ties the knot, up to a depth.
-/

namespace LineShell.Script

namespace Tree

/-! ## Processes -/

/-- Looks up the program of a command in advance, if the name is plain. -/
def lookAhead : Command → Eval Unit
  | .simple _ _ (word :: _) _ => do
    match Word.bare? word with
    | some name => if isName name then discard (Command.lookUp {} (String.ofList name))
    | none => pure ()
  | _ => pure ()

/-- Starts the commands of a pipeline. The first reads from an open file, if one is given. -/
def startAll (tree : Tree) (flags : Flags) (start : Start) (job : Nat) :
    Option Nat → List Command → Eval Unit
  | _, [] => pure ()
  | input?, command :: rest => do
    lookAhead command
    let pipe? ← if rest.isEmpty then pure none else some <$> Eval.act (.ask .pipe)
    tree.start start job do
      match pipe? with
      | some (source, _) => Eval.act (.close source)
      | none => pure ()
      match input? with
      | some input => connect input 0
      | none => pure ()
      match pipe? with
      | some (_, target) => connect target 1
      | none => pure ()
      discard (tree { flags with exits := true } command)
    match input? with
    | some input => Eval.act (.close input)
    | none => pure ()
    match pipe? with
    | some (_, target) => Eval.act (.close target)
    | none => pure ()
    startAll tree flags start job (pipe?.map (·.1)) rest

/-- Carries out a pipeline. -/
def pipeline (tree : Tree) (flags : Flags) (isBackground : Bool) (commands : List Command) :
    Eval Nat := do
  let job ← Jobs.make
  if isBackground then
    startAll tree flags .background job none commands
    pure 0
  else
    startAll tree flags .foreground job none commands
    Jobs.finish job

/-- Carries out a command in a process of its own. -/
def apart (tree : Tree) (flags : Flags) (isBackground : Bool) (line : Nat) (body : Command)
    (redirections : List Redirection) : Eval Nat := do
  modify fun state => { state with line }
  let aims ← redirections.mapM (Redirection.aim tree.substitute)
  let inside := fun (flags : Flags) => do
    Redirection.followAll aims
    discard (tree { flags with exits := true } body)
  if !isBackground && flags.exits && !Simple.hasActions (← get) then
    inside flags
    throw .ended
  else
    let job ← Jobs.make
    if isBackground then
      tree.start .background job (inside {})
      pure 0
    else
      tree.start .foreground job (inside flags)
      Jobs.finish job

/-! ## Repetition -/

/-- Looks whether commands are passed over, and takes a loop off those that are left. -/
def passLoop : Eval (Option Skip) := do
  let state ← get
  match state.skip? with
  | none => pure none
  | some skip =>
    if skip.isReturn then pure (some skip)
    else if state.skipCount ≤ 1 then
      set { state with skip? := none, skipCount := 0 }
      pure (some skip)
    else
      set { state with skipCount := state.skipCount - 1 }
      pure (some .breaks)

/-- Whether a loop goes on. -/
def goesOn (skip? : Option Skip) : Bool := skip?.all (· = .continues)

/-- Does something inside a loop. -/
def inLoop (body : Eval Nat) : Eval Nat := do
  modify fun state => { state with loops := state.loops + 1 }
  let status ← body
  modify fun state => { state with loops := state.loops - 1 }
  pure status

/-- Repeats a body while, or until, a test succeeds. -/
def loop (tree : Tree) (flags : Flags) (isUntil : Bool) (test body : Command) : Eval Nat :=
  inLoop (Eval.loop (fun (status : Nat) => do
    let tested ← tree { isTested := true } test
    match ← passLoop with
    | some skip =>
      let status := if skip = .returns then tested else status
      pure (if goesOn (some skip) then .inl status else .inr status)
    | none =>
      if (tested = 0) = isUntil then pure (.inr status)
      else
        let status ← tree { isTested := flags.isTested } body
        let skip? ← passLoop
        pure (if goesOn skip? then .inl status else .inr status)) 0)

/-- Carries out a body for each of some texts, as the value of a variable. -/
def forEach (tree : Tree) (flags : Flags) (name : String) (body : Command) (status : Nat) :
    List String → Eval Nat
  | [] => pure status
  | text :: rest => do
    Eval.setVariable name text
    let status ← tree { isTested := flags.isTested } body
    if goesOn (← passLoop) then forEach tree flags name body status rest else pure status

/-! ## Choice -/

/-- Whether one of some patterns fits a text. -/
def anyFits (substitute : Substitute) (text : String) : List Word → Eval Bool
  | [] => pure false
  | word :: words => do
    let pieces ← expandPattern substitute word
    if Pattern.fits pieces text.toList then pure true else anyFits substitute text words

/-- Carries out the first of some branches of which a pattern fits a text. -/
def firstFitting (tree : Tree) (flags : Flags) (text : String) : List Branch → Eval Nat
  | [] => pure 0
  | .mk patterns body? :: rest => do
    if (← get).skip?.isSome then pure 0
    else if ← anyFits tree.substitute text patterns then
      match body?, (← get).skip? with
      | some body, none => tree flags body
      | _, _ => pure 0
    else firstFitting tree flags text rest

/-! ## Commands -/

/-- Whether a failure of a command can end the shell. Those that are made of others do not count. -/
def counts : Command → Bool
  | .simple _ _ _ _ | .pipeline _ _ | .background _ _ _ | .subshell _ _ _ => true
  | _ => false

/-- Defines a function. -/
def define (name : String) (body : Command) (state : State) : State :=
  { state with
    functions := (name, body) :: state.functions.filter (·.1 != name)
    tracked := state.tracked.filter (·.1 != name) }

/-- Carries out a command with other meanings for numbers. -/
def redirected (tree : Tree) (flags : Flags) (line : Nat) (body : Command)
    (redirections : List Redirection) : Eval Nat := do
  modify fun state => { state with line }
  let aims ← redirections.mapM (Redirection.aim tree.substitute)
  let status ←
    if ← Redirection.begin aims false then tree { isTested := flags.isTested } body
    else pure 2
  Redirection.undo false
  pure status

/-- Carries out a command, and tells the status it comes to. -/
def carryOut (tree : Tree) (flags : Flags) : Command → Eval Nat
  | .simple line assignments words redirections =>
    Simple.run tree flags line assignments words redirections
  | .pipeline isBackground commands => tree.pipeline flags isBackground commands
  | .redirected line body redirections => tree.redirected flags line body redirections
  | .background line body redirections => tree.apart flags true line body redirections
  | .subshell line body redirections => tree.apart flags false line body redirections
  | .both first second => do
    let status ← tree { isTested := true } first
    if status ≠ 0 ∨ (← get).skip?.isSome then pure (← get).status else tree flags second
  | .either first second => do
    let status ← tree { isTested := true } first
    if status = 0 ∨ (← get).skip?.isSome then pure (← get).status else tree flags second
  | .sequence first second => do
    discard (tree { isTested := flags.isTested } first)
    if (← get).skip?.isSome then pure (← get).status else tree flags second
  | .negated body => do
    let status ← tree { isTested := true } body
    pure (if status = 0 then 1 else 0)
  | .choice test yes no? => do
    let status ← tree { isTested := true } test
    if (← get).skip?.isSome then pure (← get).status
    else if status = 0 then tree flags yes
    else
      match no? with
      | some no => tree flags no
      | none => pure 0
  | .loop isUntil test body => tree.loop flags isUntil test body
  | .each line name words body => do
    modify fun state => { state with line }
    let texts ← words.mapM (expandWord tree.substitute)
    inLoop (tree.forEach flags name body 0 texts.flatten)
  | .cases line subject branches => do
    modify fun state => { state with line }
    let text ← expandWhole tree.substitute { tilde := true } subject
    tree.firstFitting flags text branches
  | .definition _ name body => do
    modify (define name body)
    pure 0

/-- Carries out a command, given how commands are carried out. Signals are looked for before and
behind it. A failure can end the shell, and so can the command itself. -/
def step (tree : Tree) : Tree := fun flags command => do
  let isOff := (← get).has 'n'
  if !isOff then
    tree.runActions
    let status ← tree.carryOut flags command
    modify fun state => { state with status }
    tree.runActions
    if counts command && !flags.isTested && status ≠ 0 && (← get).has 'e' then throw .ended
  if flags.exits then throw .ended else pure (← get).status

/-- How deep commands can be nested. -/
def depthLimit : Nat := 1000000000

/-- Carries out a command that is nested no deeper than a limit. -/
def within : Nat → Tree
  | 0, _, _ => throw .ended
  | limit + 1, flags, command => step (within limit) flags command

end Tree

/-- Carries out a command. -/
def tree : Tree := Tree.within Tree.depthLimit

end LineShell.Script
