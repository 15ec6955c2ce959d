import LineShell.Machine.Printf
import LineShell.Machine.Script.Builtin.Names
import LineShell.Machine.Script.Builtin.Places
import LineShell.Machine.Script.Builtin.Signals
import LineShell.Machine.Script.Builtin.Test
import LineShell.Machine.Script.Builtin.Variables
import LineShell.Machine.Script.Tree
/-!
# The command language: simple commands

A simple command has words, redirections and values for variables. What its first word means decides
whether the values last, and whether something that is wrong ends the shell.
-/

namespace LineShell.Script

namespace Builtin

/-! ## Commands that carry out others -/

/-- The command `eval`. -/
def evaluate (tree : Tree) (flags : Flags) : List String → Eval Nat
  | [] => pure 0
  | words => tree.runText { isTested := flags.isTested } (" ".intercalate words)

/-- Looks for a file in the directories in which programs are looked up. -/
def findScript (name : String) : List String → Eval String
  | [] => Eval.fail (name ++ ": not found")
  | path :: paths => do
    match ← Eval.act (.inspect path true) with
    | .ok status => if status.kind = .regular then pure path else findScript name paths
    | .error _ => findScript name paths

/-- Opens a file as a script. -/
def openScript (path : String) : Eval Nat := do
  let opened ← Redirection.openFor path false { reads := true }
  match ← Eval.act (Act.setAside opened) with
  | .ok descriptor => do
    Eval.act (.close opened)
    pure descriptor
  | .error _ => pure opened

/-- The command `.`. -/
def runScript (tree : Tree) (args : List String) : Eval Nat := do
  match ← Eval.noOptions args with
  | [] => pure 0
  | name :: _ => do
    let path ←
      if name.toList.contains '/' then pure name
      else findScript name (Command.candidates (← get).searchPath name)
    let descriptor ← openScript path
    let before ← get
    modify fun state => { state with command? := some path, lastLine := 1 }
    let result ← Eval.attempt (tree.runFile (.ofDescriptor descriptor))
    Eval.act (.close descriptor)
    modify fun state => { state with command? := before.command?, lastLine := before.lastLine }
    match result with
    | .ok status => pure status
    | .error halt => throw halt

/-- The command `exec`. -/
def replace : List String → Eval Nat
  | [] => pure 0
  | words => do
    modify (·.withOption 'i' false)
    Command.becomeProgram (← get).searchPath 0 words

/-! ## Commands that leave others out -/

/-- The command `exit`. -/
def exit (args : List String) : Eval Nat := do
  match args with
  | [] => pure ()
  | text :: _ => do
    let status ← Eval.number text
    modify fun state => { state with lastingStatus? := some status }
  throw .left

/-- The command `return`. -/
def leaveFunction : List String → Eval Nat
  | [] => do
    modify fun state => { state with skip? := some .returnsLast }
    pure (← get).status
  | text :: _ => do
    let status ← Eval.number text
    modify fun state => { state with skip? := some .returns }
    pure status

/-- The commands `break` and `continue`. -/
def leaveLoops (skip : Skip) (args : List String) : Eval Nat := do
  let count ← match args with
    | [] => pure 1
    | text :: _ => do
      match ← Eval.number text with
      | 0 => Eval.fail ("Illegal number: " ++ text)
      | n => pure n
  let count := min count (← get).loops
  if 0 < count then
    modify fun state => { state with skip? := some skip, skipCount := count }
  pure 0

/-! ## Commands that print or judge -/

/-- The escapes that `echo` knows. -/
def echoStyle : Escape.Style := { zeroFirst := true }

/-- Tells what was printed, and the status. -/
def deliver (printed : Printed) : Eval Nat := do
  discard (Eval.act (.write 2 printed.err))
  Eval.print (Octets.ofBytes printed.out)
  pure printed.status

/-- The command `echo`. -/
def echo : List String → Eval Nat
  | "-n" :: words => deliver (Utility.echoWords true (some echoStyle) words)
  | words => deliver (Utility.echoWords false (some echoStyle) words)

/-- The command `printf`. -/
def printf (args : List String) : Eval Nat := do
  match ← Eval.noOptions args with
  | [] => Eval.fail "usage: printf format [arg ...]"
  | format :: args => do
    deliver (Printf.run (.ofScript (Eval.complaintStart (← get))) format args)

/-- The command `times`. -/
def tellTimes : Eval Nat := do
  Eval.print "0m0.000000s 0m0.000000s\n0m0.000000s 0m0.000000s\n"
  pure 0

/-- The commands `test` and `[`. -/
def test (name : String) (args : List String) : Eval Nat := do
  let judge := fun words => do pure (if ← Condition.judge words then 0 else 1)
  if name = "[" then
    if args.getLast? = some "]" then judge args.dropLast else Eval.fail "missing ]"
  else judge args

/-! ## All of them -/

/-- Carries out a command of the language's own. -/
def run (tree : Tree) (flags : Flags) (name : String) (args : List String) : Eval Nat :=
  match name with
  | "." => runScript tree args
  | ":" | "true" => pure 0
  | "[" | "test" => test name args
  | "alias" => setAliases args
  | "bg" | "fg" => resume args
  | "break" => leaveLoops .breaks args
  | "cd" | "chdir" => changeDir args
  | "command" => tellCommand args
  | "continue" => leaveLoops .continues args
  | "echo" => echo args
  | "eval" => evaluate tree flags args
  | "exec" => replace args
  | "exit" => exit args
  | "export" => exportVariables args
  | "false" => pure 1
  | "getopts" => getopts args
  | "hash" => hash args
  | "jobs" => jobs args
  | "kill" => kill args
  | "local" => localizeVariables args
  | "printf" => printf args
  | "pwd" => tellDir args
  | "read" => readWords args
  | "readonly" => keepVariables args
  | "return" => leaveFunction args
  | "set" => setAll args
  | "shift" => shiftArguments args
  | "times" => tellTimes
  | "trap" => trap args
  | "type" => tellTypes args
  | "ulimit" => ulimit args
  | "umask" => umask args
  | "unalias" => unalias args
  | "unset" => unsetAll args
  | "wait" => wait args
  | _ => pure 127

end Builtin

namespace Simple

/-! ## Words -/

/-- Expands words until one of them stands for something. -/
def expandNext (substitute : Substitute) : List Word → Eval (List String × List Word)
  | [] => pure ([], [])
  | word :: words => do
    match ← expandWord substitute word with
    | [] => expandNext substitute words
    | texts => pure (texts, words)

/-- What the words of a command are, as far as they have been expanded. -/
structure Progress where
  texts : List String
  pending : List Word
  /-- How many of them only tell how the others are carried out. -/
  passed : Nat := 0
  skipsFunctions : Bool := false
  usesUsualPath : Bool := false
  /-- Whether the first of them is a command that counts as special, if it is one of the language's
  own. -/
  isSpecial? : Option Bool := none
  deriving Inhabited

namespace Progress

/-- Expands more words if so many are not yet there, and tells whether they are there then. -/
def reaching (substitute : Substitute) (place : Nat) (progress : Progress) :
    Eval (Bool × Progress) := do
  if place < progress.texts.length then pure (true, progress)
  else
    let (texts, pending) ← expandNext substitute progress.pending
    pure (!texts.isEmpty, { progress with texts := progress.texts ++ texts, pending })

/-- The word that is looked at. -/
def head (progress : Progress) : String := (progress.texts.drop progress.passed).headD ""

/-- Passes over the options of `command`, and tells whether it is to carry out another command. -/
def behindOptions (substitute : Substitute) (progress : Progress) : Eval (Bool × Progress) := do
  let before := progress
  let (carriesOut, progress) ← Eval.loop (fun (progress : Progress) => do
    let passed := progress.passed + 1
    match ← progress.reaching substitute passed with
    | (false, progress) => pure (.inr (false, progress))
    | (true, progress) =>
      let next := { progress with passed }
      match next.head.toList with
      | ['-', '-'] => do
        let (isThere, next) ← next.reaching substitute (passed + 1)
        pure (.inr (isThere, { next with passed := passed + 1 }))
      | '-' :: c :: letters =>
        if (c :: letters).all (· = 'p') then pure (.inl { next with usesUsualPath := true })
        else pure (.inr (false, next))
      | _ => pure (.inr (true, next))) progress
  if carriesOut then pure (true, { progress with skipsFunctions := true })
  else
    pure (false, { progress with
      passed := before.passed, usesUsualPath := before.usesUsualPath
      skipsFunctions := false })

/-- The name of the command, if it is one of the language's own. -/
def ownName? (progress : Progress) (state : State) : Option String :=
  let isFunction :=
    !progress.skipsFunctions && (state.functions.lookup progress.head).isSome
  if !isFunction && Command.ownNames.contains progress.head then some progress.head else none

/-- Finds out which word is the name of the command. -/
def begin (substitute : Substitute) (words : List Word) : Eval Progress := do
  let (texts, pending) ← expandNext substitute words
  if texts.isEmpty then pure { texts, pending }
  else
    Eval.loop (fun (progress : Progress) => do
      match progress.ownName? (← get) with
      | none => pure (.inr progress)
      | some name => do
        let isSpecial? := progress.isSpecial?.or (some (specialNames.contains name))
        let progress := { progress with isSpecial? }
        if name ≠ "command" then pure (.inr progress)
        else
          let (carriesOut, progress) ← progress.behindOptions substitute
          pure (if carriesOut then .inl progress else .inr progress)) { texts, pending }

end Progress

/-- The commands whose arguments can give variables values. -/
def assigningNames : List String := ["alias", "export", "local", "readonly"]

/-- Expands the words that are left. -/
def expandRest (substitute : Substitute) (assigns : Bool) (words : List Word) :
    Eval (List String) := do
  let texts ← words.mapM fun word => do
    if assigns && word.assigned?.isSome then
      pure [← expandWhole substitute { isAssignment := true } word]
    else expandWord substitute word
  pure texts.flatten

/-! ## Values -/

/-- Gives variables values that last for the command, or for good. -/
def assignAll (substitute : Substitute) (isLocal isExported : Bool) (words : List Word) :
    Eval (List String) :=
  words.mapM fun word => do
    let text ← expandWhole substitute { isAssignment := true } word
    let (name, value?) := Builtin.splitAssignment text
    if isLocal then Eval.change (·.localize name value? true)
    else Eval.change (·.set name value? { isExported })
    pure text

/-- Shows a command. -/
def showTrace (tree : Tree) (texts : List String) : Eval Unit := do
  let state ← get
  if state.has 'x' && !state.isTracing then
    set { state with isTracing := true }
    let front ← tree.expandText (state.value "PS4")
    modify fun state => { state with isTracing := false }
    discard (Eval.act (.say state.traceTo (front ++ " ".intercalate texts ++ "\n")))

/-! ## Carrying out -/

/-- Carries out a command of the language's own, and tells the status. What is wrong in one that is
not special does not end the shell. -/
def runOwn (isSpecial : Bool) (name : String) (body : Eval Nat) : Eval Nat := do
  let before := (← get).command?
  modify fun state => { state with command? := some name }
  let result ← Eval.attempt (do
    let status ← body
    Eval.flush
    let isBroken := (← get).isBroken
    if isBroken then Eval.warn (name ++ ": I/O error")
    modify fun state => { state with status := if isBroken then status ||| 1 else status })
  modify fun state => { state with command? := before, printed := [], isBroken := false }
  match result with
  | .ok () => pure (← get).status
  | .error halt =>
    if halt = .fault ∧ !isSpecial then pure (← get).status else throw halt

/-- How deep functions can be nested. -/
def functionLimit : Nat := 1000

/-- Calls a function. -/
def call (tree : Tree) (flags : Flags) (body : Command) (args : List String) : Eval Nat := do
  let before ← get
  if functionLimit ≤ before.functionDepth then
    Eval.fail ("Maximum function recursion depth (" ++ decimal functionLimit ++ ") reached")
  else
    set { before with
      arguments := args, optionIndex := 1, optionOffset? := none, loops := 0
      functionDepth := before.functionDepth + 1 }
    let result ← Eval.attempt (tree { isTested := flags.isTested } body)
    modify fun state =>
      Tree.afterReturn { state with
        arguments := before.arguments, optionIndex := before.optionIndex
        optionOffset? := before.optionOffset?, loops := before.loops
        functionDepth := before.functionDepth }
    match result with
    | .ok _ => pure (← get).status
    | .error halt => throw halt

/-- Whether an action is set for a signal. -/
def hasActions (state : State) : Bool := state.traps.any (·.2 ≠ "")

/-- Runs a program, in a process of its own unless the shell ends with it. -/
def runProgram (tree : Tree) (flags : Flags) (searchPath : String) (index : Nat)
    (args : List String) : Eval Nat := do
  if flags.exits && !hasActions (← get) then Command.becomeProgram searchPath index args
  else
    let job ← Jobs.make
    tree.start .foreground job (Command.becomeProgram searchPath index args)
    Jobs.finish job

/-- Carries out a command by the meaning of its name. -/
def carryOut (tree : Tree) (flags : Flags) (progress : Progress) (args : List String) :
    Eval Nat := do
  let name := args.headD ""
  let isSpecial := progress.isSpecial?.getD false
  if args.isEmpty then
    modify fun state => { state with status := state.substituted }
    pure (← get).status
  else
    match progress.ownName? (← get) with
    | some name => runOwn isSpecial name (Builtin.run tree flags name (args.drop 1))
    | none => do
      let path? := if progress.usesUsualPath then some Command.usualPath else none
      let lookup : Lookup := { path?, skipsFunctions := progress.skipsFunctions, tells := true }
      match ← Command.lookUp lookup name with
      | .unknown => do
        modify fun state => { state with status := 127 }
        if isSpecial then throw .fault else pure 127
      | .own => runOwn isSpecial name (Builtin.run tree flags name (args.drop 1))
      | .function body => call tree flags body (args.drop 1)
      | .program index =>
        runProgram tree flags (path?.getD (← get).searchPath) index args

/-- Carries out a simple command whose redirections have been followed. -/
def behindRedirections (tree : Tree) (flags : Flags) (progress : Progress)
    (isLocal isExported : Bool) (assignments : List Word) (texts args : List String) :
    Eval Nat := do
  let assigned ← assignAll tree.substitute isLocal isExported assignments
  showTrace tree (assigned ++ texts)
  let status ← carryOut tree flags progress args
  if (← get).jobs.any (·.isRunning) then discard (Jobs.await .none none)
  pure status

/-- Carries out a simple command. -/
def run (tree : Tree) (flags : Flags) (line : Nat) (assignments words : List Word)
    (redirections : List Redirection) : Eval Nat := do
  modify fun state => { state with line, substituted := 0 }
  let progress ← Progress.begin tree.substitute words
  let own? := progress.ownName? (← get)
  let rest ← expandRest tree.substitute (own?.any assigningNames.contains) progress.pending
  let texts := progress.texts ++ rest
  let args := texts.drop progress.passed
  let isSpecial := progress.isSpecial?.getD false
  let isLocal := !texts.isEmpty && !isSpecial
  let replaces := own? = some "exec"
  let before ← get
  if isLocal then set { before with locals := [] :: before.locals }
  modify fun state => { state with traceTo := 2 }
  let aims ← redirections.mapM (Redirection.aim tree.substitute)
  let status ←
    if ← Redirection.begin aims true then
      behindRedirections tree flags progress isLocal (replaces && 1 < args.length) assignments
        texts args
    else do
      modify fun state => { state with status := 2 }
      if isSpecial then throw .fault else pure 2
  Redirection.undo replaces
  Redirection.undoTo before.moved.length
  modify fun state => state.unwindLocals before.locals.length
  match before.has 'i' && before.functionDepth = 0, args.getLast? with
  | true, some last => Eval.setVariable "_" last
  | _, _ => pure ()
  pure status

end Simple

end LineShell.Script
