import LineShell.Machine.Script.Builtin.Options
import LineShell.Machine.Script.Lookup
/-!
# The command language: what is told of names

The commands about aliases, remembered programs, and what names mean.
-/

namespace LineShell.Script.Builtin

/-- The shelf in which a name is kept, of so many. Lists go from shelf to shelf. -/
def shelf (count : Nat) (name : String) : Nat :=
  match name.toList with
  | [] => 0
  | first :: rest =>
    ((rest.foldl (fun n c => n + c.toNat) (first.toNat * 17)) % 32768) % count

/-- Things with names in the order of their shelves. -/
def shelved {α : Type} (count : Nat) (things : List (String × α)) : List (String × α) :=
  things.mergeSort fun a b => shelf count a.1 ≤ shelf count b.1

/-! ## Aliases -/

/-- The line that tells of an alias. -/
def aliasLine (name text : String) : String := name ++ "=" ++ quotedForScript text ++ "\n"

/-- The name of an alias and its text, if a word has both. -/
def aliasParts? (word : String) : Option (String × String) :=
  match word.toList with
  | [] => none
  | first :: rest =>
    let name := rest.takeWhile (· != '=')
    match rest.drop name.length with
    | [] => none
    | _ :: text => some (String.ofList (first :: name), String.ofList text)

/-- Sets an alias. -/
def setAlias (state : State) (name text : String) : State :=
  if (state.aliases.lookup name).isSome then
    { state with
      aliases := state.aliases.map fun entry => if entry.1 = name then (name, text) else entry }
  else { state with aliases := state.aliases ++ [(name, text)] }

/-- Complains that there is no alias of a name. -/
def missingAlias (command name : String) : Eval Unit :=
  discard (Eval.act (.say 2 (command ++ ": " ++ name ++ " not found\n")))

/-- The command `alias`. -/
def setAliases (args : List String) : Eval Nat := do
  if args.isEmpty then
    let lines := (shelved 39 (← get).aliases).map fun (name, text) => aliasLine name text
    Eval.print (String.join lines)
    pure 0
  else
    args.foldlM (fun status word => do
      match aliasParts? word with
      | some (name, text) => do
        modify (setAlias · name text)
        pure status
      | none =>
        match (← get).aliases.lookup word with
        | some text => do
          Eval.print (aliasLine word text)
          pure status
        | none => do
          missingAlias "alias" word
          pure 1) 0

/-- The command `unalias`. -/
def unalias (args : List String) : Eval Nat := do
  let (options, names) ← Eval.options ['a'] [] args
  if !options.isEmpty then
    modify fun state => { state with aliases := [] }
    pure 0
  else
    names.foldlM (fun status name => do
      if ((← get).aliases.lookup name).isNone then
        missingAlias "unalias" name
        pure 1
      else
        modify fun state => { state with aliases := state.aliases.filter (·.1 != name) }
        pure status) 0

/-! ## Remembered programs -/

/-- The command `hash`. -/
def hash (args : List String) : Eval Nat := do
  let (options, names) ← Eval.options ['r'] [] args
  if !options.isEmpty then
    modify fun state => { state with tracked := [] }
    pure 0
  else if names.isEmpty then
    let lines := (shelved 31 (← get).tracked).map fun (_, it) =>
      it.path ++ (if it.isDoubtful then "*" else "") ++ "\n"
    Eval.print (String.join lines)
    pure 0
  else
    names.foldlM (fun status name => do
      modify fun state => { state with tracked := state.tracked.filter (·.1 != name) }
      match ← Command.lookUp { tells := true } name with
      | .unknown => pure 1
      | _ => pure status) 0

/-! ## Meanings -/

/-- Tells what a name means, in words or as it would be written. -/
def describe (verbose : Bool) (path? : Option String) (name : String) : Eval Nat := do
  let state ← get
  let say := fun words plain => do
    Eval.print ((if verbose then name ++ words else plain) ++ "\n")
    pure 0
  let tracked? := if path?.isSome then none else state.tracked.lookup name
  if (Keyword.spellings.lookup name).isSome then say " is a shell keyword" name
  else
    match state.aliases.lookup name with
    | some text =>
      if verbose then say (" is an alias for " ++ text) ""
      else do
        Eval.print ("alias " ++ aliasLine name text)
        pure 0
    | none =>
      match tracked? with
      | some it => say (" is a tracked alias for " ++ it.path) it.path
      | none =>
        match ← Command.lookUp { path?, mustExist := true } name with
        | .function _ => say " is a shell function" name
        | .own =>
          let kind := if specialNames.contains name then "special " else ""
          say (" is a " ++ kind ++ "shell builtin") name
        | .program index =>
          let searchPath := path?.getD state.searchPath
          let path := if name.toList.contains '/' then name
            else ((Command.candidates searchPath name)[index]?).getD name
          say (" is " ++ path) path
        | .unknown => do
          if verbose then Eval.print (name ++ ": not found\n")
          pure 127

/-- The command `type`. -/
def tellTypes (args : List String) : Eval Nat :=
  args.foldlM (fun status name => do pure (status ||| (← describe true none name))) 0

/-- The command `command` where it does not carry out another one. -/
def tellCommand (args : List String) : Eval Nat := do
  let (options, names) ← Eval.options ['p', 'v', 'V'] [] args
  let has := fun c => options.any (·.1 = c)
  let path? := if has 'p' then some Command.usualPath else none
  match names with
  | name :: _ =>
    if has 'v' || has 'V' then describe (has 'V') path? name else pure 0
  | [] => pure 0

end LineShell.Script.Builtin
