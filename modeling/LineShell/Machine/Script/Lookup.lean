import LineShell.Machine.Script.Redirection
/-!
# The command language: what names of commands mean

A name means a function, a command of the language's own, or a program in one of the directories in
which programs are looked up. Where a program was found is remembered, until the directories change.
-/

namespace LineShell.Script

/-- What the name of a command means. -/
inductive Meaning where
  | function (body : Command)
  /-- A command of the language's own. -/
  | own
  /-- A program, to be looked for from a place in the list of directories on. -/
  | program (index : Nat)
  | unknown

/-- How a name is looked up. -/
structure Lookup where
  /-- The directories, if they are not the usual ones. -/
  path? : Option String := none
  skipsFunctions : Bool := false
  /-- Whether a program is told of that cannot be found. -/
  tells : Bool := false
  /-- Whether a path has to lead to something. -/
  mustExist : Bool := false

namespace Command

/-- The commands of the language's own. -/
def ownNames : List String :=
  specialNames ++ ["[", "alias", "bg", "cd", "chdir", "command", "echo", "false", "fg", "getopts",
    "hash", "jobs", "kill", "printf", "pwd", "read", "test", "true", "type", "ulimit", "umask",
    "unalias", "wait"]

/-- The directories in which programs are looked up where no others are given. -/
def usualPath : String := "/usr/local/sbin:/usr/local/bin:/usr/sbin:/usr/bin:/sbin:/bin"

/-- The paths that a name can stand for. -/
def candidates (searchPath name : String) : List String :=
  (searchPath.toList.splitOn ':').map fun dir =>
    if dir.isEmpty then name else String.ofList dir ++ "/" ++ name

/-- What is said of a program that cannot be run. -/
def programComplaint (errno : Errno) : String :=
  if errno = .noEntry ∨ errno = .notDirectory then "not found" else errno.text

/-- Looks for a program on paths: the place of the first at which there is one, or the reason why
there is none. -/
def search (errno : Errno) (index : Nat) : List String → Act (Except Errno (Nat × String))
  | [] => pure (.error errno)
  | path :: paths => do
    match ← Act.inspect path true with
    | .ok status =>
      if status.kind = .regular ∧ status.executable then pure (.ok (index, path))
      else search .accessDenied (index + 1) paths
    | .error found =>
      search (if found = .noEntry ∨ found = .notDirectory then errno else found) (index + 1) paths

/-- Looks for a program, and remembers where it is. -/
def lookUpProgram (lookup : Lookup) (name : String) : Eval Meaning := do
  let state ← get
  let searchPath := lookup.path?.getD state.searchPath
  match ← Eval.act (search .noEntry 0 (candidates searchPath name)) with
  | .ok (index, path) => do
    if lookup.path?.isNone then
      let others := state.tracked.filter (·.1 != name)
      let found : Tracked := { path, index }
      set { state with tracked := others ++ [(name, found)] }
    pure (.program index)
  | .error errno => do
    if lookup.path?.isNone then
      set { state with tracked := state.tracked.filter (·.1 != name) }
    if lookup.tells then Eval.warn (name ++ ": " ++ programComplaint errno)
    pure .unknown

/-- Finds out what a name means. -/
def lookUp (lookup : Lookup) (name : String) : Eval Meaning := do
  let state ← get
  if name.toList.contains '/' then
    if !lookup.mustExist then pure (.program 0)
    else
      match ← Eval.act (.inspect name true) with
      | .ok _ => pure (.program 0)
      | .error _ => pure .unknown
  else
    match if lookup.skipsFunctions then none else state.functions.lookup name with
    | some body => pure (.function body)
    | none =>
      if ownNames.contains name then pure .own
      else
        match state.tracked.lookup name, lookup.path? with
        | some it, none =>
          if it.isDoubtful then lookUpProgram lookup name else pure (.program it.index)
        | _, _ => lookUpProgram lookup name

/-- Notes that the directory has changed: programs have to be looked for again. -/
def doubtTracked (state : State) : State :=
  { state with
    tracked := state.tracked.map fun (name, it) => (name, { it with isDoubtful := true }) }

/-! ## Becoming a program -/

/-- The program that runs scripts which do not name one. -/
def scriptRunner : String := "/bin/sh"

/-- Becomes the program at a path, or the one that runs the script there. -/
def tryPath (path : String) (args : List String) (environment : Environment) : Act Errno := do
  let errno ← Act.become path args environment
  if errno = .unknownFormat ∧ path ≠ scriptRunner then
    Act.become scriptRunner (scriptRunner :: path :: args.drop 1) environment
  else pure errno

/-- Tries one path after the other, and tells why no program could be run. -/
def tryPaths (errno : Errno) (args : List String) (environment : Environment) :
    List String → Act Errno
  | [] => pure errno
  | path :: paths => do
    let found ← tryPath path args environment
    tryPaths (if found = .noEntry ∨ found = .notDirectory then errno else found) args environment
      paths

/-- Becomes a program, or complains and ends the shell. -/
def becomeProgram {α : Type} (searchPath : String) (index : Nat) (args : List String) :
    Eval α := do
  let name := args.headD ""
  let environment := (← get).environment
  let errno ←
    if name.toList.contains '/' then Eval.act (tryPath name args environment)
    else Eval.act (tryPaths .noEntry args environment ((candidates searchPath name).drop index))
  let isMissing := [Errno.tooManyLinks, .nameTooLong, .noEntry, .notDirectory].contains errno
  modify fun state => { state with status := if isMissing then 127 else 126 }
  Eval.warn (name ++ ": " ++ programComplaint errno)
  throw .ended

end Command

end LineShell.Script
