import LineShell.Machine.Script.Builtin.Options
import LineShell.Machine.Script.Lookup
/-!
# The command language: directories and limits

A shell remembers the path by which it reached its directory, and goes from there by names alone,
unless it is told to follow links. The other commands here are about what new files must not be
allowed, and about limits of processes.
-/

namespace LineShell.Script.Builtin

/-! ## Directories -/

/-- Goes back by one name, but not beyond the front of a path. -/
def goBack (least : Nat) (path : List Char) : List Char :=
  if path.length ≤ least then path
  else
    let shorter := path.dropLast
    let kept := (shorter.reverse.dropWhile (· != '/')).reverse
    if kept.length < least then path.take least else kept

/-- The path that a target leads to from a path, told by its names alone. Two slashes at the front
are kept. -/
def pathTo (here target : String) : String :=
  let names := (target.toList.splitOn '/').filter (!·.isEmpty)
  let (start, least) :=
    match target.toList with
    | '/' :: '/' :: '/' :: _ => (['/'], 1)
    | '/' :: '/' :: _ => (['/', '/'], 2)
    | '/' :: _ => (['/'], 1)
    | _ =>
      let here := here.toList
      let here := if here.getLast? = some '/' then here else here ++ ['/']
      (here, if (here.drop 1).head? = some '/' then 2 else 1)
  let reached := names.foldl (fun path name =>
    if name = ['.'] then path
    else if name = ['.', '.'] then goBack least path
    else path ++ name ++ ['/']) start
  String.ofList (if least < reached.length then reached.dropLast else reached)

/-- Remembers the path by which the directory was reached. -/
def rememberDir (path? : Option String) (notesOld : Bool) : Eval Unit := do
  let old := (← get).dir
  if notesOld then Eval.change (·.set "OLDPWD" (some old) { isExported := true })
  let dir ← match path? with
    | some path => pure path
    | none => Eval.act .tellDir
  modify fun state => { state with dir }
  Eval.change (·.set "PWD" (some dir) { isExported := true })

/-- Goes to a directory, and tells whether that worked. -/
def goTo (follows : Bool) (target : String) : Eval Bool := do
  let state ← get
  let path? := if follows then none else some (pathTo state.dir target)
  match ← Eval.act (.changeDir (path?.getD target)) with
  | some _ => pure false
  | none => do
    rememberDir path? true
    modify Command.doubtTracked
    pure true

/-- Whether the options of a command ask for the directory as it really is: the last one counts. -/
def followsLinks (options : List GivenOption) : Bool := options.getLast?.any (·.1 = 'P')

/-- Whether a path begins with the directory itself or the one above it. -/
def beginsWithDots (path : String) : Bool :=
  match path.toList.takeWhile (· != '/') with
  | ['.'] | ['.', '.'] => true
  | _ => false

/-- Looks for a directory in those where targets are looked for. -/
def searchTarget (target : String) : List (List Char) → Eval (Option (String × Bool))
  | [] => pure none
  | dir :: dirs => do
    let path := if dir.isEmpty then target else String.ofList dir ++ "/" ++ target
    match ← Eval.act (.inspect path true) with
    | .ok status =>
      if status.kind = .directory then pure (some (path, !dir.isEmpty))
      else searchTarget target dirs
    | .error _ => searchTarget target dirs

/-- The command `cd`. -/
def changeDir (args : List String) : Eval Nat := do
  let (options, targets) ← Eval.options ['L', 'P'] [] args
  let state ← get
  let (target, tells) := match targets with
    | [] => (state.value "HOME", false)
    | "-" :: _ => (state.value "OLDPWD", true)
    | target :: _ => (target, false)
  let isDirect := target.toList.head? == some '/' || beginsWithDots target
  let target := if target = "" then "." else target
  let found? ← match isDirect, state.value? "CDPATH" with
    | false, some dirs => searchTarget target (dirs.toList.splitOn ':')
    | _, _ => pure none
  let (path, wasFound) := found?.getD (target, false)
  if ← goTo (followsLinks options) path then
    if tells || wasFound then Eval.print ((← get).dir ++ "\n")
    pure 0
  else Eval.fail ("can\x27t cd to " ++ target)

/-- The command `pwd`. -/
def tellDir (args : List String) : Eval Nat := do
  let (options, _) ← Eval.options ['L', 'P'] [] args
  if followsLinks options then Eval.print ((← Eval.act .tellDir) ++ "\n")
  else Eval.print ((← get).dir ++ "\n")
  pure 0

/-! ## What new files must not be allowed -/

/-- The digits of a number in base eight, at least so many. -/
def octal (least n : Nat) : String :=
  let digits := Nat.toDigits 8 n
  String.ofList (List.replicate (least - digits.length) '0' ++ digits)

/-- What is allowed to one kind of users, in letters. -/
def permissions (bits : Nat) : String :=
  String.ofList ((if bits / 4 % 2 = 1 then ['r'] else []) ++ (if bits / 2 % 2 = 1 then ['w'] else [])
    ++ (if bits % 2 = 1 then ['x'] else []))

/-- How many permissions there are for each kind of users, times itself for each kind. -/
def userWeights : List (Char × Nat) := [('u', 64), ('g', 8), ('o', 1)]

/-- The permissions that letters name, given those that are there. -/
def permissionBits (mode : Nat) (letters : List Char) : Nat :=
  letters.foldl (fun bits c =>
    bits ||| (match c with
      | 'r' => 4
      | 'w' => 2
      | 'x' => 1
      | 'X' => if mode / 64 % 2 = 1 ∨ mode / 8 % 2 = 1 ∨ mode % 2 = 1 then 1 else 0
      | 'u' => mode / 64 % 8
      | 'g' => mode / 8 % 8
      | 'o' => mode % 8
      | _ => 0)) 0

/-- Carries out one change of permissions for some kinds of users. -/
def changeMode (mode : Nat) (users : List Char) (sign : Char) (letters : List Char) : Nat :=
  let bits := permissionBits mode letters
  userWeights.foldl (fun mode (user, weight) =>
    if users.contains user then
      let own := mode / weight % 8
      let new := if sign = '+' then own ||| bits
        else if sign = '-' then own - (own &&& bits) else bits
      mode - own * weight + new * weight
    else mode) mode

/-- Carries out the changes of permissions that a text names. -/
def changedMode? : Nat → List Char → Nat → List Char → Option Nat
  | 0, _, _, _ => none
  | _, _, mode, [] => some mode
  | fuel + 1, users, mode, sign :: rest =>
    if ['+', '-', '='].contains sign then
      let letters := rest.takeWhile (['r', 'w', 'x', 'X', 's', 't', 'u', 'g', 'o'].contains ·)
      let mode := changeMode mode users sign letters
      match rest.drop letters.length with
      | ',' :: next => clause fuel mode next
      | rest => changedMode? fuel users mode rest
    else none
where
  /-- Reads for which users changes are meant. -/
  clause (fuel : Nat) (mode : Nat) (cs : List Char) : Option Nat :=
    let users := cs.takeWhile (['u', 'g', 'o', 'a'].contains ·)
    let everyone := users.isEmpty || users.contains 'a'
    let rest := cs.drop users.length
    if rest.isEmpty then none
    else changedMode? fuel (if everyone then ['u', 'g', 'o'] else users) mode rest

/-- The command `umask`. -/
def umask (args : List String) : Eval Nat := do
  let (options, texts) ← Eval.options ['S'] [] args
  let mask ← Eval.act (.mask none)
  match texts with
  | [] => do
    let allowed := 511 - mask % 512
    if options.isEmpty then Eval.print (octal 4 mask ++ "\n")
    else
      Eval.print ("u=" ++ permissions (allowed / 64) ++ ",g=" ++ permissions (allowed / 8)
        ++ ",o=" ++ permissions allowed ++ "\n")
    pure 0
  | text :: _ => do
    let cs := text.toList
    if cs.head?.any Char.isDigit then
      if cs.all Escape.isOctal then
        let mask := (cs.foldl (fun n c => n * 8 + (c.toNat - '0'.toNat)) 0) % 512
        discard (Eval.act (.mask (some mask)))
        pure 0
      else Eval.fail ("Illegal number: " ++ text)
    else
      match changedMode?.clause (cs.length + 1) (511 - mask % 512) cs with
      | some allowed => do
        discard (Eval.act (.mask (some (511 - allowed % 512))))
        pure 0
      | none => Eval.fail ("Illegal mode: " ++ text)

/-! ## Limits -/

/-- The limits of a process: the letter of each, what it is about, and its value, if it has one. -/
def limits : List (Char × String × Option Nat) :=
  [('t', "time(seconds)", none), ('f', "file(blocks)", none), ('d', "data(kbytes)", none),
    ('s', "stack(kbytes)", some 8192), ('c', "coredump(blocks)", some 0),
    ('m', "memory(kbytes)", none), ('l', "locked memory(kbytes)", some 8192),
    ('p', "process", none), ('n', "nofiles", some 1048576), ('v', "vmemory(kbytes)", none),
    ('w', "locks", none), ('r', "rtprio", some 0)]

/-- The text of a limit. -/
def limitText (limit? : Option Nat) : String := (limit?.map decimal).getD "unlimited"

/-- The command `ulimit`. -/
def ulimit (args : List String) : Eval Nat := do
  let (options, texts) ← Eval.options ("HSa".toList ++ limits.map (·.1)) [] args
  let all := options.any (·.1 = 'a')
  let letter := ((options.map (·.1)).filter (· ∉ ['H', 'S', 'a'])).getLast?.getD 'f'
  let given := (← get).limits
  let value := fun (c : Char) (preset : Option Nat) => (given.lookup c).getD preset
  match texts with
  | [] => do
    if all then
      Eval.print (String.join (limits.map fun (c, name, preset) =>
        name ++ String.ofList (List.replicate (20 - name.length) ' ') ++ " "
          ++ limitText (value c preset) ++ "\n"))
    else
      let preset := ((limits.lookup letter).map (·.2)).getD none
      Eval.print (limitText (value letter preset) ++ "\n")
    pure 0
  | text :: more =>
    if all || !more.isEmpty then Eval.fail "too many arguments"
    else
      let new? := if text = "unlimited" then some none
        else if text.toList.all Char.isDigit then some (some (Decimal.leading text.toList).1)
        else none
      match new? with
      | none => Eval.fail "bad number"
      | some new => do
        modify fun state => { state with limits := (letter, new) :: state.limits }
        pure 0

end LineShell.Script.Builtin
