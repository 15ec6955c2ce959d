import LineShell.Machine.Script.Builtin.Options
import LineShell.Machine.Script.Expansion
/-!
# The command language: variables, options and arguments

The commands that set, mark, unset and read variables, and those that change options and arguments.
-/

namespace LineShell.Script.Builtin

/-! ## Listing -/

/-- The bytes of a name in the order in which names are listed. -/
def listed (bindings : List (String × Variable)) : List (String × Variable) :=
  bindings.mergeSort fun a b => a.1 ≤ b.1

/-- The line that tells of a variable. -/
def variableLine (front : String) (entry : String × Variable) : String :=
  (if front = "" then "" else front ++ " ") ++ entry.1
    ++ (entry.2.value?.elim "" fun value => "=" ++ quotedForScript value) ++ "\n"

/-- Tells the variables of some kind. -/
def listVariables (front : String) (isSuch : Variable → Bool) : Eval Nat := do
  let such := (← get).bindings.filter fun entry => isSuch entry.2
  Eval.print (String.join ((listed such).map (variableLine front)))
  pure 0

/-! ## Marking and unsetting -/

/-- A name and the value behind it, if there is one. -/
def splitAssignment (text : String) : String × Option String :=
  let name := text.toList.takeWhile (· != '=')
  match text.toList.drop name.length with
  | [] => (text, none)
  | _ :: value => (String.ofList name, some (String.ofList value))

/-- Marks variables, and gives them values. -/
def markAll (marks : State.Marks) (texts : List String) : Eval Unit :=
  texts.forM fun text => do
    let (name, value?) := splitAssignment text
    if value?.isNone && ((← get).bindings.lookup name).isSome then
      modify (·.mark name marks)
    else Eval.change (·.set name value? marks)

/-- The command `export`. -/
def exportVariables (args : List String) : Eval Nat := do
  match ← Eval.options ['p'] [] args with
  | ([], text :: texts) => do
    markAll { isExported := true } (text :: texts)
    pure 0
  | _ => listVariables "export" (·.isExported)

/-- The command `readonly`. -/
def keepVariables (args : List String) : Eval Nat := do
  match ← Eval.options ['p'] [] args with
  | ([], text :: texts) => do
    markAll { isReadOnly := true } (text :: texts)
    pure 0
  | _ => listVariables "readonly" (·.isReadOnly)

/-- The command `local`. -/
def localizeVariables (args : List String) : Eval Nat := do
  if (← get).locals.isEmpty then Eval.fail "not in a function"
  else
    args.forM fun text => do
      if text = "-" then modify fun state => state.save (.options state.options)
      else
        let (name, value?) := splitAssignment text
        Eval.change (·.localize name value? false)
    pure 0

/-- The command `unset`. -/
def unsetAll (args : List String) : Eval Nat := do
  let (options, names) ← Eval.options ['v', 'f'] [] args
  let isFunction := options.getLast?.any (·.1 = 'f')
  names.forM fun name => do
    if isFunction then
      modify fun state => { state with functions := state.functions.filter (·.1 != name) }
    else Eval.change (·.set name none {})
  pure 0

/-! ## Options and arguments -/

/-- Tells which options are set. -/
def listOptions (asCommands : Bool) (state : State) : String :=
  let filled := fun name : String =>
    name ++ String.ofList (List.replicate (16 - name.length) ' ')
  if asCommands then
    String.join (optionNames.map fun (name, c) =>
      "set " ++ (if state.has c then "-o " else "+o ") ++ name ++ "\n")
  else
    "Current option settings\n" ++ String.join (optionNames.map fun (name, c) =>
      filled name ++ (if state.has c then "on" else "off") ++ "\n")

/-- Sets an option by its letter. -/
def setOption (isSet : Bool) (c : Char) : Eval Unit := do
  if ' ' < c ∧ optionNames.any (·.2 = c) then modify (·.withOption c isSet)
  else Eval.fail ("Illegal option -" ++ String.singleton c)

/-- Sets an option by its name, or tells of all options. When a shell is started, those of which
nothing has been said count as set. -/
def setNamedOption (atStart isSet : Bool) : Option String → Eval Unit
  | none => do
    let state ← get
    let options := if atStart then optionNames.map (·.2) else state.options
    Eval.print (listOptions (!isSet) { state with options })
  | some name =>
    match optionNames.lookup name with
    | some c => modify (·.withOption c isSet)
    | none => Eval.fail ("Illegal option -o " ++ name)

/-- Sets the options of a word, of which each letter is one. Some letters can only be met when a shell
is started; whether these were there is told. A letter takes the next arguments as names. -/
def setOptionWord (atStart isSet : Bool) :
    List Char → List String → List Char → Eval (List String × List Char)
  | [], args, special => pure (args, special)
  | c :: rest, args, special => do
    if atStart ∧ (c = 'c' ∨ c = 'l') then setOptionWord atStart isSet rest args (c :: special)
    else if c = 'o' then do
      setNamedOption atStart isSet args.head?
      setOptionWord atStart isSet rest (args.drop 1) special
    else do
      setOption isSet c
      setOptionWord atStart isSet rest args special

/-- Takes the options of a shell off arguments: what is left, the special letters, and whether what is
left is meant to be arguments even if it is nothing. -/
def setOptions (atStart : Bool) :
    Nat → List String → List Char → Eval (List String × List Char × Bool)
  | 0, args, special => pure (args, special, false)
  | _, [], special => pure ([], special, false)
  | fuel + 1, word :: args, special => do
    match word.toList with
    | ['-'] => do
      if !atStart then
        modify fun state => (state.withOption 'x' false).withOption 'v' false
      pure (args, special, false)
    | ['-', '-'] => pure (args, special, true)
    | '-' :: letters => do
      let (args, special) ← setOptionWord atStart true letters args special
      setOptions atStart fuel args special
    | '+' :: letters => do
      let (args, special) ← setOptionWord atStart false letters args special
      setOptions atStart fuel args special
    | _ => pure (word :: args, special, false)

/-- Gives up the control of jobs, which needs a terminal. -/
def dropControl : Eval Unit := do
  let state ← get
  if state.has 'm' && state.isFirst then
    Eval.warn "can\x27t access tty; job control turned off"
    modify (·.withOption 'm' false)

/-- Puts other arguments in place of those of the script. -/
def setArguments (arguments : List String) : Eval Unit :=
  modify fun state => { state with arguments, optionIndex := 1, optionOffset? := none }

/-- The command `set`. -/
def setAll (args : List String) : Eval Nat := do
  if args.isEmpty then listVariables "" (·.value?.isSome)
  else
    let (arguments, _, isMeant) ← setOptions false (args.length + 1) args []
    dropControl
    if isMeant || !arguments.isEmpty then setArguments arguments
    pure 0

/-- The command `shift`. -/
def shiftArguments (args : List String) : Eval Nat := do
  let count ← match args with
    | [] => pure 1
    | text :: _ => Eval.number text
  let arguments := (← get).arguments
  if arguments.length < count then Eval.fail "can\x27t shift that many"
  else
    setArguments (arguments.drop count)
    pure 0

/-! ## Options of a script -/

/-- How `getopts` is used. -/
def getoptsUsage : String := "Usage: getopts optstring var [arg...]"

/-- Where the next option of a script is: in a word that is gone on with, in the next word, or
nowhere. The answer is the rest of the word and the place of the word behind it. -/
def nextOption (state : State) (args : List String) : Option (List Char × Nat) × Nat :=
  let index := state.optionIndex
  let open? := do
    let offset ← state.optionOffset?
    let word ← if 1 < index then args[index - 2]? else none
    if offset < word.length then some (word.toList.drop offset) else none
  match open? with
  | some rest => (some (rest, index), index)
  | none =>
    match args[index - 1]? with
    | some word =>
      match word.toList with
      | '-' :: '-' :: [] => (none, index + 1)
      | '-' :: c :: rest => (some (c :: rest, index + 1), index + 1)
      | _ => (none, index)
    | none => (none, index)

/-- Whether a letter is an option, and whether it takes a value. -/
def optionKind? (known : List Char) (c : Char) : Option Bool :=
  match known with
  | [] => none
  | k :: rest =>
    if k = c then some (rest.head? = some ':')
    else optionKind? (if rest.head? = some ':' then rest.drop 1 else rest) c
termination_by known.length
decreasing_by
  simp only [List.length_cons]
  split
  · simp only [List.length_drop]
    omega
  · omega

/-- Notes how far the options of a script have been taken. -/
def noteOption (name : String) (c : Char) (index : Nat) (offset? : Option Nat) : Eval Unit := do
  Eval.setVariable "OPTIND" (decimal index)
  Eval.setVariable name (String.singleton c)
  modify fun state => { state with optionIndex := index, optionOffset? := offset? }

/-- Takes the next option of a script. -/
def takeOption (known name : String) (args : List String) : Eval Nat := do
  let isQuiet := known.toList.head? = some ':'
  match nextOption (← get) args with
  | (none, index) => do
    noteOption name '?' index none
    pure 1
  | (some ([], index), _) => do
    noteOption name '?' index none
    pure 1
  | (some (c :: rest, index), _) => do
    let word := (args[index - 2]?).getD ""
    let offset? := some (word.length - rest.length)
    match optionKind? known.toList c with
    | none => do
      if isQuiet then Eval.setVariable "OPTARG" (String.singleton c)
      else
        discard (Eval.act (.say 2 ("Illegal option -" ++ String.singleton c ++ "\n")))
        Eval.change (·.set "OPTARG" none {})
      noteOption name '?' index offset?
    | some false => do
      Eval.setVariable "OPTARG" ""
      noteOption name c index offset?
    | some true =>
      if !rest.isEmpty then
        Eval.setVariable "OPTARG" (String.ofList rest)
        noteOption name c index none
      else
        match args[index - 1]? with
        | some value => do
          Eval.setVariable "OPTARG" value
          noteOption name c (index + 1) none
        | none =>
          if isQuiet then
            Eval.setVariable "OPTARG" (String.singleton c)
            noteOption name ':' index offset?
          else
            discard (Eval.act (.say 2 ("No arg for -" ++ String.singleton c ++ " option\n")))
            Eval.change (·.set "OPTARG" none {})
            noteOption name '?' index offset?
    pure 0

/-- The command `getopts`. -/
def getopts (args : List String) : Eval Nat := do
  match ← Eval.noOptions args with
  | known :: name :: more => do
    let state ← get
    let args := if more.isEmpty then state.arguments else more
    if args.length + 1 < state.optionIndex then
      modify fun state => { state with optionIndex := 1, optionOffset? := none }
    takeOption known name args
  | _ => Eval.fail getoptsUsage

/-! ## Reading -/

/-- A line that is being read. -/
structure ReadLine where
  text : Text := {}
  /-- Where the characters begin that may have to be split. -/
  plainFrom : Nat := 0
  afterBackslash : Bool := false

namespace ReadLine

/-- Notes the characters that are to be split. -/
def closed (line : ReadLine) : Text :=
  line.text.note { start := line.plainFrom, stop := line.text.size }

/-- Goes on with a character. -/
def push (line : ReadLine) (c : Char) : ReadLine :=
  { line with text := line.text.push (.char true c) }

/-- Goes on behind a backslash: a line end is dropped. -/
def pushEscaped (line : ReadLine) (c : Char) : ReadLine :=
  let closed := line.closed
  let text := if c = '\n' then closed else closed.push (.char true c)
  { text, plainFrom := text.size }

end ReadLine

/-- Reads a line, and tells whether it had an end. -/
def readLine (isRaw : Bool) : Eval (Bool × Text) :=
  Eval.loop (fun (line : ReadLine) => do
    match ← Eval.act (.read 0 1 .some) with
    | .ok [byte] =>
      let c := Char.ofNat byte.toNat
      if c = '\x00' then pure (.inl line)
      else if line.afterBackslash then pure (.inl (line.pushEscaped c))
      else if !isRaw ∧ c = '\\' then pure (.inl { line with afterBackslash := true })
      else if c = '\n' then pure (.inr (true, line.closed))
      else pure (.inl (line.push c))
    | _ => pure (.inr (false, line.closed))) {}

/-- Gives variables the words of a line. -/
def assignWords : List String → List (List Glyph) → Eval Unit
  | [], _ => pure ()
  | name :: names, words => do
    Eval.setVariable name (Glyph.text (words.headD []))
    assignWords names (words.drop 1)

/-- The command `read`. -/
def readWords (args : List String) : Eval Nat := do
  let (options, names) ← Eval.options ['r'] ['p'] args
  if names.isEmpty then Eval.fail "arg count"
  else
    let (isWhole, text) ← readLine (options.any (·.1 = 'r'))
    let separators := (← get).separators
    assignWords names (text.split separators (some names.length))
    pure (if isWhole then 0 else 1)

end LineShell.Script.Builtin
