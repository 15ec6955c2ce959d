import LineShell.Machine.Program
import LineShell.Machine.Script.Arithmetic
import LineShell.Machine.Script.Grammar
/-!
# The command language: what a shell keeps in mind

Variables, functions, options, traps, jobs, and how far commands have been carried out. Variables can
be exported to programs, kept from change, and given a value for a while; those that are always there
lose only their value when they are unset.
-/

namespace LineShell.Script

/-- A variable. -/
structure Variable where
  value? : Option String := none
  /-- Whether programs find it set. -/
  isExported : Bool := false
  isReadOnly : Bool := false
  /-- Whether it is always there. -/
  isFixed : Bool := false
  deriving DecidableEq, Repr

/-- What is restored at the end of a function or a command. -/
inductive Saved where
  | binding (name : String) (before : Option Variable)
  | options (letters : List Char)
  deriving Repr

/-- Why commands are passed over. -/
inductive Skip where
  /-- So many loops are left. -/
  | breaks
  /-- The last of so many loops is gone on with. -/
  | continues
  /-- A function is left, with a status of its own or without one. -/
  | returns
  | returnsLast
  deriving DecidableEq, Repr

/-- Whether commands are passed over up to the end of a function. -/
def Skip.isReturn : Skip → Bool
  | .returns | .returnsLast => true
  | .breaks | .continues => false

/-- Processes that were started together. -/
structure Job where
  number : Nat
  /-- Its processes and what became of those that have ended. -/
  processes : List (Pid × Option Change)
  /-- Whether somebody has waited for its end. -/
  wasWaitedFor : Bool := false

/-- Where the program of a name was found. -/
structure Tracked where
  path : String
  /-- The place in the list of directories. -/
  index : Nat
  /-- Whether it has to be looked for again, since the directory has changed. -/
  isDoubtful : Bool := false
  deriving Repr

/-- What a shell keeps in mind. -/
structure State where
  /-- The number of the first process that ran the script. -/
  pid : Pid
  /-- The name of the script. -/
  name : String
  arguments : List String := []
  /-- The place of the next option among arguments, and where in it its next letter is. -/
  optionIndex : Nat := 1
  optionOffset? : Option Nat := none
  bindings : List (String × Variable) := []
  /-- What is to be restored, the innermost first. -/
  locals : List (List Saved) := []
  functions : List (String × Command) := []
  aliases : List (String × String) := []
  tracked : List (String × Tracked) := []
  options : List Char := []
  /-- The texts in the script, by their numbers. -/
  documents : List (Nat × Word) := []
  nextDocument : Nat := 0
  status : Nat := 0
  /-- The status that counts when the shell is left, if that is another one. -/
  lastingStatus? : Option Nat := none
  /-- The status of the commands that were put in place of their output. -/
  substituted : Nat := 0
  line : Nat := 0
  /-- The line that has been read last. -/
  lastLine : Nat := 1
  /-- The command that complains. -/
  command? : Option String := none
  skip? : Option Skip := none
  skipCount : Nat := 0
  loops : Nat := 0
  functionDepth : Nat := 0
  /-- The actions for signals; the empty one ignores. The end of the shell is signal zero. -/
  traps : List (Nat × String) := []
  /-- The signals for which actions are due. -/
  due : List Nat := []
  /-- The signals that were ignored from the start, which stay so. -/
  deaf : List Nat := []
  /-- Whether this is the process that the script began in. -/
  isFirst : Bool := true
  jobs : List Job := []
  background? : Option Pid := none
  /-- The path of the directory as it was reached. -/
  dir : String := ""
  /-- The limits that were set. -/
  limits : List (Char × Option Nat) := []
  /-- What was printed and not yet written, the last first, and whether writing failed. -/
  printed : List String := []
  isBroken : Bool := false
  /-- What numbers meant before redirections, the innermost first. -/
  moved : List (List (Nat × Option Nat)) := []
  /-- Where commands are shown, and whether what stands in front of them is just being expanded. -/
  traceTo : Nat := 2
  isTracing : Bool := false
  /-- Whether the end of the script was met and is to be met again. -/
  endIsAhead : Bool := false

/-- The options by name, in the order in which they are listed. Those behind a control character have
no letter. -/
def optionNames : List (String × Char) :=
  [("errexit", 'e'), ("noglob", 'f'), ("ignoreeof", 'I'), ("interactive", 'i'), ("monitor", 'm'),
    ("noexec", 'n'), ("stdin", 's'), ("xtrace", 'x'), ("verbose", 'v'), ("vi", 'V'), ("emacs", 'E'),
    ("noclobber", 'C'), ("allexport", 'a'), ("notify", 'b'), ("nounset", 'u'), ("privileged", 'p'),
    ("nolog", '\x01'), ("debug", '\x02')]

/-- The text of a number. -/
def decimal (n : Nat) : String := n.repr

/-- The text of a number with its sign. -/
def signedDecimal (n : Int) : String := if n < 0 then "-" ++ n.natAbs.repr else n.natAbs.repr

namespace State

/-- Whether an option is set. -/
def has (state : State) (option : Char) : Bool := state.options.contains option

/-- Sets an option, or takes it back. Of the two ways to edit lines only one can be chosen. -/
def withOption (state : State) (option : Char) (isSet : Bool) : State :=
  let other? := if option = 'V' then some 'E' else if option = 'E' then some 'V' else none
  let dropped := if isSet then option :: other?.toList else [option]
  let others := state.options.filter (!dropped.contains ·)
  { state with options := if isSet then option :: others else others }

/-- The letters of the options that are set. -/
def optionLetters (state : State) : String :=
  String.ofList ((optionNames.map (·.2)).reverse.filter fun c => ' ' ≤ c && state.has c)

/-! ## Variables -/

/-- The value of a variable. -/
def value? (state : State) (name : String) : Option String :=
  (state.bindings.lookup name).bind (·.value?)

/-- The value of a variable; of one that has none, nothing. -/
def value (state : State) (name : String) : String := (state.value? name).getD ""

/-- Puts a variable in place of the one with the same name. -/
def put (state : State) (name : String) (new? : Option Variable) : State :=
  let others := state.bindings.filter (·.1 != name)
  { state with bindings := (new?.map (name, ·)).toList ++ others }

/-- The place of the next option that a text tells. -/
def optionIndexOf? (text : String) : Option Nat :=
  match integer? false text with
  | some n => if 0 ≤ n ∧ n ≤ 2147483647 then some (if n = 0 then 1 else n.toNat) else none
  | none => none

/-- What the new value of a variable leads to: programs are looked for again, or options are. -/
def noticed (state : State) (name : String) (value? : Option String) : Except String State :=
  if name = "PATH" then .ok { state with tracked := [] }
  else if name = "OPTIND" then
    match value? with
    | none => .ok { state with optionIndex := 1, optionOffset? := none }
    | some text =>
      match optionIndexOf? text with
      | some n => .ok { state with optionIndex := n, optionOffset? := none }
      | none => .error ("Illegal number: " ++ text)
  else .ok state

/-- What is set about a variable besides its value. -/
structure Marks where
  isExported : Bool := false
  isReadOnly : Bool := false
  isFixed : Bool := false

/-- Gives a variable a value, or takes it away, and marks it. It fails if the variable must not be
changed. -/
def assign (state : State) (name : String) (value? : Option String) (marks : Marks) :
    Except String State :=
  let old? := state.bindings.lookup name
  let isExported := marks.isExported || state.has 'a'
  if old?.any (·.isReadOnly) then .error (name ++ ": is read only")
  else
    match state.noticed name value? with
    | .error complaint => .error complaint
    | .ok state =>
      let old := old?.getD {}
      let vanishes :=
        value?.isNone && !isExported && !marks.isReadOnly && !marks.isFixed && !old.isFixed
      if vanishes then .ok (state.put name none)
      else
        .ok (state.put name (some
          { value?
            isExported := old.isExported || isExported
            isReadOnly := old.isReadOnly || marks.isReadOnly
            isFixed := old.isFixed || marks.isFixed }))

/-- What is wrong with a name for a variable. -/
def nameComplaint? (name : String) : Option String :=
  if isName name.toList then none
  else
    let front := name.toList.takeWhile (· != '=')
    some (String.ofList front ++ ": bad variable name")

/-- Gives a variable with any name a value, unless it can have none. -/
def set (state : State) (name : String) (value? : Option String) (marks : Marks) :
    Except String State :=
  match nameComplaint? name with
  | some complaint => .error complaint
  | none => state.assign name value? marks

/-- Marks a variable that is there. -/
def mark (state : State) (name : String) (marks : Marks) : State :=
  match state.bindings.lookup name with
  | none => state
  | some it =>
    state.put name (some
      { it with
        isExported := it.isExported || marks.isExported
        isReadOnly := it.isReadOnly || marks.isReadOnly
        isFixed := it.isFixed || marks.isFixed })

/-- The variables that programs find set. -/
def environment (state : State) : Environment :=
  state.bindings.filterMap fun (name, it) =>
    if it.isExported then it.value?.map (name, ·) else none

/-- The directories in which programs are looked up. -/
def searchPath (state : State) : String := state.value "PATH"

/-- The characters that separate words. -/
def separators (state : State) : List Char :=
  match state.value? "IFS" with
  | some text => text.toList
  | none => [' ', '\t', '\n']

/-! ## Values for a while -/

/-- Notes what is to be restored. -/
def save (state : State) (saved : Saved) : State :=
  match state.locals with
  | [] => state
  | first :: rest => { state with locals := (saved :: first) :: rest }

/-- Gives a variable a value for a while, or keeps the one that it has. -/
def localize (state : State) (name : String) (value? : Option String) (isExported : Bool) :
    Except String State :=
  match state.bindings.lookup name with
  | none =>
    match state.set name value? { isExported, isFixed := true } with
    | .error complaint => .error complaint
    | .ok state => .ok (state.save (.binding name none))
  | some old =>
    let kept := state.mark name { isFixed := true }
    let assigned :=
      if value?.isSome then kept.assign name value? { isExported } else .ok kept
    assigned.map (·.save (.binding name (some old)))

/-- Restores one thing. -/
def restore (state : State) : Saved → State
  | .options letters => { state with options := letters }
  | .binding name before =>
    let restored := state.put name before
    match restored.noticed name (before.bind (·.value?)) with
    | .ok state => state
    | .error _ => restored

/-- Restores what was noted since locals were begun so many times. -/
def unwindLocals (state : State) (depth : Nat) : State :=
  let extra := state.locals.length - depth
  let state := (state.locals.take extra).flatten.foldl restore state
  { state with locals := state.locals.drop extra }

end State

/-! ## Doing things -/

/-- Why a command comes to no status. -/
inductive Halt where
  /-- Something is wrong. -/
  | fault
  /-- The shell ends. -/
  | ended
  /-- The shell was told to end. -/
  | left
  deriving DecidableEq, Repr

/-- A part of what a shell does. -/
abbrev Eval := ExceptT Halt (StateT State Act)

namespace Eval

/-- Does what any process can do. -/
def act {α : Type} (act : Act α) : Eval α := ExceptT.lift (StateT.lift act)

/-- Comes to a value, or halts, whatever it does to the state. -/
def attempt {α : Type} (eval : Eval α) : Eval (Except Halt α) := ExceptT.lift eval.run

/-- Prints a text, which is written when the command is done. -/
def print (text : String) : Eval Unit := do
  if text ≠ "" then modify fun state => { state with printed := text :: state.printed }

/-- Writes what was printed. -/
def flush : Eval Unit := do
  let state ← get
  if !state.printed.isEmpty then
    set { state with printed := [] }
    if (← act (.say 1 (String.join state.printed.reverse))).isSome then
      modify fun state => { state with isBroken := true }

/-- What complaints begin with. -/
def complaintStart (state : State) : String :=
  state.name ++ ": " ++ decimal state.line ++ ": " ++ state.command?.elim "" (· ++ ": ")

/-- Complains. -/
def warn (text : String) : Eval Unit := do
  discard (act (.say 2 (complaintStart (← get) ++ text ++ "\n")))

/-- Complains, and halts. -/
def fail {α : Type} (text : String) : Eval α := do
  modify fun state => { state with status := 2 }
  warn text
  flush
  throw .fault

/-- Changes the state, or complains and halts. -/
def change (step : State → Except String State) : Eval Unit := do
  match step (← get) with
  | .ok state => set state
  | .error complaint => fail complaint

/-- Gives a variable a value. -/
def setVariable (name value : String) : Eval Unit := change (·.set name (some value) {})

/-- The number that an argument spells. -/
def number (text : String) : Eval Nat := do
  match integer? false text with
  | some n =>
    if 0 ≤ n ∧ n ≤ 2147483647 then pure n.toNat else fail ("Illegal number: " ++ text)
  | none => fail ("Illegal number: " ++ text)

/-- Repeats a step until it comes to a result. -/
def iterate {α β : Type} (step : α → Eval (α ⊕ β)) : Nat → α → Eval β
  | 0, _ => throw .ended
  | fuel + 1, a => do
    match ← step a with
    | .inl a => iterate step fuel a
    | .inr b => pure b

/-- Repeats a step as often as it takes. -/
def loop {α β : Type} (step : α → Eval (α ⊕ β)) (start : α) : Eval β :=
  iterate step Parse.patience start

end Eval

end LineShell.Script
