import LineShell.Machine.Escape
import LineShell.Machine.FileTree
import LineShell.Machine.Program
/-!
# Programs that print

What the smallest programs of a machine print and the status they end with, given their arguments.
Complaints are written before all else. A program whose output cannot be written complains of that and
fails.
-/

namespace LineShell

/-- What a program printed, and its status. -/
structure Printed where
  out : Bytes := []
  err : Bytes := []
  status : Nat := 0
  deriving DecidableEq, Repr

/-- What was printed first and what was printed then. The worse status counts. -/
def Printed.followed (first later : Printed) : Printed where
  out := first.out ++ later.out
  err := first.err ++ later.err
  status := max first.status later.status

namespace Utility

/-- Prints a text. -/
def say (text : String) : Printed := { out := Octets.toBytes text }

/-- Complains and fails. -/
def complain (text : String) (status : Nat) : Printed := { err := Octets.toBytes text, status }

/-- Where a program sends those who used it wrongly. -/
def helpHint (name : String) : String :=
  "Try \x27" ++ name ++ " --help\x27 for more information.\n"

/-- The letters of an option word of `echo`. -/
def echoLetters? (word : String) : Option (List Char) :=
  match word.toList with
  | '-' :: letter :: letters =>
    if (letter :: letters).all (['n', 'e', 'E'].contains ·) then some (letter :: letters) else none
  | _ => none

/-- Takes the options off the arguments of `echo`: whether to leave out the line end, whether to
read escapes, and the words to print. The last letter about escapes decides. -/
def echoOptions (bare escapes : Bool) : List String → Bool × Bool × List String
  | [] => (bare, escapes, [])
  | word :: words =>
    match echoLetters? word with
    | none => (bare, escapes, word :: words)
    | some letters =>
      let chosen := letters.foldl (fun e c => if c = 'n' then e else c == 'e') escapes
      echoOptions (bare || letters.contains 'n') chosen words

/-- Prints words with spaces between them and a line end behind them. Escapes are read in the given
style, if in any. -/
def echoWords (bare : Bool) (style? : Option Escape.Style) (words : List String) : Printed :=
  let text := " ".intercalate words
  let (bytes, ending) := match style? with
    | some style => Escape.expand style text.toList
    | none => (Octets.toBytes text, none)
  { out := if bare || ending.isSome then bytes else bytes ++ [10] }

/-- The program `echo`. -/
def runEcho (args : List String) : Printed :=
  let (bare, escapes, words) := echoOptions false false args
  echoWords bare (if escapes then some { zeroFirst := true, extended := true } else none) words

/-- What `pwd` makes of an argument: nothing if it is no option; whether the path is asked for by
which the directory was reached; or a complaint. -/
def pwdOption (arg : String) : Option (Except String Bool) :=
  let long := fun (name : List Char) (isLogical : Bool) (full : String) =>
    let front := name.takeWhile (· != '=')
    if front.isPrefixOf full.toList then
      some (if front.length < name.length then
        .error ("option \x27--" ++ full ++ "\x27 doesn\x27t allow an argument")
      else .ok isLogical : Except String Bool)
    else none
  match arg.toList with
  | '-' :: '-' :: name =>
    some (((long name true "logical").or (long name false "physical")).getD
      (.error ("unrecognized option \x27" ++ arg ++ "\x27")))
  | '-' :: letter :: letters =>
    match (letter :: letters).find? (['L', 'P'].contains · == false) with
    | some other =>
      some (.error ("invalid option -- \x27" ++ String.singleton other ++ "\x27"))
    | none => some (.ok ((letter :: letters).getLast? == some 'L'))
  | _ => none

/-- What `pwd` makes of its arguments: whether the path is asked for by which the directory was
reached, and whether there are others than options; or a complaint. -/
def pwdOptions (isLogical : Bool) : List String → Except String (Bool × Bool)
  | [] => .ok (isLogical, false)
  | "--" :: others => .ok (isLogical, !others.isEmpty)
  | arg :: args =>
    match pwdOption arg with
    | some (.error complaint) => .error complaint
    | some (.ok isLogical) => pwdOptions isLogical args
    | none => (pwdOptions isLogical args).map fun (isLogical, _) => (isLogical, true)

/-- Whether a path goes back or stays somewhere on its way. -/
def hasDots (path : String) : Bool :=
  (path.toList.splitOn '/').any fun name => name = ['.'] || name = ['.', '.']

/-- The path by which the directory was reached, if that is known. -/
def reachedPath? (environment : Environment) : Act (Option String) := do
  match environment.lookup "PWD" with
  | none => pure none
  | some path =>
    if path.toList.head? ≠ some '/' ∨ hasDots path then pure none
    else
      match ← Act.inspect path true, ← Act.inspect "." true with
      | .ok there, .ok here => pure (if there.place = here.place then some path else none)
      | _, _ => pure none

/-- The program `pwd`, under a name. -/
def runPwd (name : String) (environment : Environment) (args : List String) : Act Printed := do
  match pwdOptions false args with
  | .error complaint => pure (complain (name ++ ": " ++ complaint ++ "\n" ++ helpHint name) 1)
  | .ok (isLogical, hasOthers) =>
    let err := if hasOthers then name ++ ": ignoring non-option arguments\n" else ""
    let reached? ← if isLogical then reachedPath? environment else pure none
    let path ← match reached? with
      | some path => pure path
      | none => Act.tellDir
    pure { out := Octets.toBytes (path ++ "\n"), err := Octets.toBytes err }

/-- Writes what a program printed, under its name, and tells the status it ends with. -/
def deliver (name : String) (printed : Printed) : Act Nat := do
  let _ ← Act.write 2 printed.err
  match ← Act.write 1 printed.out with
  | none => pure printed.status
  | some errno =>
    let _ ← Act.say 2 (name ++ ": write error: " ++ errno.text ++ "\n")
    pure 1

end Utility

end LineShell
