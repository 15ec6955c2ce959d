import LineShell.Settings
/-!
# The command line

The options say what prompt to show and whether to log; anything else is refused. A request for help
is answered when the whole line was read without a fault. Behind two dashes nothing is an option.
-/

namespace LineShell

/-- The name the program goes by. -/
def programName : String := "minish"

/-- What a command line asks for. -/
inductive Request where
  | run (settings : Settings)
  | help
  deriving DecidableEq, Repr

/-- Why a command line is refused. -/
inductive UsageError where
  | unrecognized (arg : String)
  | missingValue (option : String)
  | repeated (option value : String)
  | afterHelp
  deriving DecidableEq, Repr

/-- The text shown for a refused command line. -/
def UsageError.message : UsageError → String
  | .unrecognized arg => "Unrecognized argument: " ++ arg ++ "\n"
  | .missingValue option => "No value provided for option '" ++ option ++ "'.\n"
  | .repeated option value =>
    "Error parsing option '" ++ option ++ "' with value '" ++ value
      ++ "': duplicate values provided\n"
  | .afterHelp => "Trailing arguments are not allowed after \x60help\x60."

/-- What is shown when a command line is refused. -/
def UsageError.report (error : UsageError) : String :=
  error.message ++ "\nRun " ++ programName ++ " --help for more information.\n"

/-- What is shown when help is asked for. -/
def usage : String :=
  "Usage: " ++ programName ++ " [--prompt <prompt>] [-v]\n\n"
    ++ "A minimal interactive command interpreter.\n\n"
    ++ "Options:\n"
    ++ "  --prompt          text shown before each input line\n"
    ++ "  -v, --verbose     log dispatch and child process events to standard error\n"
    ++ "  --help, help      display usage information\n\n"

/-- What the arguments read so far have asked for. -/
structure Wishes where
  prompt : Option String := none
  verbose : Bool := false
  help : Bool := false
  /-- Whether two dashes were met. -/
  optionsEnded : Bool := false
  deriving DecidableEq, Repr

namespace Wishes

/-- What the wishes come to. -/
def request (wishes : Wishes) : Request :=
  if wishes.help then .help
  else .run { prompt := wishes.prompt.getD defaultPrompt, verbose := wishes.verbose }

/-- Reads further arguments. The value of an option is the argument behind it, whatever that is. -/
def read (wishes : Wishes) : List String → Except UsageError Request
  | [] => .ok wishes.request
  | arg :: rest =>
    if wishes.optionsEnded then .error (.unrecognized arg)
    else if arg = "--help" ∨ arg = "help" then read { wishes with help := true } rest
    else if arg = "--" then read { wishes with optionsEnded := true } rest
    else if arg.toList.head? ≠ some '-' then .error (.unrecognized arg)
    else if wishes.help then .error .afterHelp
    else if arg = "-v" ∨ arg = "--verbose" then read { wishes with verbose := true } rest
    else if arg = "--prompt" then
      match rest with
      | [] => .error (.missingValue arg)
      | value :: rest =>
        if wishes.prompt.isSome then .error (.repeated arg value)
        else read { wishes with prompt := some value } rest
    else .error (.unrecognized arg)

end Wishes

/-- What a command line asks for, or why it is refused. -/
def Request.ofArguments (args : List String) : Except UsageError Request := Wishes.read {} args

end LineShell
