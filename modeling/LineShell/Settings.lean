/-!
# Settings

The prompt and the verbosity are all that can be chosen, and only on the command line.
-/

namespace LineShell

/-- The prompt unless another is chosen. -/
def defaultPrompt : String := "> "

/-- What can be chosen about a shell. -/
structure Settings where
  prompt : String := defaultPrompt
  verbose : Bool := false
  deriving DecidableEq, Repr

/-- The logging directive that applies when the environment gives none. -/
def Settings.logDirective (settings : Settings) : String :=
  if settings.verbose then "debug" else "warn"

end LineShell
