import LineShell.Builtin.Basic
/-!
# The four builtins

`cd` changes the working directory, `help` lists the builtins, `exit` ends the shell and `history`
lists the commands issued so far. Only `help` and `history` write to standard output.
-/

namespace LineShell.Builtin

variable {Dir : Type}

/-- Changes to the directory named by the first argument; further ones do not matter. -/
def cd : Builtin Dir where
  name := "cd"
  run context args bench :=
    match args[1]? with
    | none => ⟨[], bench, .error (.missingArgument "cd")⟩
    | some target =>
      match context.changeDir bench.dir target with
      | .error fault => ⟨[], bench, .error (.changeDir fault)⟩
      | .ok dir => ⟨[.note (.changedDirectory target)], { bench with dir }, .ok .proceed⟩

/-- The first two lines of the help text. -/
def helpHeader : List String :=
  ["Type program names and arguments, and hit enter.\n",
    "The following are built-in commands:\n"]

/-- The last line of the help text. -/
def helpFooter : String := "Use the man command for information on other programs.\n"

/-- The help text in the pieces it is written in: each name stands on a line of its own, behind two
spaces. -/
def helpPieces (names : List String) : List String :=
  helpHeader ++ names.flatMap (fun name => ["  ", name, "\n"]) ++ [helpFooter]

/-- Prints the help text. -/
def help : Builtin Dir where
  name := "help"
  run context _ bench :=
    bench.printThen ((helpPieces context.names).map Utf8.encode) (.ok .proceed)

/-- Ends the shell. -/
def exit : Builtin Dir where
  name := "exit"
  run _ _ bench := ⟨[], bench, .ok .stop⟩

/-- The listing of a history in the pieces it is written in. -/
def historyPieces (history : History) : List String :=
  history.listing.flatMap fun line => [line, "\n"]

/-- Lists the history. -/
def history : Builtin Dir where
  name := "history"
  run context _ bench :=
    bench.printThen ((historyPieces context.history).map Utf8.encode) (.ok .proceed)

end LineShell.Builtin
