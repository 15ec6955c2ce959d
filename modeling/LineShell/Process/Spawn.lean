import LineShell.Process.Kernel
/-!
# Launching by spawning

The system starts the program in one request and answers with an error if it cannot, so the shell
itself learns of it. The outcome is read off the way the child really ended.
-/

namespace LineShell

/-- Whether an argument holds a zero byte. -/
def holdsNul (arg : String) : Bool := (Utf8.encode arg).contains 0

/-- Launches a program by spawning it. -/
def spawn {Dir : Type} (kernel : Kernel Dir) (dir : Dir) (args : List String) : Attempt :=
  match args with
  | [] => .refused .emptyCommand
  | _ =>
    if args.any holdsNul then .refused .nulInArguments
    else
      let argv := args.map Utf8.encode
      match kernel.fork, kernel.exec .spawned dir argv with
      | .error errno, _ | .ok _, .error errno =>
        ⟨{ outcome := .failed (.system errno) }, [.spawn argv]⟩
      | .ok child, .ok life =>
        { launch := { outcome := endOf life.changes life.ends, out := life.out, err := life.err }
          calls := [.spawn argv, .wait child] }

end LineShell
