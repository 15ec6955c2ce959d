import LineShell.Builtin.Basic
import LineShell.Process.ForkExec
import LineShell.Process.Spawn
/-!
# What a shell runs on

A host knows where a directory name leads and how a launch comes out. The first is a fixed partial
function of the directory one is in; a launch may depend on a state of the launcher. Launched
programs cannot move the shell to another directory.
-/

namespace LineShell

/-- Directories of type `Dir`, and a launcher with a state of type `State`. -/
structure Host (Dir State : Type) where
  changeDir : ChangeDir Dir
  launch : Dir → List String → State → Launch × State

namespace Host

variable {Dir : Type}

/-- A host whose launches come out as a list says; when the list is used up, with status 0. -/
def scripted (changeDir : ChangeDir Dir) : Host Dir (List Outcome) where
  changeDir
  launch _ _
    | [] => ({ outcome := .exited 0 }, [])
    | outcome :: outcomes => ({ outcome }, outcomes)

/-- A host that launches by fork and exec. -/
def forking (changeDir : ChangeDir Dir) (kernel : Kernel Dir) : Host Dir Unit where
  changeDir
  launch dir args _ := ((forkExec kernel dir args).launch, ())

/-- A host that launches by spawning. -/
def spawning (changeDir : ChangeDir Dir) (kernel : Kernel Dir) : Host Dir Unit where
  changeDir
  launch dir args _ := ((spawn kernel dir args).launch, ())

end Host

end LineShell
