import LineShell.Process.Kernel
/-!
# Launching by fork and exec

The argument vector is checked before a process exists: a zero byte cannot be passed on. Then the
shell forks; the child becomes the program, or says why it could not and ends with status 127; the
shell waits for the child's end, however often it stops before.
-/

namespace LineShell

/-- The status of a child that could not become its program. -/
def execFailure : Nat := 127

/-- The bytes of an argument, if it can be passed on. -/
def argumentBytes (arg : String) : Except Fault Bytes :=
  let bytes := Utf8.encode arg
  match bytes.idxOf? 0 with
  | some offset => .error (.nulAt offset)
  | none => .ok bytes

/-- The argument vector as it is passed on; the first argument that cannot be decides the
failure. -/
def argumentVector : List String → Except Fault (List Bytes)
  | [] => .ok []
  | arg :: args =>
    match argumentBytes arg with
    | .error fault => .error fault
    | .ok bytes =>
      match argumentVector args with
      | .error fault => .error fault
      | .ok rest => .ok (bytes :: rest)

/-- What a child prints that could not become its program. -/
def execDiagnostic (errno : Errno) : String := "shell: " ++ errno.childText ++ "\n"

/-- The life of a child that could not become its program. -/
def Execution.stillborn (errno : Errno) : Execution where
  changes := [.exited execFailure]
  ends := ⟨_, List.mem_singleton_self _, rfl⟩
  err := Utf8.encode (execDiagnostic errno)

/-- Launches a program by fork and exec. -/
def forkExec {Dir : Type} (kernel : Kernel Dir) (dir : Dir) (args : List String) : Attempt :=
  match argumentVector args with
  | .error fault => .refused fault
  | .ok [] => .refused .emptyCommand
  | .ok argv =>
    match kernel.fork with
    | .error errno => ⟨{ outcome := .failed (.system errno) }, [.fork]⟩
    | .ok child =>
      let (life, inChild) :=
        match kernel.exec .forked dir argv with
        | .ok execution => (execution, [SystemCall.exec argv])
        | .error errno => (.stillborn errno, [.exec argv, .exit execFailure])
      let (outcome, waits) :=
        awaitEnd (life.changes.map Change.report) (exists_isFinal_of_exists_isEnd life.ends)
      { launch :=
          { outcome, notes := [.spawnedChild (args.headD "")], out := life.out, err := life.err }
        calls := .fork :: inChild ++ List.replicate waits (.wait child) }

end LineShell
