import LineShell.Stream.Sink
import LineShell.Trace
/-!
# The two output streams

A console is a standard output and a standard error. Its operations tell what was observed of them.
A diagnostic is one line on standard error; if that line cannot be written there is nowhere left to
say so.
-/

namespace LineShell

/-- Standard output and standard error. -/
structure Console where
  out : Sink := {}
  err : Sink := {}

/-- What came of an operation on standard output. -/
structure Shown (Dir : Type) where
  trace : Trace Dir
  fault? : Option Fault
  console : Console

namespace Console

variable {Dir : Type}

/-- Writes pieces to standard output, up to the first that fails. -/
def print (console : Console) (pieces : List Bytes) : Shown Dir :=
  let put := console.out.putAll pieces
  ⟨[.out put.taken], put.fault?, { console with out := put.sink }⟩

/-- Flushes standard output. -/
def flush (console : Console) : Shown Dir :=
  let (fault?, out) := console.out.flush
  ⟨[.flush fault?.isNone], fault?, { console with out }⟩

/-- Writes the prompt and flushes it. -/
def prompt (console : Console) (text : String) : Shown Dir :=
  let shown := console.print [Utf8.encode text]
  match shown.fault? with
  | some _ => shown
  | none =>
    let flushed := shown.console.flush
    { flushed with trace := shown.trace ++ flushed.trace }

/-- The diagnostic for an error. -/
def diagnostic (error : ShellError) : String := "shell: " ++ error.message ++ "\n"

/-- The diagnostic in the pieces it is written in. -/
def diagnosticPieces (error : ShellError) : List String := "shell: " :: error.pieces ++ ["\n"]

/-- Reports an error on standard error. Whether that works is not asked. -/
def report (console : Console) (error : ShellError) : Trace Dir × Console :=
  let put := console.err.putAll ((diagnosticPieces error).map Utf8.encode)
  ([.err put.taken], { console with err := put.sink })

/-- The pieces make up the diagnostic. -/
theorem join_diagnosticPieces (error : ShellError) :
    String.join (diagnosticPieces error) = diagnostic error := by
  simp only [diagnosticPieces, diagnostic, String.join_cons, String.join_append, String.join_nil,
    ShellError.join_pieces, String.append_empty, String.append_assoc, List.cons_append]

end Console

end LineShell
