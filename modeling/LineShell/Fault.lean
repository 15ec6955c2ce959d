import LineShell.Errno
/-!
# What goes wrong

`Fault` is a failed input or output operation, told by its cause: a system error, a failure that
only its kind is known of, one that comes with a text of its own, or one of the few that the shell
finds by itself. `ShellError` is what a command or the whole shell ends with. Each has one function
that words it.
-/

namespace LineShell

/-- The kinds of failure that are told apart. -/
inductive FaultKind where
  | notFound
  | permissionDenied
  | brokenPipe
  | alreadyExists
  | wouldBlock
  | invalidInput
  | invalidData
  | timedOut
  | writeZero
  | interrupted
  | unsupported
  | unexpectedEof
  | outOfMemory
  | other
  | inputOutputError
  | argumentListTooLong
  | notADirectory
  | isADirectory
  | storageFull
  | invalidFilename
  | filesystemLoop
  | resourceBusy
  | crossesDevices
  | executableFileBusy
  | fileTooLarge
  | notSeekable
  | readOnlyFilesystem
  | tooManyLinks
  | deadlock
  | directoryNotEmpty
  | addressInUse
  | addressNotAvailable
  | networkDown
  | networkUnreachable
  | connectionAborted
  | connectionReset
  | notConnected
  | connectionRefused
  | hostUnreachable
  | inProgress
  | staleNetworkFileHandle
  | quotaExceeded
  | tooManyOpenFiles
  | uncategorized
  deriving DecidableEq, Repr

/-- The text of a failure of which only the kind is known. -/
def FaultKind.text : FaultKind → String
  | .notFound => "entity not found"
  | .permissionDenied => "permission denied"
  | .brokenPipe => "broken pipe"
  | .alreadyExists => "entity already exists"
  | .wouldBlock => "operation would block"
  | .invalidInput => "invalid input parameter"
  | .invalidData => "invalid data"
  | .timedOut => "timed out"
  | .writeZero => "write zero"
  | .interrupted => "operation interrupted"
  | .unsupported => "unsupported"
  | .unexpectedEof => "unexpected end of file"
  | .outOfMemory => "out of memory"
  | .other => "other error"
  | .inputOutputError => "input/output error"
  | .argumentListTooLong => "argument list too long"
  | .notADirectory => "not a directory"
  | .isADirectory => "is a directory"
  | .storageFull => "no storage space"
  | .invalidFilename => "invalid filename"
  | .filesystemLoop => "filesystem loop or indirection limit (e.g. symlink loop)"
  | .resourceBusy => "resource busy"
  | .crossesDevices => "cross-device link or rename"
  | .executableFileBusy => "executable file busy"
  | .fileTooLarge => "file too large"
  | .notSeekable => "seek on unseekable file"
  | .readOnlyFilesystem => "read-only filesystem or storage medium"
  | .tooManyLinks => "too many links"
  | .deadlock => "deadlock"
  | .directoryNotEmpty => "directory not empty"
  | .addressInUse => "address in use"
  | .addressNotAvailable => "address not available"
  | .networkDown => "network down"
  | .networkUnreachable => "network unreachable"
  | .connectionAborted => "connection aborted"
  | .connectionReset => "connection reset"
  | .notConnected => "not connected"
  | .connectionRefused => "connection refused"
  | .hostUnreachable => "host unreachable"
  | .inProgress => "in progress"
  | .staleNetworkFileHandle => "stale network file handle"
  | .quotaExceeded => "quota exceeded"
  | .tooManyOpenFiles => "too many open files"
  | .uncategorized => "uncategorized error"

/-- The kind of a system error. -/
def Errno.kind (e : Errno) : FaultKind :=
  match e.code with
  | 1 => .permissionDenied
  | 2 => .notFound
  | 4 => .interrupted
  | 5 => .inputOutputError
  | 7 => .argumentListTooLong
  | 11 => .wouldBlock
  | 12 => .outOfMemory
  | 13 => .permissionDenied
  | 16 => .resourceBusy
  | 17 => .alreadyExists
  | 18 => .crossesDevices
  | 20 => .notADirectory
  | 21 => .isADirectory
  | 22 => .invalidInput
  | 23 => .tooManyOpenFiles
  | 24 => .tooManyOpenFiles
  | 26 => .executableFileBusy
  | 27 => .fileTooLarge
  | 28 => .storageFull
  | 29 => .notSeekable
  | 30 => .readOnlyFilesystem
  | 31 => .tooManyLinks
  | 32 => .brokenPipe
  | 35 => .deadlock
  | 36 => .invalidFilename
  | 38 => .unsupported
  | 39 => .directoryNotEmpty
  | 40 => .filesystemLoop
  | 95 => .unsupported
  | 98 => .addressInUse
  | 99 => .addressNotAvailable
  | 100 => .networkDown
  | 101 => .networkUnreachable
  | 103 => .connectionAborted
  | 104 => .connectionReset
  | 107 => .notConnected
  | 110 => .timedOut
  | 111 => .connectionRefused
  | 113 => .hostUnreachable
  | 115 => .inProgress
  | 116 => .staleNetworkFileHandle
  | 122 => .quotaExceeded
  | _ => .uncategorized

/-- A failed input or output operation. -/
inductive Fault where
  /-- The system answered with an error number. -/
  | system (errno : Errno)
  /-- Only the kind is known. -/
  | plain (kind : FaultKind)
  /-- The failure brings its own text. -/
  | described (kind : FaultKind) (text : String)
  /-- A stream took none of the bytes it was offered. -/
  | tookNothing
  /-- A directory's name holds a zero byte. -/
  | nulInPath
  /-- An argument holds a zero byte, first at this offset. -/
  | nulAt (offset : Nat)
  /-- Some argument holds a zero byte. -/
  | nulInArguments
  /-- There is no program to start. -/
  | emptyCommand
  deriving DecidableEq, Repr

namespace Fault

/-- The kind of a failure. -/
def kind : Fault → FaultKind
  | .system errno => errno.kind
  | .plain kind => kind
  | .described kind _ => kind
  | .tookNothing => .writeZero
  | .nulInPath | .nulAt _ | .nulInArguments | .emptyCommand => .invalidInput

/-- The text of a failure. A system error shows its number too. -/
def message : Fault → String
  | .system errno => errno.text ++ " (os error " ++ toString errno.code ++ ")"
  | .plain kind => kind.text
  | .described _ text => text
  | .tookNothing => "failed to write whole buffer"
  | .nulInPath => "file name contained an unexpected NUL byte"
  | .nulAt offset => "nul byte found in provided data at position: " ++ offset.repr
  | .nulInArguments => "nul byte found in provided data"
  | .emptyCommand => "empty command"

/-- The text of a failure in the pieces it is written in. -/
def pieces : Fault → List String
  | .system errno => [errno.text, " (os error ", toString errno.code, ")"]
  | .nulAt offset => ["nul byte found in provided data at position: ", offset.repr]
  | fault => [fault.message]

/-- The pieces make up the text. -/
theorem join_pieces (fault : Fault) : String.join fault.pieces = fault.message := by
  unfold pieces message
  cases fault <;>
    simp only [String.join_cons, String.join_nil, String.append_empty, String.append_assoc]

end Fault

/-- What a command, or the shell as a whole, fails with. -/
inductive ShellError where
  /-- A command was not given the argument it needs. -/
  | missingArgument (command : String)
  /-- The working directory could not be changed. -/
  | changeDir (fault : Fault)
  /-- A program could not be started. -/
  | launch (fault : Fault)
  /-- A line could not be read. -/
  | read (fault : Fault)
  /-- Output could not be written. -/
  | io (fault : Fault)
  deriving DecidableEq, Repr

namespace ShellError

/-- The text shown for an error. -/
def message : ShellError → String
  | .missingArgument command => "expected argument to \"" ++ command ++ "\""
  | .changeDir fault | .launch fault | .io fault => fault.message
  | .read fault => "failed to read input: " ++ fault.message

/-- The text shown for an error in the pieces it is written in. -/
def pieces : ShellError → List String
  | .missingArgument command => ["expected argument to \"", command, "\""]
  | .changeDir fault | .launch fault | .io fault => fault.pieces
  | .read fault => "failed to read input: " :: fault.pieces

/-- The pieces make up the text. -/
theorem join_pieces (error : ShellError) : String.join error.pieces = error.message := by
  unfold pieces message
  cases error <;>
    simp only [Fault.join_pieces, String.join_cons, String.join_nil, String.append_empty,
      String.append_assoc]

/-- The failed operation inside an error. -/
def fault? : ShellError → Option Fault
  | .missingArgument _ => none
  | .changeDir fault | .launch fault | .read fault | .io fault => some fault

/-- The failure an error came from. An output error is itself the failure, so nothing is behind
it. -/
def source? : ShellError → Option Fault
  | .missingArgument _ | .io _ => none
  | .changeDir fault | .launch fault | .read fault => some fault

end ShellError

end LineShell
