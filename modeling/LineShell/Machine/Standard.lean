import LineShell.Machine.Exec
/-!
# A small machine

The files that a machine has at least: its programs, the places for temporary files and devices.
-/

namespace LineShell.Machine

/-- The programs of a small machine. -/
def programs : List (String × FileTree) :=
  [("echo", .program .echo), ("false", .program .fail), ("printf", .program .printf),
    ("pwd", .program .pwd), ("sh", .program .sh), ("true", .program .succeed)]

/-- The devices that stand for what a process has open under a number. -/
def numberDevices : List (String × FileTree) :=
  (List.range 10).map fun number => (number.repr, .device (.descriptor number))

/-- The devices of a small machine. -/
def devices : List (String × FileTree) :=
  [("fd", .directory numberDevices), ("full", .device .full), ("null", .device .null),
    ("stderr", .device (.descriptor 2)), ("stdin", .device (.descriptor 0)),
    ("stdout", .device (.descriptor 1)), ("tty", .device .terminal), ("zero", .device .zero)]

/-- The files of a small machine, with further ones at the root. -/
def standardFiles (further : List (String × FileTree)) : FileTree :=
  .directory
    ([("bin", .link "usr/bin"), ("dev", .directory devices), ("tmp", .directory []),
      ("usr", .directory [("bin", .directory programs)])] ++ further)

/-- A small machine with further files at the root. -/
def standard (further : List (String × FileTree)) (outIsFull : Bool) : Machine where
  files := standardFiles further
  searchPath :=
    ["/usr/local/sbin", "/usr/local/bin", "/usr/sbin", "/usr/bin", "/sbin", "/bin"]
  outIsFull

end LineShell.Machine
