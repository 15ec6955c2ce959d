import LineShell.Fault
import LineShell.Utf8
/-!
# Files and the paths to them

A machine's files form a tree. Names and paths are octets. A place in the tree is given by the names
that lead there from the root, none of them a link. `FileTree.locate` finds the place that a path leads to: it goes name by name,
refuses to look for a name inside what is not a directory, and follows links, but only so many.
Each link that is followed is counted, so the walk ends even where links run in a circle.
-/

namespace LineShell

/-- The programs a machine has. -/
inductive Utility where
  /-- Does nothing and succeeds. -/
  | succeed
  /-- Does nothing and fails. -/
  | fail
  | echo
  | printf
  | pwd
  /-- Runs the command language. -/
  | sh
  deriving DecidableEq, Repr

/-- A file that is no place to keep anything. -/
inductive SpecialFile where
  /-- Holds nothing and takes everything. -/
  | null
  /-- Has no room for what is written to it. -/
  | full
  /-- Holds zeros without end and takes everything. -/
  | zero
  /-- The terminal that a process belongs to; there is none. -/
  | terminal
  /-- What the process that opens it has under a number. -/
  | descriptor (number : Nat)
  deriving DecidableEq, Repr

/-- A file or a directory with all it holds. -/
inductive FileTree where
  | directory (entries : List (String × FileTree))
  | program (utility : Utility)
  | file (content : Bytes) (executable : Bool)
  | link (target : String)
  | device (kind : SpecialFile)

/-- A place: the names that lead there from the root. -/
abbrev Location := List String

/-- The path of a place. -/
def Location.path (location : Location) : String := "/" ++ "/".intercalate location

namespace FileTree

/-- How many links are followed on the way to one place. -/
def linkLimit : Nat := 40

/-- The longest name, in bytes. -/
def nameLimit : Nat := 255

/-- A path must be shorter than this, in bytes. -/
def pathLimit : Nat := 4096

/-- What a directory holds under a name. -/
def child? : FileTree → String → Option FileTree
  | .directory entries, name => entries.lookup name
  | _, _ => none

/-- Whether it can be searched for names. -/
def isDirectory : FileTree → Bool
  | .directory _ => true
  | _ => false

/-- What is at a place. -/
def get? : FileTree → Location → Option FileTree
  | tree, [] => some tree
  | tree, name :: rest =>
    match tree.child? name with
    | some below => below.get? rest
    | none => none

/-- Puts something at a place, in a directory that is there. -/
def put : FileTree → Location → FileTree → FileTree
  | _, [], new => new
  | .directory entries, name :: rest, new =>
    match entries.lookup name with
    | some below =>
      .directory (entries.map fun entry =>
        if entry.1 = name then (name, below.put rest new) else entry)
    | none => .directory (if rest.isEmpty then entries ++ [(name, new)] else entries)
  | tree, _ :: _, _ => tree

/-- The names a path goes through. A path that ends in a slash must lead to a directory, which the
last name then asks for. -/
def namesOn (path : String) : List String :=
  let names := ((path.toList.splitOn '/').filter (!·.isEmpty)).map String.ofList
  if path.toList.getLast? = some '/' then names ++ ["."] else names

/-- Where a path leads. -/
inductive Found where
  /-- To something. -/
  | place (place : Location)
  /-- To a name that is free in a directory. -/
  | free (directory : Location) (name : String)
  deriving DecidableEq, Repr

/-- Goes from a place along the names of a path; so many more links may be followed. A link that the
path ends in is followed only if `follows` says so. -/
def walk (root : FileTree) (follows : Bool) (links : Nat) (here : Location) (names : List String) :
    Except Errno Found :=
  match names with
  | [] => .ok (.place here)
  | name :: rest =>
    match root.get? here with
    | some (.directory entries) =>
      if name = "." then root.walk follows links here rest
      else if name = ".." then root.walk follows links here.dropLast rest
      else if nameLimit < name.length then .error .nameTooLong
      else
        match entries.lookup name, links with
        | none, _ => if rest = [] then .ok (.free here name) else .error .noEntry
        | some (.link target), links =>
          if rest = [] ∧ !follows then .ok (.place (here ++ [name]))
          else
            match links with
            | 0 => .error .tooManyLinks
            | links + 1 =>
              let start := if target.toList.head? = some '/' then [] else here
              root.walk follows links start (namesOn target ++ rest)
        | some _, links => root.walk follows links (here ++ [name]) rest
    | _ => .error .notDirectory
termination_by (links, names.length)

/-- Where a path leads from a given place. -/
def find (root : FileTree) (follows : Bool) (here : Location) (path : String) :
    Except Errno Found :=
  if path = "" then .error .noEntry
  else if pathLimit ≤ path.length then .error .nameTooLong
  else
    root.walk follows linkLimit (if path.toList.head? = some '/' then [] else here) (namesOn path)

/-- The place a path leads to from a given one. -/
def locate (root : FileTree) (here : Location) (path : String) : Except Errno Location :=
  match root.find true here path with
  | .ok (.place place) => .ok place
  | .ok (.free _ _) => .error .noEntry
  | .error errno => .error errno

/-- Where a path leads at which a file may be made. One that ends in a slash asks for a directory.
-/
def findNew (root : FileTree) (here : Location) (path : String) : Except Errno Found :=
  if path.toList.getLast? = some '/' then
    let front := path.toList.reverse.dropWhile (· == '/')
    let before := String.ofList (front.dropWhile (· != '/')).reverse
    match root.locate here (if before = "" then "." else before) with
    | .ok _ => .error .isDirectory
    | .error errno => .error errno
  else root.find true here path

/-- The names in the directory a path leads to, if it leads to one. -/
def names (root : FileTree) (here : Location) (path : String) : Option (List String) :=
  match root.locate here path with
  | .error _ => none
  | .ok place =>
    match root.get? place with
    | some (.directory entries) => some ("." :: ".." :: entries.map (·.1))
    | _ => none

/-- The directory a path leads to from a given one. -/
def locateDirectory (root : FileTree) (here : Location) (path : String) : Except Fault Location :=
  if path.toList.contains '\x00' then .error .nulInPath
  else
    match root.locate here path with
    | .error errno => .error (.system errno)
    | .ok place =>
      if (root.get? place).any isDirectory then .ok place else .error (.system .notDirectory)

end FileTree

end LineShell
