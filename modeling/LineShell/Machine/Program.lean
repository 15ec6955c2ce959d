import LineShell.Errno
import LineShell.Machine.Octets
import LineShell.Process.Wait
/-!
# What a process does

A process either ends or asks something of the system and goes on with the answer. `Program` is this
and nothing else: how a process goes on after a fork is the same in both processes, which learn from
the answer which of them they are. `Act` is a part of a program that comes to a value.
-/

namespace LineShell

/-- What a process does when a signal reaches it. -/
inductive Handling where
  /-- What the signal does to those that are not prepared for it. -/
  | standard
  | ignored
  /-- The signal is noted for the process to ask for. -/
  | noted
  deriving DecidableEq, Repr

/-- How a file is opened. -/
structure Access where
  reads : Bool := false
  writes : Bool := false
  /-- Whether the file is made if it is not there. -/
  creates : Bool := false
  /-- Whether the file must not be there before. -/
  fresh : Bool := false
  /-- Whether what the file held is dropped. -/
  empties : Bool := false
  /-- Whether what is written goes to the end. -/
  appends : Bool := false
  deriving DecidableEq, Repr

/-- The kinds of files that are told apart. -/
inductive FileKind where
  | directory
  | regular
  | link
  | device
  | pipe
  deriving DecidableEq, Repr

/-- What can be learned of a file. -/
structure FileStatus where
  kind : FileKind
  /-- The number that only this file has. -/
  place : List String
  size : Nat
  executable : Bool
  deriving DecidableEq, Repr

/-- The variables that a process hands on, with their values. -/
abbrev Environment := List (String × String)

/-- How long a process waits for something. -/
inductive Patience where
  /-- Not at all. -/
  | none
  /-- Until it comes, or a signal is noted. -/
  | some
  /-- Until it comes. -/
  | endless
  deriving DecidableEq, Repr

/-- A request of the system. Paths, arguments and variables are octets. -/
inductive Demand where
  /-- Tell the signals that were noted since this was last asked, and let others go on. -/
  | noted
  | write (descriptor : Nat) (bytes : Bytes)
  /-- Read at most so many bytes; none means the end. -/
  | read (descriptor most : Nat) (patience : Patience)
  | openFile (path : String) (access : Access)
  | close (descriptor : Nat)
  /-- Let a second number mean what a first one means. -/
  | duplicate (source target : Nat)
  /-- Let a number that is not used by others mean what another one means, but not for programs. -/
  | setAside (source : Nat)
  /-- Make a pipe: a number to read from it and one to write to it. -/
  | pipe
  | changeDir (path : String)
  /-- Tell the path of the directory. -/
  | tellDir
  | names (path : String)
  | inspect (path : String) (follows : Bool)
  /-- Send a signal to a process, or to more than one. -/
  | send (target : Int) (signal : Nat)
  /-- Let a signal reach the process itself. -/
  | raise (signal : Nat)
  | handle (signal : Nat) (handling : Handling)
  /-- Tell what new files must not be allowed, and perhaps change it. -/
  | mask (new? : Option Nat)
  /-- Go on as two processes: the new one gets no answer, the old one the number of the new. -/
  | fork
  /-- Wait for the end of a child. -/
  | wait (patience : Patience)
  /-- Become the program in a file. There is an answer only if that fails. -/
  | become (path : String) (args : List String) (environment : Environment)

/-- What comes of waiting for a child. -/
inductive Waited where
  | ended (child : Pid) (change : Change)
  /-- No child has ended yet. -/
  | nothing
  | childless
  /-- A signal was noted in the meantime. -/
  | interrupted
  deriving DecidableEq, Repr

/-- The answer to a request. -/
def Demand.Reply : Demand → Type
  | .write _ _ | .duplicate _ _ | .changeDir _ | .send _ _ => Option Errno
  | .close _ | .handle _ _ | .raise _ => Unit
  | .read _ _ _ => Except Errno Bytes
  | .openFile _ _ | .setAside _ => Except Errno Nat
  | .pipe => Nat × Nat
  | .tellDir => String
  | .names _ => Option (List String)
  | .inspect _ _ => Except Errno FileStatus
  | .noted => List Nat
  | .mask _ => Nat
  | .fork => Option Pid
  | .wait _ => Waited
  | .become _ _ _ => Errno

/-- What a process does from some point on. -/
inductive Program where
  | ended (status : Nat)
  | asks (demand : Demand) (next : demand.Reply → Program)

/-- A part of a program that comes to a value, given how the program goes on with it. -/
def Act (α : Type) : Type := (α → Program) → Program

namespace Act

instance : Monad Act where
  pure a := fun next => next a
  bind act f := fun next => act fun a => f a next

/-- Asks something of the system. -/
def ask (demand : Demand) : Act demand.Reply := fun next => .asks demand next

/-- Ends the process. -/
def exit {α : Type} (status : Nat) : Act α := fun _ => .ended status

/-- Writes bytes, if there are any. -/
def write (descriptor : Nat) (bytes : Bytes) : Act (Option Errno) :=
  if bytes.isEmpty then pure none else ask (.write descriptor bytes)

/-- Writes a text of octets. -/
def say (descriptor : Nat) (octets : String) : Act (Option Errno) :=
  write descriptor (Octets.toBytes octets)

/-- Opens a file under the lowest number that is free. -/
def openFile (path : String) (access : Access) : Act (Except Errno Nat) :=
  ask (.openFile path access)

/-- Learns of a file. -/
def inspect (path : String) (follows : Bool) : Act (Except Errno FileStatus) :=
  ask (.inspect path follows)

/-- Reads a portion of bytes. -/
def read (descriptor most : Nat) (patience : Patience) : Act (Except Errno Bytes) :=
  ask (.read descriptor most patience)

/-- The names in the directory a path leads to, if it leads to one. -/
def names (path : String) : Act (Option (List String)) := ask (.names path)

/-- Changes to a directory. -/
def changeDir (path : String) : Act (Option Errno) := ask (.changeDir path)

/-- Tells the path of the directory. -/
def tellDir : Act String := ask .tellDir

/-- Tells what new files must not be allowed, and perhaps changes it. -/
def mask (new? : Option Nat) : Act Nat := ask (.mask new?)

/-- Lets a second number mean what a first one means. -/
def duplicate (source target : Nat) : Act (Option Errno) := ask (.duplicate source target)

/-- Lets a number that is not used by others mean what another one means. -/
def setAside (source : Nat) : Act (Except Errno Nat) := ask (.setAside source)

/-- Closes what is open under a number. -/
def close (descriptor : Nat) : Act Unit := ask (.close descriptor)

/-- Goes on as two processes. -/
def fork : Act (Option Pid) := ask .fork

/-- Waits for the end of a child. -/
def wait (patience : Patience) : Act Waited := ask (.wait patience)

/-- Sends a signal to a process, or to more than one. -/
def send (target : Int) (signal : Nat) : Act (Option Errno) := ask (.send target signal)

/-- Decides what the process does when a signal reaches it. -/
def handle (signal : Nat) (handling : Handling) : Act Unit := ask (.handle signal handling)

/-- Tells the signals that were noted since this was last asked. -/
def noted : Act (List Nat) := ask .noted

/-- Lets a signal reach the process itself. -/
def raise (signal : Nat) : Act Unit := ask (.raise signal)

/-- Becomes the program in a file, or learns why not. -/
def become (path : String) (args : List String) (environment : Environment) : Act Errno :=
  ask (.become path args environment)

/-- The program of an act that ends with a status. -/
def toProgram (act : Act Nat) : Program := act .ended

end Act

instance : LawfulMonad Act := LawfulMonad.mk' Act (fun _ => rfl) (fun _ _ => rfl) fun _ _ _ => rfl

/-- What a program is started with. -/
structure Image where
  /-- Its name and arguments. -/
  args : List String
  environment : Environment
  pid : Pid
  parent : Pid
  /-- The signals that are ignored. -/
  ignored : List Nat

end LineShell
