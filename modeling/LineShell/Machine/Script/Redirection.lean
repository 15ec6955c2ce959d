import LineShell.Machine.Script.Expansion
/-!
# The command language: redirections

A redirection lets a number mean another file, or nothing. What the numbers of a command meant before
is put aside, and comes back when the command is done.
-/

namespace LineShell.Script

/-- Where a redirection leads whose words are known. -/
inductive Aim where
  | file (use : FileUse) (path : String)
  | twin (twin : Twin)
  | text (content : String)
  deriving Repr

/-- A number and where it leads. -/
abbrev Aimed := Nat × Aim

namespace Redirection

/-- Complains that a word is no number of an input or an output. -/
def badNumber {α : Type} : Eval α := do
  modify fun state => { state with line := state.lastLine }
  Eval.fail "Syntax error: Bad fd number"

/-- Finds out where a redirection leads. -/
def aim (substitute : Substitute) : Redirection → Eval Aimed
  | .file use descriptor path => do
    pure (descriptor, .file use (← expandWhole substitute { tilde := true } path))
  | .twin descriptor it => pure (descriptor, .twin it)
  | .twinOf descriptor word => do
    match (← expandWhole substitute { tilde := true } word).toList with
    | ['-'] => pure (descriptor, .twin .closed)
    | [c] =>
      if c.isDigit then pure (descriptor, .twin (.number (c.toNat - '0'.toNat))) else badNumber
    | _ => badNumber
  | .document descriptor expands number => do
    let word := ((← get).documents.lookup number).getD []
    let content ←
      if expands then expandWhole substitute { quoted := true } word
      else pure (Glyph.text (word.filterMap fun
        | .char escaped c => some (.char escaped c)
        | _ => none))
    pure (descriptor, .text content)

/-- What a complaint about a file says of an error. -/
def reason (creates : Bool) (errno : Errno) : String :=
  if errno = .noEntry ∨ errno = .notDirectory then
    if creates then "Directory nonexistent" else "No such file"
  else errno.text

/-- Opens a file for a redirection. -/
def openFor (path : String) (creates : Bool) (access : Access) : Eval Nat := do
  match ← Eval.act (.openFile path access) with
  | .ok descriptor => pure descriptor
  | .error errno =>
    let verb := if creates then "create " else "open "
    Eval.fail ("cannot " ++ verb ++ path ++ ": " ++ reason creates errno)

/-- Opens a file for output that must not be there, unless it is no plain file. -/
def openSparing (path : String) : Eval Nat := do
  let refused : Eval Nat :=
    Eval.fail ("cannot create " ++ path ++ ": " ++ Errno.alreadyThere.text)
  match ← Eval.act (.inspect path true) with
  | .error _ => openFor path true { writes := true, creates := true, fresh := true }
  | .ok status => if status.kind = .regular then refused else openFor path true { writes := true }

/-- Opens what a number is to lead to. The answer is nothing if it leads there already; and no
number if it is to be closed. -/
def opened (descriptor : Nat) : Aim → Eval (Option (Option Nat))
  | .twin (.number n) => pure (if n = descriptor then none else some (some n))
  | .twin .closed => pure (some none)
  | .text content => do
    let (source, target) ← Eval.act (.ask .pipe)
    discard (Eval.act (.say target content))
    Eval.act (.close target)
    pure (some (some source))
  | .file use path => do
    let made ← match use with
      | .input => openFor path false { reads := true }
      | .both => openFor path true { reads := true, writes := true, creates := true }
      | .appended => openFor path true { writes := true, creates := true, appends := true }
      | .forced => openFor path true { writes := true, creates := true, empties := true }
      | .output => do
        if (← get).has 'C' then openSparing path
        else openFor path true { writes := true, creates := true, empties := true }
    pure (some (some made))

/-- Puts aside what a number means. -/
def setAside (descriptor : Nat) : Eval (Option Nat) := do
  match ← Eval.act (Act.setAside descriptor) with
  | .ok kept => do
    Eval.act (.close descriptor)
    pure (some kept)
  | .error _ => pure none

/-- Follows a redirection. What the number meant is put aside if that has not yet been done. -/
def follow (keeps : Bool) (aimed : Aimed) : Eval Unit := do
  let (descriptor, aim) := aimed
  match ← opened descriptor aim with
  | none => pure ()
  | some made? => do
    let state ← get
    match keeps, state.moved with
    | true, frame :: frames =>
      if (frame.lookup descriptor).isNone then
        let kept? ← if made? = some descriptor then pure none else setAside descriptor
        modify fun state => { state with moved := ((descriptor, kept?) :: frame) :: frames }
    | _, _ => pure ()
    match made? with
    | none => Eval.act (.close descriptor)
    | some made =>
      if made ≠ descriptor then
        let failure? ← Eval.act (.duplicate made descriptor)
        match aim, failure? with
        | .twin _, none => pure ()
        | .twin _, some errno => Eval.fail (decimal made ++ ": " ++ errno.text)
        | _, _ => Eval.act (.close made)

/-- Follows redirections for the rest of the process. -/
def followAll (aims : List Aimed) : Eval Unit := aims.forM (follow false)

/-- Lets numbers mean what they meant before the innermost redirections, or forgets what they meant.
-/
def undo (forgets : Bool) : Eval Unit := do
  match (← get).moved with
  | [] => pure ()
  | frame :: frames => do
    for (descriptor, kept?) in frame do
      match kept? with
      | none => if !forgets then Eval.act (.close descriptor)
      | some kept => do
        if !forgets then discard (Eval.act (.duplicate kept descriptor))
        Eval.act (.close kept)
    modify fun state => { state with moved := frames }

/-- Undoes redirections until so many are left. -/
def undoTo (depth : Nat) : Eval Unit := do
  for _ in List.range ((← get).moved.length - depth) do
    undo false

/-- Follows redirections that can be undone, and tells whether that worked. -/
def begin (aims : List Aimed) (isTraced : Bool) : Eval Bool := do
  modify fun state => { state with moved := [] :: state.moved }
  match ← Eval.attempt (aims.forM (follow true)) with
  | .ok () => do
    if isTraced then
      modify fun state =>
        { state with
          traceTo := (((state.moved.head?.bind (·.lookup 2)).getD none)).getD state.traceTo }
    pure true
  | .error .fault => pure false
  | .error halt => throw halt

end Redirection

end LineShell.Script
