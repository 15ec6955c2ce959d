import LineShell.Machine.Octets
/-!
# The command language: its form

A script is made of commands, commands of words and redirections, and words of characters and of
what a dollar sign or a backquote asks for. Text is octets.
-/

namespace LineShell.Script

/-- Which end of a value a pattern is taken off, and how much of it. -/
structure Trim where
  atEnd : Bool
  longest : Bool
  deriving DecidableEq, Repr

/-- Where an output or an input with a number goes that is the same as another one's. -/
inductive Twin where
  | number (n : Nat)
  /-- Nowhere: it is closed. -/
  | closed
  deriving DecidableEq, Repr

/-- How a file is used that a redirection names. -/
inductive FileUse where
  | input
  | output
  /-- Output, even onto a file that must be spared. -/
  | forced
  | appended
  | both
  deriving DecidableEq, Repr

mutual

/-- A part of a word. -/
inductive Part where
  /-- A character, and whether it stands for nothing but itself. -/
  | char (escaped : Bool) (char : Char)
  /-- A quotation mark. -/
  | mark
  | parameter (name : String) (form : Form)
  /-- The output of commands, if there are any. -/
  | substitution (script : Option Command)
  /-- The value of an expression. -/
  | arithmetic (expression : List Part)

/-- How a parameter is asked for. -/
inductive Form where
  | plain
  | length
  /-- A form that there is not. -/
  | bad
  /-- Its value, or else a word. -/
  | orElse (colon : Bool) (word : List Part)
  /-- Its value, or else a word that becomes its value. -/
  | orAssign (colon : Bool) (word : List Part)
  /-- Its value, or else a complaint. -/
  | orFail (colon : Bool) (word : List Part)
  /-- A word, if it has a value. -/
  | andThen (colon : Bool) (word : List Part)
  /-- Its value without what a pattern matches. -/
  | trimmed (trim : Trim) (pattern : List Part)

/-- Where an output or an input with a number goes. -/
inductive Redirection where
  | file (use : FileUse) (descriptor : Nat) (path : List Part)
  | twin (descriptor : Nat) (twin : Twin)
  /-- The number is to be found in a word. -/
  | twinOf (descriptor : Nat) (word : List Part)
  /-- A text in the script, by the number it has there, and whether parameters are put into it. -/
  | document (descriptor : Nat) (expands : Bool) (number : Nat)

/-- A command. -/
inductive Command where
  /-- Values for variables, words and redirections; with the line in which they begin. -/
  | simple (line : Nat) (assignments words : List (List Part)) (redirections : List Redirection)
  /-- Commands each of which reads what the one before it writes. -/
  | pipeline (background : Bool) (commands : List Command)
  | redirected (line : Nat) (body : Command) (redirections : List Redirection)
  | background (line : Nat) (body : Command) (redirections : List Redirection)
  | subshell (line : Nat) (body : Command) (redirections : List Redirection)
  | both (first second : Command)
  | either (first second : Command)
  | sequence (first second : Command)
  | negated (body : Command)
  | choice (test yes : Command) (no : Option Command)
  /-- Repeats a body while, or until, a test succeeds. -/
  | loop (isUntil : Bool) (test body : Command)
  /-- Runs a body with a variable set to each of some words. -/
  | each (line : Nat) (variableName : String) (words : List (List Part)) (body : Command)
  | cases (line : Nat) (subject : List Part) (branches : List Branch)
  | definition (line : Nat) (name : String) (body : Command)

/-- A branch of a command that chooses by patterns. -/
inductive Branch where
  | mk (patterns : List (List Part)) (body : Option Command)

end

/-- A word before its parameters are known. -/
abbrev Word := List Part

/-- Whether a name can begin with a character. -/
def beginsName (c : Char) : Bool := c.isAlpha || c = '_'

/-- Whether a name can go on with a character. -/
def continuesName (c : Char) : Bool := c.isAlphanum || c = '_'

/-- Whether characters are a name. -/
def isName (cs : List Char) : Bool := cs.head?.any beginsName && cs.all continuesName

/-- The character that a part is, if it is one that is not escaped. -/
def Part.plain? : Part → Option Char
  | .char false c => some c
  | _ => none

/-- The characters at the front of a word that are neither quoted nor asked for. -/
def Word.front (word : Word) : List Char :=
  (word.takeWhile (·.plain?.isSome)).filterMap Part.plain?

/-- The characters of a word that is nothing else, if it is nothing else. -/
def Word.bare? (word : Word) : Option (List Char) :=
  if word.all (·.plain?.isSome) then some (word.filterMap Part.plain?) else none

/-- The name that a word gives a value to, if it does. -/
def Word.assigned? (word : Word) : Option String :=
  let front := word.front
  let name := front.takeWhile (· != '=')
  if name.length < front.length ∧ isName name then some (String.ofList name) else none

/-- A word of characters that stand for themselves. -/
def Word.ofString (text : String) : Word := text.toList.map (.char true)

end LineShell.Script
