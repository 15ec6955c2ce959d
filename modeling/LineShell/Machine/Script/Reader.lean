import LineShell.Machine.Script.Syntax
/-!
# The command language: reading characters

A script is read character by character. A backslash before a line end joins two lines. The text of
an alias is read in place of its name; a sign behind it, which is no octet, tells where it ends. What
is read may be only the beginning of a script, of which more comes when it is asked for.
-/

namespace LineShell.Script

/-- Why reading stops. -/
inductive Stop where
  /-- More of the script is needed. -/
  | wanting
  /-- Something is wrong in a line, with so much of the script left. -/
  | wrong (line : Nat) (left : List Char) (text : String)
  /-- Commands are nested too deep. -/
  | tooDeep

/-- The words of the language itself. -/
inductive Keyword where
  | bang
  | case
  | do
  | done
  | elif
  | else
  | esac
  | fi
  | for
  | if
  | in
  | then
  | until
  | while
  | opening
  | closing
  deriving DecidableEq, Repr

/-- The keywords as they are written. -/
def Keyword.spellings : List (String × Keyword) :=
  [("!", .bang), ("case", .case), ("do", .do), ("done", .done), ("elif", .elif), ("else", .else),
    ("esac", .esac), ("fi", .fi), ("for", .for), ("if", .if), ("in", .in), ("then", .then),
    ("until", .until), ("while", .while), ("\x7b", .opening), ("\x7d", .closing)]

/-- How a keyword is written. -/
def Keyword.spelling (keyword : Keyword) : String :=
  ((Keyword.spellings.find? (·.2 = keyword)).map (·.1)).getD ""

/-- A unit of a script. -/
inductive Token where
  | endOfFile
  | newline
  | semicolon
  | background
  | and
  | or
  | pipe
  | open
  | close
  | endCase
  | redirection
  | word
  | keyword (keyword : Keyword)
  deriving DecidableEq, Repr

/-- How a token is shown in a complaint. -/
def Token.shown : Token → String
  | .endOfFile => "end of file"
  | .newline => "newline"
  | .semicolon => "\";\""
  | .background => "\"&\""
  | .and => "\"&&\""
  | .or => "\"||\""
  | .pipe => "\"|\""
  | .open => "\"(\""
  | .close => "\")\""
  | .endCase => "\";;\""
  | .redirection => "redirection"
  | .word => "word"
  | .keyword it => "\"" ++ it.spelling ++ "\""

/-- The sign of a redirection. -/
inductive Sign where
  | file (use : FileUse) (descriptor : Nat)
  | twin (descriptor : Nat)
  /-- A text behind the line; whether it is stripped of tabs. -/
  | document (descriptor : Nat) (strips : Bool)
  deriving DecidableEq, Repr

/-- A text in the script that is to be read behind the line that asks for it. -/
structure Awaited where
  number : Nat
  /-- The line that ends it. -/
  ending : List Char
  /-- Whether parameters are put into it. -/
  expands : Bool
  /-- Whether tabs in front of its lines do not belong to it. -/
  strips : Bool
  deriving Repr

/-- How far a script has been read. -/
structure Reader where
  rest : List Char
  line : Nat := 1
  /-- Whether nothing can follow the rest. -/
  isWhole : Bool := true
  /-- The last token, and whether it is to be read again. -/
  token : Token := .newline
  again : Bool := false
  /-- The last word, and whether something in it is quoted. -/
  word : Word := []
  quoted : Bool := false
  /-- The last sign of a redirection. -/
  sign : Sign := .twin 0
  /-- The texts that are to be read behind this line, and those that were read. -/
  awaited : List Awaited := []
  documents : List (Nat × Word) := []
  nextDocument : Nat := 0
  aliases : List (String × String) := []
  /-- The aliases whose text is being read, and whether it ends in a blank. -/
  inUse : List (String × Bool) := []
  /-- Whether the next word may be an alias, because the text of one ended in a blank. -/
  aliasMayFollow : Bool := false

/-- A part of reading a script. -/
abbrev Parse := StateT Reader (Except Stop)

/-- The sign behind the text of an alias. -/
def aliasEnd : Char := Char.ofNat 256

namespace Reader

/-- Passes over the ends of aliases. -/
def behindAliases (reader : Reader) : Reader :=
  let ends := reader.rest.takeWhile (· = aliasEnd)
  if ends.isEmpty then reader
  else
    { reader with
      rest := reader.rest.drop ends.length
      inUse := reader.inUse.drop ends.length
      aliasMayFollow := reader.aliasMayFollow || (reader.inUse.take ends.length).any (·.2) }

/-- Passes over joined line ends: how many there were, and what is behind them. -/
def joins : Nat → List Char → Nat × List Char
  | n, '\\' :: '\n' :: rest => joins (n + 1) rest
  | n, rest => (n, rest)

/-- Passes over joined line ends and ends of aliases. -/
def behindJoins (reader : Reader) : Reader :=
  let reader := reader.behindAliases
  let (n, rest) := joins 0 reader.rest
  if n = 0 then reader else { reader with rest, line := reader.line + n }

end Reader

namespace Parse

/-- Stops because something is wrong. -/
def fail {α : Type} (text : String) : Parse α := fun reader =>
  .error (.wrong reader.line reader.rest ("Syntax error: " ++ text))

/-- Whether the rest may go on differently than it seems. -/
def wants (rest : List Char) : Bool := rest.isEmpty || rest == ['\\']

/-- The next character, which stays. -/
def peek : Parse (Option Char) := fun reader =>
  let reader := reader.behindAliases
  if reader.rest.isEmpty && !reader.isWhole then .error .wanting
  else .ok (reader.rest.head?, reader)

/-- The next character behind joined line ends, which stays. -/
def peekJoined : Parse (Option Char) := fun reader =>
  let reader := reader.behindJoins
  if wants reader.rest && !reader.isWhole then .error .wanting
  else .ok (reader.rest.head?, reader)

/-- Goes on behind the next character. -/
def skip : Parse Unit := modify fun reader => { reader with rest := reader.rest.drop 1 }

/-- Notes that a line has ended. -/
def countLine : Parse Unit := modify fun reader => { reader with line := reader.line + 1 }

/-- Passes over the next character behind joined line ends if it is a given one, and tells whether
it was. -/
def accept (c : Char) : Parse Bool := do
  if (← peekJoined) = some c then
    skip
    pure true
  else pure false

/-- How often something can be repeated while a script is read. -/
def patience : Nat := 1000000000

/-- Repeats a step until it comes to a result. -/
def iterate {α β : Type} (step : α → Parse (α ⊕ β)) : Nat → α → Parse β
  | 0, _ => throw .tooDeep
  | fuel + 1, a => do
    match ← step a with
    | .inl a => iterate step fuel a
    | .inr b => pure b

end Parse

end LineShell.Script
