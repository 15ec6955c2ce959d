import LineShell.Machine.Octets
/-!
# Text in quotation marks

A text that is told to a person, or to the command language, is put into quotation marks where it has
to be. What cannot be shown is told by its byte.
-/

namespace LineShell.Quoted

/-- The letters that stand for control characters behind a backslash. -/
def controlLetters : List (Char × Char) :=
  [('\x07', 'a'), ('\x08', 'b'), ('\x09', 't'), ('\x0a', 'n'), ('\x0b', 'v'), ('\x0c', 'f'),
    ('\x0d', 'r')]

/-- How a byte is told that cannot be shown, behind a backslash. -/
def told? (c : Char) : Option (List Char) :=
  match controlLetters.lookup c with
  | some letter => some [letter]
  | none =>
    if ' ' ≤ c ∧ c < '\x7f' then none
    else some ([c.toNat / 64, c.toNat / 8 % 8, c.toNat % 8].map Nat.digitChar)

/-- A text in single quotation marks, for a person. -/
def forPerson (text : String) : String :=
  let shown := text.toList.flatMap fun c =>
    match told? c with
    | some code => '\\' :: code
    | none => if c = '\x27' ∨ c = '\\' then ['\\', c] else [c]
  "\x27" ++ String.ofList shown ++ "\x27"

/-! ## For the command language -/

/-- The characters that mean something to a command language. -/
def meaningful : List Char := "?\\'\" !$&()*;<=>[^`|".toList

/-- Whether a character can stay as it is. Some cannot at the front of a word, or alone. -/
def isPlain (isFirst isAlone : Bool) (c : Char) : Bool :=
  (told? c).isNone && !meaningful.contains c && !(isFirst && (c = '#' || c = '~'))
    && !(isAlone && (c = '{' || c = '}'))

/-- Whether a character means the same in double quotation marks as outside of all. -/
def isTame (isFirst isAlone : Bool) (c : Char) : Bool :=
  if c = '#' ∨ c = '~' then isFirst
  else if c = '{' ∨ c = '}' then isAlone
  else c = ' ' || c = '\x27' || isPlain false false c

/-- The characters of a text in single quotation marks. What cannot be shown stands in marks of its
own, with a dollar sign in front. -/
def inSingle (isTelling : Bool) : List Char → List Char
  | [] => []
  | c :: rest =>
    match told? c with
    | some code =>
      (if isTelling then [] else ['\x27', '$', '\x27']) ++ '\\' :: code ++ inSingle true rest
    | none =>
      if c = '\x27' then '\x27' :: '\\' :: '\x27' :: '\x27' :: inSingle false rest
      else (if isTelling then ['\x27', '\x27'] else []) ++ c :: inSingle false rest

/-- A text as the command language reads it. -/
def forCommands (text : String) : String :=
  let cs := text.toList
  let isAlone := cs.length = 1
  let all := fun (test : Bool → Bool → Char → Bool) =>
    (cs.take 1).all (test true isAlone) && (cs.drop 1).all (test false isAlone)
  if !cs.isEmpty && all isPlain then text
  else if cs.contains '\x27' && all isTame then "\"" ++ text ++ "\""
  else "\x27" ++ String.ofList (inSingle false cs) ++ "\x27"

end LineShell.Quoted
