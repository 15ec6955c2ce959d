import LineShell.Machine.Script.State
/-!
# The command language: options of its commands

Options are letters behind a dash, which can stand together. Some take a value: the rest of the word,
or the next one. Two dashes, or a word that is no option, end them.
-/

namespace LineShell.Script

/-- The options of a command: letters, and those among them that take a value. -/
structure OptionLetters where
  letters : List Char
  valued : List Char := []

/-- An option that was given, with its value if it takes one. -/
abbrev GivenOption := Char × String

namespace OptionLetters

/-- What the letters of a word make: options, and whether the last one still takes a value; or a
complaint. -/
def ofLetters (known : OptionLetters) : List Char → Except String (List GivenOption × Option Char)
  | [] => .ok ([], none)
  | c :: rest =>
    if known.valued.contains c then
      if rest.isEmpty then .ok ([], some c) else .ok ([(c, String.ofList rest)], none)
    else if known.letters.contains c then
      (ofLetters known rest).map fun (more, open?) => ((c, "") :: more, open?)
    else .error ("Illegal option -" ++ String.singleton c)

/-- Takes the options off arguments. -/
def take (known : OptionLetters) :
    List String → Except String (List GivenOption × List String)
  | [] => .ok ([], [])
  | "--" :: args => .ok ([], args)
  | word :: args =>
    match word.toList with
    | '-' :: c :: letters =>
      match known.ofLetters (c :: letters) with
      | .error complaint => .error complaint
      | .ok (options, none) =>
        (known.take args).map fun (more, rest) => (options ++ more, rest)
      | .ok (options, some open?) =>
        match args with
        | [] => .error ("No arg for -" ++ String.singleton open? ++ " option")
        | value :: args =>
          (known.take args).map fun (more, rest) => (options ++ (open?, value) :: more, rest)
    | _ => .ok ([], word :: args)

end OptionLetters

namespace Eval

/-- Takes the options off the arguments of a command. -/
def options (letters valued : List Char) (args : List String) :
    Eval (List GivenOption × List String) := do
  match OptionLetters.take { letters, valued } args with
  | .ok found => pure found
  | .error complaint => fail complaint

/-- Takes off the arguments of a command what ends its options, of which it has none. -/
def noOptions (args : List String) : Eval (List String) := do
  pure (← options [] [] args).2

end Eval

/-- The text in quotes that the command language reads as the same text. -/
def quotedForScript (text : String) : String :=
  let rec go : List Char → Option Char → List Char
    | [], none => []
    | [], some open? => [open?]
    | c :: rest, open? =>
      let mark := if c = '\x27' then '\x22' else '\x27'
      if open? = some mark then c :: go rest open?
      else open?.toList ++ mark :: c :: go rest (some mark)
  let quoted := go text.toList none
  String.ofList (if text.toList.head? = some '\x27' then '\x27' :: '\x27' :: quoted
    else if quoted.isEmpty then ['\x27', '\x27'] else quoted)

end LineShell.Script
