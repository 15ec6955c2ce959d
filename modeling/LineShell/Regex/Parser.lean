import LineShell.CharClass
import LineShell.Regex.Basic
/-!
# How regular expressions are written

`Regex.ofText?` reads an expression: branches between bars, groups in parentheses, classes in
brackets, signs of repetition behind what they repeat, and escapes. A counted repetition needs a
closing brace. An expression in which something is missing, out of place or unknown cannot be read.
-/

namespace LineShell.Regex

/-- What is left to read, and what was found that matters to it. -/
structure Reader where
  rest : List Char
  /-- Whether blanks and comments between the parts are passed over. -/
  ignoresBlanks : Bool := false
  /-- The names of the groups so far. -/
  names : List (List Char) := []

namespace Reader

/-- Characters behind the blanks and comments in front of them. -/
def behindBlanks (isComment : Bool) : List Char → List Char
  | [] => []
  | c :: cs =>
    if isComment then behindBlanks (c != '\n') cs
    else if CharClass.isBlank c then behindBlanks false cs
    else if c = '#' then behindBlanks true cs
    else c :: cs

/-- Passes over blanks and comments, if they are passed over. -/
def skip (reader : Reader) : Reader :=
  if reader.ignoresBlanks then { reader with rest := behindBlanks false reader.rest } else reader

/-- Goes on behind so many characters. -/
def drop (reader : Reader) (n : Nat) : Reader := { reader with rest := reader.rest.drop n }

/-- The next character behind the one that is read, where blanks do not count. -/
def second? (reader : Reader) : Option Char :=
  let rest := reader.rest.drop 1
  if reader.ignoresBlanks then
    match rest.dropWhile CharClass.isBlank with
    | '#' :: behind => (behind.dropWhile CharClass.isBlank).head?.or rest.head?
    | [] => rest.head?
    | c :: _ => some c
  else rest.head?

end Reader

/-! ## Escapes -/

/-- Whether a character has a meaning of its own. -/
def isMeta (c : Char) : Bool := "\\.+*?()|[]\x7b\x7d^$#&-~".toList.contains c

/-- Whether a character can be escaped and then stands for itself. -/
def isEscapable (c : Char) : Bool :=
  isMeta c || (c.toNat < 128 && !c.isAlphanum && c != '<' && c != '>')

/-- Whether a character is a hexadecimal digit. -/
def isHexDigit (c : Char) : Bool :=
  c.isDigit || ('a' ≤ c && c ≤ 'f') || ('A' ≤ c && c ≤ 'F')

/-- The value of a hexadecimal digit. -/
def hexDigitValue (c : Char) : Nat :=
  if c.isDigit then c.toNat - '0'.toNat else c.toLower.toNat - 'a'.toNat + 10

/-- Reads so many hexadecimal digits and the blanks behind them, onto a value. -/
def hexDigits? : Nat → Nat → Reader → Option (Nat × Reader)
  | 0, value, reader => some (value, reader)
  | count + 1, value, reader =>
    match reader.rest with
    | [] => none
    | c :: _ =>
      if isHexDigit c then
        hexDigits? count (value * 16 + hexDigitValue c) (reader.drop 1).skip
      else none

/-- Reads the digits of a character, behind the letter that announces them. -/
def hexLiteral? (count : Nat) (reader : Reader) : Option (Literal × Reader) :=
  (hexDigits? count 0 reader.skip).bind fun (value, reader) =>
    if value.isValidChar then some (⟨Char.ofNat value, count = 2⟩, reader) else none

/-- The character that a letter stands for behind a backslash. -/
def control? : Char → Option Char
  | 'a' => some '\x07'
  | 'f' => some '\x0c'
  | 't' => some '\t'
  | 'n' => some '\n'
  | 'r' => some '\r'
  | 'v' => some '\x0b'
  | _ => none

/-- Reads an escape, behind its backslash. -/
def escape? (reader : Reader) : Option (Regex × Reader) :=
  match reader.rest with
  | [] => none
  | c :: _ =>
    let reader := reader.drop 1
    let hex := fun count => (hexLiteral? count reader).map fun (l, reader) => (literal l, reader)
    if c = 'x' then hex 2
    else if c = 'u' then hex 4
    else if c = 'U' then hex 8
    else if c = 'p' ∨ c = 'P' then some (.property, reader)
    else if ['d', 's', 'w'].contains c then some (.shorthand false, reader)
    else if ['D', 'S', 'W'].contains c then some (.shorthand true, reader)
    else if isEscapable c then some (.literal ⟨c, false⟩, reader)
    else if c = 'A' ∨ c = 'z' then some (.edge, reader)
    else if ['b', 'B', '<', '>'].contains c then some (.wordEdge, reader)
    else (control? c).map fun c => (.literal ⟨c, false⟩, reader)

/-! ## Classes -/

/-- The names of classes. -/
def classNames : List String :=
  ["alnum", "alpha", "ascii", "blank", "cntrl", "digit", "graph", "lower", "print", "punct",
    "space", "upper", "word", "xdigit"]

/-- Reads a class that has a name, behind its bracket. -/
def namedClass? (reader : Reader) : Option (ClassItem × Reader) :=
  match reader.rest with
  | ':' :: rest =>
    let negated := rest.head? == some '^'
    let rest := rest.drop negated.toNat
    let name := rest.takeWhile (· != ':')
    match rest.drop name.length with
    | ':' :: ']' :: behind =>
      if classNames.contains (String.ofList name) then
        some (.named negated, { reader with rest := behind })
      else none
    | _ => none
  | _ => none

/-- Reads a part of a class that is no bracket. -/
def classPart? (reader : Reader) : Option (Regex × Reader) :=
  match reader.rest with
  | [] => none
  | '\\' :: _ => escape? (reader.drop 1)
  | c :: _ => some (.literal ⟨c, false⟩, reader.drop 1)

/-- The part of a class that a part of an expression is. Edges are none. -/
def classItem? : Regex → Option ClassItem
  | .literal l => some (.literal l)
  | .shorthand negated => some (.shorthand negated)
  | .property => some .property
  | _ => none

/-- Reads a part of a class, or a range from one to another. -/
def classRange? (reader : Reader) : Option (ClassItem × Reader) :=
  (classPart? reader).bind fun (low, reader) =>
    let reader := reader.skip
    match reader.rest with
    | [] => none
    | c :: _ =>
      if c ≠ '-' ∨ reader.second? = some ']' ∨ reader.second? = some '-' then
        (classItem? low).map (·, reader)
      else
        (classPart? (reader.drop 1).skip).bind fun (high, reader) =>
          match low, high with
          | .literal low, .literal high =>
            if low.char ≤ high.char then some (.range low high, reader) else none
          | _, _ => none

/-- Reads the dashes that stand for themselves at the beginning of a class. -/
def leadingDashes (reader : Reader) : Nat → List ClassItem × Reader
  | 0 => ([], reader)
  | fuel + 1 =>
    match reader.rest with
    | '-' :: _ =>
      let (items, reader) := leadingDashes (reader.drop 1).skip fuel
      (.literal ⟨'-', false⟩ :: items, reader)
    | _ => ([], reader)

/-- Reads the beginning of a class, behind its bracket: whether it is negated, and what stands
there for itself. -/
def classStart (reader : Reader) : Bool × List ClassItem × Reader :=
  let reader := reader.skip
  let negated := reader.rest.head? == some '^'
  let reader := if negated then (reader.drop 1).skip else reader
  let (items, reader) := leadingDashes reader reader.rest.length
  match items, reader.rest with
  | [], ']' :: _ => (negated, [.literal ⟨']', false⟩], (reader.drop 1).skip)
  | items, _ => (negated, items, reader)

/-- A set that stands behind another one and an operation, if there is one. -/
def ClassSet.after (left? : Option ClassSet) (items : List ClassItem) : ClassSet :=
  match left? with
  | none => .item (.join items)
  | some left => .operation left (.item (.join items))

/-- Reads the rest of a class and the bracket behind it. -/
def classSet? (fuel : Nat) (left? : Option ClassSet) (items : List ClassItem) (reader : Reader) :
    Option (ClassSet × Reader) :=
  match fuel with
  | 0 => none
  | fuel + 1 =>
    let reader := reader.skip
    match reader.rest with
    | [] => none
    | ']' :: _ => some (.after left? items, reader.drop 1)
    | '&' :: '&' :: _ | '-' :: '-' :: _ | '~' :: '~' :: _ =>
      classSet? fuel (some (.after left? items)) [] (reader.drop 2)
    | '[' :: _ =>
      match namedClass? (reader.drop 1) with
      | some (item, reader) => classSet? fuel left? (items ++ [item]) reader
      | none =>
        let (negated, first, inner) := classStart (reader.drop 1)
        (classSet? fuel none first inner).bind fun (set, reader) =>
          classSet? fuel left? (items ++ [.bracketed negated set]) reader
    | _ =>
      (classRange? reader).bind fun (item, reader) =>
        classSet? fuel left? (items ++ [item]) reader

/-! ## Groups -/

/-- The flag of a letter. -/
def Flag.ofLetter? : Char → Option Flag
  | 'i' => some .ignoreCase
  | 'm' => some .multiLine
  | 's' => some .dotMatchesNewline
  | 'U' => some .swapGreed
  | 'u' => some .unicode
  | 'R' => some .crlf
  | 'x' => some .ignoreBlanks
  | _ => none

/-- Reads flags up to a colon or a parenthesis, which stays. A dash clears those behind it. -/
def flags? (clears : Bool) (found : Flags) : List Char → Option (Flags × List Char)
  | [] => none
  | c :: rest =>
    if c = ':' ∨ c = ')' then
      if clears && found.cleared.isEmpty then none else some (found, c :: rest)
    else if c = '-' then
      if clears then none else flags? true found rest
    else
      (Flag.ofLetter? c).bind fun flag =>
        if (found.state? flag).isSome then none
        else if clears then flags? clears { found with cleared := flag :: found.cleared } rest
        else flags? clears { found with set := flag :: found.set } rest

/-- Whether characters can be the name of a group. -/
def isGroupName : List Char → Bool
  | [] => false
  | c :: rest =>
    (c == '_' || CharClass.isLetter c)
      && rest.all fun c =>
        c == '_' || c == '.' || c == '[' || c == ']' || CharClass.isAlphanumeric c

/-- Reads the name of a group and the sign behind it. -/
def groupName? (reader : Reader) : Option Reader :=
  let name := reader.rest.takeWhile (· != '>')
  if reader.rest.length = name.length ∨ !isGroupName name ∨ reader.names.contains name then none
  else some { reader with rest := reader.rest.drop (name.length + 1), names := name :: reader.names }

/-- What an opening parenthesis begins. -/
inductive Opening where
  /-- A group with flags of its own. -/
  | group (flags : Flags)
  /-- Flags for the rest of the group around them. -/
  | flags (flags : Flags)

/-- Reads what an opening parenthesis begins, behind it. -/
def opening? (reader : Reader) : Option (Opening × Reader) :=
  let reader := reader.skip
  match reader.rest with
  | '?' :: '!' :: _ | '?' :: '<' :: '!' :: _ | '?' :: '=' :: _ | '?' :: '<' :: '=' :: _ => none
  | '?' :: 'P' :: '<' :: _ => (groupName? (reader.drop 3)).map (.group {}, ·)
  | '?' :: '<' :: _ => (groupName? (reader.drop 2)).map (.group {}, ·)
  | '?' :: rest =>
    (flags? false {} rest).bind fun (found, rest) =>
      let reader := { reader with rest := rest.drop 1 }
      if rest.head? = some ':' then some (.group found, reader)
      else if found.isEmpty then none
      else some (.flags found, reader)
  | _ => some (.group {}, reader)

/-! ## Expressions -/

/-- Puts a sign of repetition behind the last of the parts, of which the last stands first. -/
def repeatLast? : List Regex → Option (List Regex)
  | [] | .empty :: _ | .flags _ :: _ => none
  | part :: parts => some (.repetition part :: parts)

/-- Reads branches up to a closing parenthesis or the end. The finished branches and the parts of
the branch that is read are given with the last first. -/
def branches? (fuel : Nat) (done parts : List Regex) (reader : Reader) : Option (Regex × Reader) :=
  match fuel with
  | 0 => none
  | fuel + 1 =>
    let reader := reader.skip
    let branch := concat parts.reverse
    match reader.rest with
    | [] | ')' :: _ => some (either (branch :: done).reverse, reader)
    | '|' :: _ => branches? fuel (branch :: done) [] (reader.drop 1)
    | '(' :: _ =>
      (opening? (reader.drop 1)).bind fun (opening, inner) =>
        match opening with
        | .flags found =>
          let ignoresBlanks := (found.state? .ignoreBlanks).getD reader.ignoresBlanks
          branches? fuel done (.flags found :: parts) { inner with ignoresBlanks }
        | .group found =>
          let ignoresBlanks := (found.state? .ignoreBlanks).getD reader.ignoresBlanks
          (branches? fuel [] [] { inner with ignoresBlanks }).bind fun (body, behind) =>
            match behind.rest with
            | ')' :: _ =>
              branches? fuel done (.group found body :: parts)
                { behind.drop 1 with ignoresBlanks := reader.ignoresBlanks }
            | _ => none
    | '[' :: _ =>
      let (negated, first, inner) := classStart (reader.drop 1)
      (classSet? inner.rest.length none first inner).bind fun (set, reader) =>
        branches? fuel done (.bracketed negated set :: parts) reader
    | '?' :: rest | '*' :: rest | '+' :: rest =>
      (repeatLast? parts).bind fun parts =>
        branches? fuel done parts (reader.drop (if rest.head? = some '?' then 2 else 1))
    | '\x7b' :: _ => none
    | '\\' :: _ =>
      (escape? (reader.drop 1)).bind fun (part, reader) =>
        branches? fuel done (part :: parts) reader
    | '.' :: _ => branches? fuel done (.dot :: parts) (reader.drop 1)
    | '^' :: _ | '$' :: _ => branches? fuel done (.edge :: parts) (reader.drop 1)
    | c :: _ => branches? fuel done (.literal ⟨c, false⟩ :: parts) (reader.drop 1)

/-- The expression that a text spells. -/
def ofText? (text : String) : Option Regex :=
  let cs := text.toList
  (branches? (cs.length + 1) [] [] { rest := cs }).bind fun (regex, reader) =>
    if reader.rest.isEmpty && regex.depth ≤ depthLimit then some regex else none

end LineShell.Regex
