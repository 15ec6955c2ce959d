import LineShell.Machine.Octets
/-!
# Backslash escapes

Programs that print text read escapes in it: a letter that stands for a control character, or a byte
given by its octal or hexadecimal digits. One escape stops all output. Programs differ in the
escapes they know; `Escape.Style` says which, and `Escape.expand` reads them.
-/

namespace LineShell.Escape

/-- The escapes that a program knows. -/
structure Style where
  /-- Whether a zero may stand in front of the three digits of an octal escape. -/
  zeroFirst : Bool
  /-- Whether one escape stops all output. -/
  canStop : Bool := true
  /-- Whether a byte can be given by hexadecimal digits. -/
  extended : Bool := false
  /-- Whether hexadecimal digits must be there once they are announced. -/
  strict : Bool := false
  /-- Whether a double quote can be escaped. -/
  quotes : Bool := false
  /-- Whether a character can be given by its number. -/
  numbered : Bool := false
  deriving DecidableEq, Repr

/-- Why output ends in the middle of a text. -/
inductive Ending where
  /-- The escape that stops all output. -/
  | stopped
  /-- Hexadecimal digits are missing. -/
  | digitsMissing
  /-- There is no character with a number, as it is written. -/
  | noCharacter (number : String)
  deriving DecidableEq, Repr

/-- The byte that a letter stands for behind a backslash. -/
def Style.letter? (style : Style) : Char → Option UInt8
  | 'a' => some 7
  | 'b' => some 8
  | 'e' => some 27
  | 'f' => some 12
  | 'n' => some 10
  | 'r' => some 13
  | 't' => some 9
  | 'v' => some 11
  | '\\' => some 92
  | '\x22' => if style.quotes then some 34 else none
  | _ => none

/-- Whether a character is an octal digit. -/
def isOctal (c : Char) : Bool := '0' ≤ c && c ≤ '7'

/-- Whether a character is a hexadecimal digit. -/
def isHex (c : Char) : Bool := c.isDigit || ('a' ≤ c && c ≤ 'f') || ('A' ≤ c && c ≤ 'F')

/-- The value of a digit. -/
def digitValue (c : Char) : Nat :=
  if c.isDigit then c.toNat - '0'.toNat else c.toLower.toNat - 'a'.toNat + 10

/-- The value of digits in a base, as a byte. -/
def byteOf (base : Nat) (digits : List Char) : UInt8 :=
  UInt8.ofNat (digits.foldl (fun n c => n * base + digitValue c) 0)

/-- A number in base sixteen with so many digits. -/
def hexText (count n : Nat) : String :=
  let digits := Nat.toDigits 16 n
  String.ofList (List.replicate (count - digits.length) '0' ++ digits)

/-- How a character is shown that is given by its number. One that is no ASCII is told by its number
again. -/
def shownCharacter (number : Nat) : Bytes :=
  if number < 128 then [UInt8.ofNat number]
  else if number < 65536 then Octets.toBytes ("\\u" ++ (hexText 4 number).toUpper)
  else Octets.toBytes ("\\U" ++ (hexText 8 number).toUpper)

/-- How many digits the number of a character has, by the letter in front of it. -/
def numberDigits? (c : Char) : Option Nat :=
  if c = 'u' then some 4 else if c = 'U' then some 8 else none

/-- The character that is given by its number behind a letter. The numbers that make up others in
pairs are those of no character. -/
def characterBehind (c : Char) (count : Nat) (rest : List Char) : Except Ending Bytes :=
  let digits := (rest.take count).takeWhile isHex
  let number := digits.foldl (fun n c => n * 16 + digitValue c) 0
  if digits.length < count then .error .digitsMissing
  else if 55296 ≤ number ∧ number ≤ 57343 then
    .error (.noCharacter (String.ofList ['\\', c] ++ hexText count number))
  else .ok (shownCharacter number)

/-- What the characters behind a backslash stand for, and how many of them are used up beyond the
first; nothing if they are no escape. -/
def Style.escape? (style : Style) (c : Char) (rest : List Char) : Option (UInt8 × Nat) :=
  if isOctal c then
    if style.zeroFirst && c == '0' then
      let digits := (rest.take 3).takeWhile isOctal
      some (byteOf 8 digits, digits.length)
    else
      let digits := (rest.take 2).takeWhile isOctal
      some (byteOf 8 (c :: digits), digits.length)
  else if style.extended && c == 'x' then
    match (rest.take 2).takeWhile isHex with
    | [] => none
    | digits => some (byteOf 16 digits, digits.length)
  else (style.letter? c).map (·, 0)

/-- Reads the escapes in a text, up to where output ends, if it ends in it. -/
def expand (style : Style) : List Char → Bytes × Option Ending
  | [] => ([], none)
  | '\\' :: c :: rest =>
    if style.canStop && c == 'c' then ([], some .stopped)
    else
      match style.escape? c rest, if style.numbered then numberDigits? c else none with
      | some (byte, used), _ =>
        let (bytes, ending) := expand style (rest.drop used)
        (byte :: bytes, ending)
      | none, some count =>
        match characterBehind c count rest with
        | .error ending => ([], some ending)
        | .ok shown =>
          let (bytes, ending) := expand style (rest.drop count)
          (shown ++ bytes, ending)
      | none, none =>
        if style.strict && c == 'x' then ([], some .digitsMissing)
        else
          let (bytes, ending) := expand style rest
          (Octets.toBytes (String.ofList ['\\', c]) ++ bytes, ending)
  | c :: rest =>
    let (bytes, ending) := expand style rest
    (Octets.toBytes (String.singleton c) ++ bytes, ending)
termination_by cs => cs.length
decreasing_by all_goals (simp_wf <;> omega)

end LineShell.Escape
