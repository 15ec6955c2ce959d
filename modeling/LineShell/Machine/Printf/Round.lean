import LineShell.Machine.Printf.Format
import LineShell.Machine.Printf.Writing
import LineShell.Machine.Quoted
import LineShell.Machine.Utility
/-!
# Formatted printing: what is printed

Each conversion prints one argument in a field. A format is gone through once, and again while
arguments are left that it uses.
-/

namespace LineShell.Printf

/-! ## Fields -/

/-- Fills a field up to a width. -/
def pad (left : Bool) (width : Nat) (bytes : Bytes) : Bytes :=
  let filler := List.replicate (width - bytes.length) 32
  if left then bytes ++ filler else filler ++ bytes

/-- The forms of numbers with a floating point. -/
def floatingForms : List Char := ['a', 'A', 'e', 'E', 'f', 'F', 'g', 'G']

/-- Whether whole numbers in a form have a sign. -/
def isSignedForm (form : Char) : Bool := form == 'd' || form == 'i'

/-- The digits of a number in a form. -/
def digitsOf (form : Char) (n : Nat) : String :=
  match form with
  | 'o' => String.ofList (Nat.toDigits 8 n)
  | 'x' => String.ofList (Nat.toDigits 16 n)
  | 'X' => (String.ofList (Nat.toDigits 16 n)).toUpper
  | _ => n.repr

/-- The sign of a number. -/
def signOf (flags : List Char) (isNegative : Bool) : String :=
  if isNegative then "-"
  else if flags.contains '+' then "+"
  else if flags.contains ' ' then " "
  else ""

/-- Prints a number with a floating point in a field. -/
def printFloating (kind : Kind) (flags : List Char) (left : Bool) (width : Nat)
    (precision? : Option Nat) (form : Char) (number : Floating) : Bytes :=
  let writing : Writing := { precision?, isFull := flags.contains '#' }
  let (front, rest, isFinite) := writeFloating writing kind form number.size
  let front := (signOf flags number.isNegative).toList ++ front
  let zeros :=
    if flags.contains '0' ∧ !left ∧ isFinite then width - (front.length + rest.length) else 0
  pad left width (Octets.toBytes (String.ofList (front ++ List.replicate zeros '0' ++ rest)))

/-- Prints a whole number in a field. -/
def printNumber (flags : List Char) (left : Bool) (width : Nat) (least : Option Nat) (form : Char)
    (n : Int) : Bytes :=
  let sign := if n < 0 ∨ isSignedForm form then signOf flags (n < 0) else ""
  let digits := if n = 0 ∧ least = some 0 then "" else digitsOf form n.natAbs
  let digits := String.ofList (List.replicate (least.getD 0 - digits.length) '0') ++ digits
  let alternate := flags.contains '#'
  let digits :=
    if alternate ∧ form = 'o' ∧ digits.toList.head? ≠ some '0' then "0" ++ digits else digits
  let base :=
    if alternate ∧ n ≠ 0 ∧ form = 'x' then "0x"
    else if alternate ∧ n ≠ 0 ∧ form = 'X' then "0X"
    else ""
  let front := sign ++ base
  let zeros :=
    if flags.contains '0' ∧ !left ∧ least = none then width - (front.length + digits.length) else 0
  pad left width (Octets.toBytes (front ++ String.ofList (List.replicate zeros '0') ++ digits))

/-! ## Rounds -/

/-- A complaint about an argument. -/
def problemText (manner : Manner) (problem : Problem) (arg : String) : String :=
  manner.complainer ++ manner.wording problem arg ++ "\n"

/-- The bytes of an argument that are not used, if it is a quote and a character. -/
def surplus (arg : String) : Bytes :=
  match arg.toList with
  | '\x27' :: _ | '\x22' :: _ => (Octets.toBytes arg).drop 2
  | _ => []

/-- The warning about bytes that are not used. -/
def surplusWarning (manner : Manner) (bytes : Bytes) : Bytes :=
  Octets.toBytes (manner.complainer ++ "warning: ") ++ bytes ++
    Octets.toBytes ": character(s) following character constant have been ignored\n"

/-- What is printed for some arguments, which arguments are left, and whether output ends here: by
an escape that stops it, or by a complaint. -/
structure Round where
  printed : Printed := {}
  left : List String
  stopped : Bool := false
  givenUp : Bool := false

/-- Whether output ends. -/
def Round.ended (round : Round) : Bool := round.stopped || round.givenUp

/-- Puts what was printed before in front. -/
def Round.after (round : Round) (before : Printed) : Round :=
  { round with printed := before.followed round.printed }

/-- Gives output up with a complaint. -/
def giveUp (manner : Manner) (complaint : Bytes) : Round :=
  { printed :=
      { err := Octets.toBytes manner.complainer ++ complaint ++ [10], status := manner.failure }
    left := [], givenUp := true }

/-- Ends output within a text. -/
def Round.ofEnding (manner : Manner) : Escape.Ending → Round
  | .stopped => { left := [], stopped := true }
  | .digitsMissing => giveUp manner (Octets.toBytes "missing hexadecimal number in escape")
  | .noCharacter number =>
    giveUp manner (Octets.toBytes ("invalid universal character name " ++ number))

/-- Takes an argument as a number that is read in a given way. -/
def takeNumber {α : Type} (manner : Manner) (read : String → α × Option Problem)
    (args : List String) : α × Round :=
  let arg := args.headD ""
  let (n, problem?) := read arg
  let problem? := if manner.readsQuote ∧ (arg = "\x27" ∨ arg = "\x22") then none else problem?
  let printed : Printed := match problem?, surplus arg with
    | some problem, _ => Utility.complain (problemText manner problem arg) 1
    | none, [] => {}
    | none, bytes => if manner.warns then { err := surplusWarning manner bytes } else {}
  (n, { printed, left := args.tail })

/-- Takes the argument that a measure asks for, if it asks for one. -/
def Measure.take (manner : Manner) (isPrecision : Bool) : Measure → List String → Int × Round
  | .fixed n, args => (Int.ofNat n, { left := args })
  | .argument, args =>
    let (n, round) := takeNumber manner (number true) args
    match manner.measure isPrecision n (args.headD "") with
    | .ok n => (n, round)
    | .error complaint => (n, (giveUp manner (Octets.toBytes complaint)).after round.printed)

/-- Takes the arguments that the measures of a conversion ask for. A precision below zero is none.
-/
def takeExtent (manner : Manner) (extent : Measure × Option Measure) (args : List String) :
    (Int × Option Nat) × Round :=
  let (width, round) := extent.1.take manner false args
  match round.ended, extent.2 with
  | true, _ | _, none => ((width, none), round)
  | false, some measure =>
    let (least, later) := measure.take manner true round.left
    ((width, if least < 0 then none else some least.toNat), later.after round.printed)

/-- The bytes that an argument comes to in its field. -/
def printArgument (manner : Manner) (flags : List Char) (width : Int) (precision : Option Nat)
    (form : Char) (args : List String) : Round :=
  let left := flags.contains '-' || width < 0
  let width := width.natAbs
  let keep := fun bytes : Bytes => match precision with
    | some n => bytes.take n
    | none => bytes
  let arg := args.headD ""
  match form with
  | 's' => { printed := { out := pad left width (keep (Octets.toBytes arg)) }, left := args.tail }
  | 'b' =>
    match Escape.expand manner.argument arg.toList with
    | (bytes, none) => { printed := { out := pad left width (keep bytes) }, left := args.tail }
    | (bytes, some ending) =>
      (Round.ofEnding manner ending).after { out := pad left width (keep bytes) }
  | 'c' =>
    let byte := (Octets.toBytes arg).headD 0
    { printed := { out := pad left width [byte] }, left := args.tail }
  | 'q' =>
    let shown := if args.isEmpty then "" else Quoted.forCommands arg
    { printed := { out := Octets.toBytes shown }, left := args.tail }
  | form =>
    let printed := fun (round : Round) (out : Bytes) =>
      ({ round with printed := { round.printed with out } } : Round)
    if floatingForms.contains form then
      let (n, round) := takeNumber manner manner.kind.read args
      printed round (printFloating manner.kind flags left width precision form n)
    else
      let (n, round) := takeNumber manner (number (isSignedForm form)) args
      printed round (printNumber flags left width precision form n)

/-- The largest field. -/
def largest : Nat := 2147483647

/-- Prints what a conversion asks for. Nothing is printed in a field that is too large. -/
def Conversion.print (manner : Manner) (conversion : Conversion) (args : List String) : Round :=
  let ((width, precision), before) := takeExtent manner conversion.extent args
  if before.ended then before
  else if largest < width.natAbs ∨ largest < precision.getD 0 then
    let now := printArgument manner conversion.flags 0 none conversion.form before.left
    let failed := giveUp manner (Octets.toBytes manner.tooLarge)
    let failed := if manner.goesOn then { now with printed := failed.printed } else failed
    failed.after (before.printed.followed { now.printed with out := [] })
  else
    (printArgument manner conversion.flags width precision conversion.form before.left).after
      before.printed

/-- Prints one round of a format. -/
def printRound (manner : Manner) : List Directive → List String → Round
  | [], args => { left := args }
  | .unknown extent text isFormed :: _, args =>
    let (_, before) := takeExtent manner extent args
    if before.ended then before
    else (giveUp manner (manner.unknown text isFormed)).after before.printed
  | .ending ending :: _, _ => .ofEnding manner ending
  | .text bytes :: rest, args => (printRound manner rest args).after { out := bytes }
  | .argument conversion :: rest, args =>
    let now := conversion.print manner args
    if now.ended then now else (printRound manner rest now.left).after now.printed

/-- The warning about arguments that a format does not use. -/
def excessWarning (manner : Manner) (arg : String) : String :=
  manner.complainer ++ "warning: ignoring excess arguments, starting with " ++ Quoted.forPerson arg ++ "\n"

/-- Goes through a format once, and again while arguments are left that it uses. -/
def printRounds (manner : Manner) (format : List Directive) : Nat → List String → Round
  | 0, args => { left := args }
  | rounds + 1, args =>
    let round := printRound manner format args
    match round.ended, round.left with
    | true, _ | _, [] => round
    | _, arg :: rest =>
      if rest.length + 1 = args.length then
        if manner.warns then
          { round with
            printed := round.printed.followed { err := Octets.toBytes (excessWarning manner arg) } }
        else round
      else (printRounds manner format rounds (arg :: rest)).after round.printed

/-- Prints arguments in a format. -/
def run (manner : Manner) (format : String) (args : List String) : Printed :=
  let round := printRounds manner (directives manner format.toList) (args.length + 1) args
  if round.stopped ∧ manner.forgives then { round.printed with status := 0 } else round.printed

end LineShell.Printf
