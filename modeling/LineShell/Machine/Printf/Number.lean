import LineShell.Decimal
import LineShell.Machine.Escape
/-!
# Formatted printing: arguments that are numbers

A number is written in base ten, eight or sixteen, by how it begins, or as a quote and a character
whose code is meant. `number` gives the nearest number in range and says what is wrong with the
argument, if anything is.
-/

namespace LineShell.Printf

/-- What is wrong with an argument that has to be a number. -/
inductive Problem where
  | notNumber
  /-- Something follows the number. -/
  | notWhole
  | outOfRange
  deriving DecidableEq, Repr

/-- How many numbers without a sign there are. -/
def numberCount : Nat := 18446744073709551616

/-- The digits of a base at the front, and what follows them. -/
def leadingDigits (base : Nat) (cs : List Char) : List Char × List Char :=
  let isDigit := fun c => Escape.isHex c && Escape.digitValue c < base
  (cs.takeWhile isDigit, cs.dropWhile isDigit)

/-- The size that digits give, with the base that they begin with, and what follows them; nothing if
there are no digits. -/
def size? (cs : List Char) : Option (Nat × List Char) :=
  let (base, digits) := match cs with
    | '0' :: x :: digit :: rest =>
      if (x = 'x' ∨ x = 'X') ∧ Escape.isHex digit then (16, digit :: rest) else (8, cs)
    | '0' :: _ => (8, cs)
    | _ => (10, cs)
  match leadingDigits base digits with
  | ([], _) => none
  | (found, rest) => some (found.foldl (fun n c => n * base + Escape.digitValue c) 0, rest)

/-- Brings a size with its sign into range, and tells whether it was out of it. With `isSigned` the
numbers lie on both sides of zero; without, a negative one counts down from the largest. -/
def intoRange (isSigned negative : Bool) (size : Nat) : Int × Bool :=
  let limit := if isSigned then numberCount / 2 else numberCount
  if isSigned then
    if negative then
      (if limit < size then (-(Int.ofNat limit), true) else (-(Int.ofNat size), false))
    else (if limit ≤ size then (Int.ofNat (limit - 1), true) else (Int.ofNat size, false))
  else if limit ≤ size then (Int.ofNat (limit - 1), true)
  else if negative then (Int.ofNat ((limit - size) % limit), false)
  else (Int.ofNat size, false)

/-- The number that an argument spells, and what is wrong with it. Behind a quote stands a character
whose code is meant. -/
def number (isSigned : Bool) (arg : String) : Int × Option Problem :=
  match arg.toList with
  | '\x27' :: _ :: _ | '\x22' :: _ :: _ => (Int.ofNat ((Octets.toBytes arg).getD 1 0).toNat, none)
  | cs =>
    let trimmed := cs.dropWhile Decimal.isBlank
    let (negative, digits) := match trimmed with
      | '-' :: digits => (true, digits)
      | '+' :: digits => (false, digits)
      | _ => (false, trimmed)
    match size? digits with
    | none => (0, if cs.isEmpty then none else some .notNumber)
    | some (size, rest) =>
      let (n, clipped) := intoRange isSigned negative size
      (n, if clipped then some .outOfRange else if rest.isEmpty then none else some .notWhole)

end LineShell.Printf
