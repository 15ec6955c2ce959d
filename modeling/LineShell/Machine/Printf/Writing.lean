import LineShell.Machine.Printf.Floating
/-!
# Formatted printing: digits with a point

A number with a floating point is written with so many digits behind the point, with a power of ten
behind its digits, in whichever of these ways is shorter, or in base sixteen with a power of two. All
digits are those of the number itself, rounded once.
-/

namespace LineShell.Printf

/-- How a number is written. -/
structure Writing where
  /-- How many digits there are behind the point, or in all, if that is said. -/
  precision? : Option Nat
  /-- Whether the point is written even if nothing follows it, and no zero is left out. -/
  isFull : Bool

/-- Digits with a point in front of the last ones. -/
def withPoint (isFull : Bool) (places : Nat) (digits : List Char) : List Char :=
  let padded := List.replicate (places + 1 - digits.length) '0' ++ digits
  let (whole, parts) := padded.splitAt (padded.length - places)
  whole ++ (if parts.isEmpty && !isFull then [] else '.' :: parts)

/-- Leaves out the zeros that end what stands behind a point, and the point if nothing is left. -/
def withoutZeros (cs : List Char) : List Char :=
  if cs.contains '.' then
    let kept := cs.reverse.dropWhile (· = '0')
    (if kept.head? = some '.' then kept.drop 1 else kept).reverse
  else cs

/-- A power behind a letter, with its sign and so many digits at least. -/
def powerText (letter : Char) (least : Nat) (power : Int) : List Char :=
  let digits := power.natAbs.repr.toList
  letter :: (if power < 0 then '-' else '+') :: List.replicate (least - digits.length) '0' ++ digits

/-- The largest power of ten that is not above a number that is not zero, by its exponent. -/
def topDigit (quotient : Nat × Nat) : Int :=
  let guess := Int.fdiv (topBit quotient * 30103) 100000
  let reaches := fun power : Int =>
    let (top, bottom) := scaled 10 (-power) quotient
    bottom ≤ top
  if reaches (guess + 1) then guess + 1 else if reaches guess then guess else guess - 1

/-- The first digits of a number, one more than a given count, and the power of ten of the first. -/
def firstDigits (more : Nat) (quotient : Nat × Nat) : List Char × Int :=
  if quotient.1 = 0 then (List.replicate (more + 1) '0', 0)
  else
    let power := topDigit quotient
    let digits := (nearest (scaled 10 (more - power) quotient)).repr.toList
    if more + 1 < digits.length then (digits.take (more + 1), power + 1) else (digits, power)

namespace Writing

/-- How many digits are written if nothing is said. -/
def usual : Nat := 6

/-- Writes a number with a fixed point. -/
def fixed (isFull : Bool) (places : Nat) (quotient : Nat × Nat) : List Char :=
  withPoint isFull places (nearest (scaled 10 places quotient)).repr.toList

/-- Writes digits with a power of ten, as the digits in front of the power and the power. -/
def withPower (isFull : Bool) (places : Nat) (quotient : Nat × Nat) : List Char × List Char :=
  let (digits, power) := firstDigits places quotient
  (withPoint isFull places digits, powerText 'e' 2 power)

/-- Writes a number in whichever way is shorter. -/
def shorter (writing : Writing) (quotient : Nat × Nat) : List Char :=
  let count := max 1 (writing.precision?.getD usual)
  let power := (firstDigits (count - 1) quotient).2
  let trimmed := fun cs => if writing.isFull then cs else withoutZeros cs
  if -4 ≤ power ∧ power < count then
    trimmed (fixed writing.isFull ((count : Int) - 1 - power).toNat quotient)
  else
    let (digits, power) := withPower writing.isFull (count - 1) quotient
    trimmed digits ++ power

/-- Writes a number in base sixteen, behind its sign that tells so. -/
def sixteen (writing : Writing) (kind : Kind) (multiple : Nat) (exponent : Int) : List Char :=
  let places := (kind.bits - kind.lead) / 4
  let digits := fun count value =>
    let found := Nat.toDigits 16 value
    List.replicate (count + 1 - found.length) '0' ++ found
  let all := digits places multiple
  let needed := ((all.drop 1).reverse.dropWhile (· = '0')).length
  let power := if multiple = 0 then 0 else exponent + 4 * places
  let count := writing.precision?.getD needed
  let (shown, power) :=
    if needed ≤ count then
      (all.take (needed + 1) ++ List.replicate (count - needed) '0', power)
    else
      let rounded := digits count (nearest (multiple, Nat.pow 16 (places - count)))
      if count + 1 < rounded.length then (rounded.take (count + 1), power + 4)
      else (rounded, power)
  withPoint writing.isFull count shown ++ powerText 'p' 1 power

/-- Writes a finite number in a form. What has to stay in front comes first. -/
def finite (writing : Writing) (kind : Kind) (form : Char) (multiple : Nat) (exponent : Int) :
    List Char × List Char :=
  let quotient := scaled 2 exponent (multiple, 1)
  let places := writing.precision?.getD usual
  match form with
  | 'a' => (['0', 'x'], writing.sixteen kind multiple exponent)
  | 'e' =>
    let (digits, power) := withPower writing.isFull places quotient
    ([], digits ++ power)
  | 'g' => ([], writing.shorter quotient)
  | _ => ([], fixed writing.isFull places quotient)

end Writing

/-- Writes a number in a form. The answer is what has to stay in front, what follows, and whether
zeros can be put between them. -/
def writeFloating (writing : Writing) (kind : Kind) (form : Char) (size : Size) :
    List Char × List Char × Bool :=
  let (front, rest, isFinite) := match size with
    | .infinite => ([], "inf".toList, false)
    | .notANumber => ([], "nan".toList, false)
    | .finite multiple exponent =>
      let (front, rest) := writing.finite kind form.toLower multiple exponent
      (front, rest, true)
  if form.isUpper then (front.map Char.toUpper, rest.map Char.toUpper, isFinite)
  else (front, rest, isFinite)

end LineShell.Printf
