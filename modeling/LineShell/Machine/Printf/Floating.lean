import LineShell.Machine.Printf.Number
/-!
# Formatted printing: arguments with a floating point

A number with a floating point is a multiple of a power of two, with so many bits at most. `nearest`
rounds a quotient, `Kind.round` finds the number nearest to one, and `Kind.read` takes the number that
an argument spells, in base ten or sixteen.
-/

namespace LineShell.Printf

/-! ## Rounding -/

/-- The whole number nearest to a quotient; of two, the even one. -/
def nearest (quotient : Nat × Nat) : Nat :=
  let whole := quotient.1 / quotient.2
  let twice := 2 * (quotient.1 % quotient.2)
  if quotient.2 < twice ∨ (twice = quotient.2 ∧ whole % 2 = 1) then whole + 1 else whole

/-- A quotient times a power. -/
def scaled (base : Nat) (power : Int) (quotient : Nat × Nat) : Nat × Nat :=
  (quotient.1 * base.pow power.toNat, quotient.2 * base.pow (-power).toNat)

/-- The largest power of two that is not above a quotient, by its exponent. -/
def topBit (quotient : Nat × Nat) : Int :=
  let guess := (Nat.log2 quotient.1 : Int) - Nat.log2 quotient.2
  let (top, bottom) := scaled 2 (-guess) quotient
  if bottom ≤ top then guess else guess - 1

/-! ## Numbers -/

/-- The size of a number. -/
inductive Size where
  /-- A multiple of a power of two. -/
  | finite (multiple : Nat) (exponent : Int)
  | infinite
  | notANumber
  deriving DecidableEq, Repr

/-- A number with a floating point. Zero has a sign too. -/
structure Floating where
  isNegative : Bool
  size : Size
  deriving DecidableEq, Repr

/-- Which numbers there are. -/
structure Kind where
  /-- How many bits a multiple has at most. -/
  bits : Nat
  /-- The exponent of the smallest number. -/
  least : Int
  /-- All numbers are below two to this power. -/
  limit : Int
  /-- How many of the bits stand in front of the point in base sixteen. -/
  lead : Nat
  deriving DecidableEq, Repr

namespace Kind

/-- The numbers of eight bytes. -/
def double : Kind := ⟨53, -1074, 1024, 1⟩

/-- The numbers of ten bytes. -/
def extended : Kind := ⟨64, -16445, 16384, 4⟩

/-- The number nearest to a quotient, and whether the quotient is out of range: too large, or so small
that bits are lost which a larger number would keep. -/
def round (kind : Kind) (quotient : Nat × Nat) : Size × Bool :=
  if quotient.1 = 0 then (.finite 0 kind.least, false)
  else
    let free := topBit quotient - (kind.bits - 1)
    let exponent := max free kind.least
    let fitted := scaled 2 (-exponent) quotient
    let multiple := nearest fitted
    let (multiple, exponent) :=
      if multiple = Nat.pow 2 kind.bits then (Nat.pow 2 (kind.bits - 1), exponent + 1)
      else (multiple, exponent)
    if multiple ≠ 0 ∧ kind.limit ≤ Nat.log2 multiple + exponent then (.infinite, true)
    else
      let isExact := fitted.1 % fitted.2 = 0
      let unbound := nearest (scaled 2 (-free) quotient)
      let isTiny := Nat.log2 unbound + free < kind.least + (kind.bits - 1)
      (.finite multiple exponent, isTiny && !isExact)

end Kind

/-! ## Spelling -/

/-- What a number is that is spelled. -/
inductive Spelled where
  | infinite
  | notANumber
  /-- Digits, times a power of a base. -/
  | digits (value base : Nat) (power : Int)
  deriving DecidableEq, Repr

/-- The rest of a text behind a word in front of it, in letters of any size. -/
def behindWord? (word : List Char) (cs : List Char) : Option (List Char) :=
  if (cs.take word.length).map Char.toLower = word then some (cs.drop word.length) else none

/-- Reads a power behind a letter, if there is one. -/
def powerBehind (letter : Char) (cs : List Char) : Int × List Char :=
  match cs with
  | c :: rest =>
    if c.toLower = letter then
      let (isNegative, digits) := match rest with
        | '-' :: digits => (true, digits)
        | '+' :: digits => (false, digits)
        | _ => (false, rest)
      match leadingDigits 10 digits with
      | ([], _) => (0, cs)
      | (found, behind) =>
        let size : Int := found.foldl (fun n c => n * 10 + Escape.digitValue c) 0
        (if isNegative then -size else size, behind)
    else (0, cs)
  | [] => (0, [])

/-- Reads digits with a point and a power; nothing if there are no digits. In base sixteen a digit
counts for four powers of two. -/
def digitsWithPoint? (base : Nat) (cs : List Char) : Option (Spelled × List Char) :=
  let (whole, rest) := leadingDigits base cs
  let (parts, rest) := match rest with
    | '.' :: behind => leadingDigits base behind
    | _ => ([], rest)
  if whole.isEmpty && parts.isEmpty then none
  else
    let value := (whole ++ parts).foldl (fun n c => n * base + Escape.digitValue c) 0
    if base = 16 then
      let (power, rest) := powerBehind 'p' rest
      some (.digits value 2 (power - 4 * parts.length), rest)
    else
      let (power, rest) := powerBehind 'e' rest
      some (.digits value 10 (power - parts.length), rest)

/-- What may follow the word for what is no number: characters in parentheses. -/
def behindNote (cs : List Char) : List Char :=
  match cs with
  | '(' :: rest =>
    match rest.dropWhile fun c => c.isAlphanum || c = '_' with
    | ')' :: behind => behind
    | _ => cs
  | _ => cs

/-- The number at the front of a text, and what follows it. -/
def spelled? (cs : List Char) : Option (Spelled × List Char) :=
  match behindWord? "inf".toList cs, behindWord? "nan".toList cs with
  | some rest, _ => some (.infinite, (behindWord? "inity".toList rest).getD rest)
  | none, some rest => some (.notANumber, behindNote rest)
  | none, none =>
    match (behindWord? ['0', 'x'] cs).bind (digitsWithPoint? 16) with
    | some found => some found
    | none => digitsWithPoint? 10 cs

/-- Powers beyond this one are out of range whatever the digits are. -/
def powerLimit : Int := 100000

/-- The number nearest to one that is spelled, and whether that is out of range. -/
def Kind.ofSpelled (kind : Kind) : Spelled → Size × Bool
  | .infinite => (.infinite, false)
  | .notANumber => (.notANumber, false)
  | .digits value base power =>
    if value = 0 then (.finite 0 kind.least, false)
    else
      let top := power + (Nat.log2 value : Int)
      if powerLimit < top then (.infinite, true)
      else if top < -powerLimit then (.finite 0 kind.least, true)
      else kind.round (scaled base power (value, 1))

/-- The number that an argument spells, and what is wrong with it. Behind a quote stands a character
whose code is meant. -/
def Kind.read (kind : Kind) (arg : String) : Floating × Option Problem :=
  match arg.toList with
  | '\x27' :: _ :: _ | '\x22' :: _ :: _ =>
    let code := ((Octets.toBytes arg).getD 1 0).toNat
    (⟨false, (kind.round (code, 1)).1⟩, none)
  | cs =>
    let trimmed := cs.dropWhile Decimal.isBlank
    let (isNegative, text) := match trimmed with
      | '-' :: text => (true, text)
      | '+' :: text => (false, text)
      | _ => (false, trimmed)
    match spelled? text with
    | none =>
      (⟨false, .finite 0 kind.least⟩, if cs.isEmpty then none else some .notNumber)
    | some (spelled, rest) =>
      let (size, isOutOfRange) := kind.ofSpelled spelled
      (⟨isNegative, size⟩,
        if isOutOfRange then some .outOfRange else if rest.isEmpty then none else some .notWhole)

end LineShell.Printf
