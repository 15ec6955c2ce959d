import LineShell.Machine.Printf.Number
import LineShell.Machine.Script.Syntax
/-!
# The command language: arithmetic

Expressions are about whole numbers of 64 bits, which start again at the other end when they leave
their range. They are evaluated while they are read, so the first thing that is wrong is what is told.
A part whose value does not matter is read but not carried out.
-/

namespace LineShell.Script

/-- The number that a text spells, with blanks around it. In an expression its base can be told by
how it begins, and no text at all is zero. -/
def integer? (inExpression : Bool) (text : String) : Option Int :=
  let trimmed := text.toList.dropWhile Decimal.isBlank
  let (negative, digits) := match trimmed with
    | '-' :: digits => (true, digits)
    | '+' :: digits => (false, digits)
    | _ => (false, trimmed)
  let size? :=
    if inExpression then Printf.size? digits
    else
      let (n, rest) := Decimal.leading digits
      if rest.length < digits.length then some (n, rest) else none
  match size? with
  | some (size, rest) =>
    let (n, clipped) := Printf.intoRange true negative size
    if clipped || !rest.all Decimal.isBlank then none else some n
  | none => if inExpression && trimmed.isEmpty then some 0 else none

namespace Arithmetic

/-- Why an expression has no value. -/
inductive Trouble where
  /-- It is not formed as it should be, or divides by zero. -/
  | badExpression (text : String)
  /-- A variable holds no number. -/
  | badNumber (text : String)
  /-- A number that cannot be. The process does not survive it. -/
  | deadly
  deriving DecidableEq, Repr

/-- A unit of an expression. -/
inductive Symbol where
  | ending
  | unknown
  | number (n : Int)
  | variable (name : String)
  | sign (text : String)
  deriving DecidableEq, Repr

/-- The signs, longer ones first. -/
def signs : List String :=
  ["<<=", ">>=", "==", "!=", "<=", ">=", "<<", ">>", "&&", "||", "*=", "/=", "%=", "+=", "-=", "&=",
    "^=", "|=", "=", "<", ">", "!", "&", "|", "(", ")", "*", "/", "%", "+", "-", "~", "^", "?", ":"]

/-- The operators with two sides, those that bind tighter first. -/
def ranks : List (List String) :=
  [["*", "/", "%"], ["+", "-"], ["<<", ">>"], ["<", "<=", ">", ">="], ["==", "!="], ["&"], ["^"],
    ["|"]]

/-- How tight an operator binds; none if it has no two sides. -/
def Symbol.rank? : Symbol → Option Nat
  | .sign text => ranks.findIdx? (·.contains text)
  | _ => none

/-- Reads a unit. -/
def lex : List Char → Symbol × List Char
  | [] => (.ending, [])
  | c :: rest =>
    if c = ' ' ∨ c = '\t' ∨ c = '\n' then lex rest
    else if c.isDigit then
      match Printf.size? (c :: rest) with
      | some (size, after) => (.number (Printf.intoRange true false size).1, after)
      | none => (.unknown, rest)
    else if beginsName c then
      let name := (c :: rest).takeWhile continuesName
      (.variable (String.ofList name), (c :: rest).drop name.length)
    else
      match signs.find? (·.toList.isPrefixOf (c :: rest)) with
      | some text => (.sign text, (c :: rest).drop text.length)
      | none => (.unknown, rest)

/-- How far an expression has been evaluated. -/
structure Progress where
  rest : List Char
  /-- The unit behind what has been read. -/
  last : Symbol := .ending
  /-- The values that were given to variables, the last one first. -/
  assigned : List (String × Int) := []

/-- A part of evaluating an expression. -/
abbrev Calculation := StateT Progress (Except Trouble)

/-- Reads the next unit. -/
def next : Calculation Symbol := fun progress =>
  let (symbol, rest) := lex progress.rest
  .ok (symbol, { progress with rest })

/-- Notes the unit behind what has been read. -/
def noteLast (symbol : Symbol) : Calculation Unit :=
  modify fun progress => { progress with last := symbol }

/-- The number in range that stands for a number. -/
def wrap (n : Int) : Int := n.bmod Printf.numberCount

/-- One for what is true, and zero. -/
def truth (b : Bool) : Int := if b then 1 else 0

/-- Divides, or takes the remainder. -/
def divided (isRemainder : Bool) (a b : Int) : Except Trouble Int :=
  if b = 0 then .error (.badExpression "division by zero")
  else if b = -1 ∧ a = -(Int.ofNat (Printf.numberCount / 2)) then .error .deadly
  else .ok (if isRemainder then a.tmod b else a.tdiv b)

/-- The bits of a number. -/
def bits (n : Int) : Nat := (n % Int.ofNat Printf.numberCount).toNat

/-- Carries out an operator with two sides. -/
def operate (sign : String) (a b : Int) : Except Trouble Int :=
  let places := (b % 64).toNat
  match sign with
  | "*" => .ok (wrap (a * b))
  | "/" => divided false a b
  | "%" => divided true a b
  | "+" => .ok (wrap (a + b))
  | "-" => .ok (wrap (a - b))
  | "<<" => .ok (wrap (a * Int.ofNat (Nat.pow 2 places)))
  | ">>" => .ok (a.fdiv (Int.ofNat (Nat.pow 2 places)))
  | "<" => .ok (truth (a < b))
  | "<=" => .ok (truth (a ≤ b))
  | ">" => .ok (truth (b < a))
  | ">=" => .ok (truth (b ≤ a))
  | "==" => .ok (truth (a = b))
  | "!=" => .ok (truth (a ≠ b))
  | "&" => .ok (wrap (Int.ofNat (bits a &&& bits b)))
  | "^" => .ok (wrap (Int.ofNat (bits a ^^^ bits b)))
  | _ => .ok (wrap (Int.ofNat (bits a ||| bits b)))

/-- The value of a variable. -/
def valueOf (look : String → Option String) (name : String) : Calculation Int := do
  match (← get).assigned.lookup name with
  | some n => pure n
  | none =>
    let text := (look name).getD ""
    match integer? true text with
    | some n => pure n
    | none => throw (.badNumber text)

/-- Evaluates parts of an expression. The first unit of each has been read, and for some also the
second; `counts` tells whether the value matters. -/
structure Reading where
  whole : (first : Symbol) → (counts : Bool) → Calculation Int
  primary : (first second : Symbol) → (counts : Bool) → Calculation Int
  binary : (left : Int) → (operator : Symbol) → (rank : Nat) → (counts : Bool) → Calculation Int
  both : (first second : Symbol) → (counts : Bool) → Calculation Int
  either : (first second : Symbol) → (counts : Bool) → Calculation Int
  choice : (first second : Symbol) → (counts : Bool) → Calculation Int

/-- Evaluates a number, a variable, or an expression that is negated or in parentheses. -/
def primaryWith (self : Reading) (look : String → Option String) (first second : Symbol)
    (counts : Bool) : Calculation Int := do
  match first with
  | .sign "(" => do
    let n ← self.whole second counts
    if (← get).last ≠ .sign ")" then throw (.badExpression "expecting \x27)\x27")
    noteLast (← next)
    pure n
  | .number n => do
    noteLast second
    pure n
  | .variable name => do
    noteLast second
    if counts then valueOf look name else pure 0
  | .sign "+" => do self.primary second (← next) counts
  | .sign "-" => do pure (wrap (-(← self.primary second (← next) counts)))
  | .sign "!" => do pure (truth ((← self.primary second (← next) counts) = 0))
  | .sign "~" => do pure (-(← self.primary second (← next) counts) - 1)
  | _ => throw (.badExpression "expecting primary")

/-- Evaluates what follows an operator that binds tighter than a rank, and goes on with operators
that bind no less. -/
def binaryWith (self : Reading) (left : Int) (operator : Symbol) (rank : Nat) (counts : Bool) :
    Calculation Int := do
  let own := operator.rank?.getD 0
  let first ← next
  let right ← self.primary first (← next) counts
  let behind := (← get).last
  let right ←
    if behind.rank?.any (· < own) then self.binary right behind own counts else pure right
  let behind := (← get).last
  let value ←
    match operator with
    | .sign text => if counts then liftM (operate text left right) else pure right
    | _ => pure right
  if behind.rank?.any (· < rank) then self.binary value behind rank counts else pure value

/-- The rank that is behind all others. -/
def lastRank : Nat := ranks.length

/-- Evaluates operands and the operators between them. -/
def binaryFirst (self : Reading) (first second : Symbol) (counts : Bool) : Calculation Int := do
  let left ← self.primary first second counts
  let operator := (← get).last
  if operator.rank?.isSome then self.binary left operator lastRank counts else pure left

/-- Evaluates what has to be true together. -/
def bothWith (self : Reading) (first second : Symbol) (counts : Bool) : Calculation Int := do
  let left ← binaryFirst self first second counts
  if (← get).last ≠ .sign "&&" then pure left
  else
    let first ← next
    let right ← self.both first (← next) (counts && left != 0)
    pure (truth (left ≠ 0 ∧ right ≠ 0))

/-- Evaluates things of which one has to be true. -/
def eitherWith (self : Reading) (first second : Symbol) (counts : Bool) : Calculation Int := do
  let left ← self.both first second counts
  if (← get).last ≠ .sign "||" then pure left
  else
    let first ← next
    let right ← self.either first (← next) (counts && left == 0)
    pure (truth (left ≠ 0 ∨ right ≠ 0))

/-- Evaluates a choice between two expressions. -/
def choiceWith (self : Reading) (first second : Symbol) (counts : Bool) : Calculation Int := do
  let test ← self.either first second counts
  if (← get).last ≠ .sign "?" then pure test
  else
    let yes ← self.whole (← next) (counts && test != 0)
    if (← get).last ≠ .sign ":" then throw (.badExpression "expecting \x27:\x27")
    let first ← next
    let no ← self.choice first (← next) (counts && test == 0)
    pure (if test ≠ 0 then yes else no)

/-- The operator that an assignment carries out first, if a sign is one for assignments. -/
def assignment? (sign : String) : Option (Option String) :=
  if sign = "=" then some none
  else if ["==", "!=", "<=", ">="].contains sign then none
  else
    match sign.toList.reverse with
    | '=' :: operator => some (some (String.ofList operator.reverse))
    | _ => none

/-- Evaluates an expression, which may give a variable a value. -/
def wholeWith (self : Reading) (look : String → Option String) (first : Symbol) (counts : Bool) :
    Calculation Int := do
  let second ← next
  let assignment? := match second with
    | .sign text => assignment? text
    | _ => none
  match first, assignment? with
  | .variable name, some operator? => do
    let right ← self.whole (← next) counts
    if !counts then pure right
    else
      let value ← match operator? with
        | none => pure right
        | some operator => do liftM (operate operator (← valueOf look name) right)
      modify fun progress => { progress with assigned := (name, value) :: progress.assigned }
      pure value
  | first, _ => self.choice first second counts

/-- Evaluates parts that are nested no deeper than a limit. -/
def reading (look : String → Option String) : Nat → Reading
  | 0 =>
    let tooDeep : Calculation Int := throw (.badExpression "expecting primary")
    { whole _ _ := tooDeep, primary _ _ _ := tooDeep, binary _ _ _ _ := tooDeep
      both _ _ _ := tooDeep, either _ _ _ := tooDeep, choice _ _ _ := tooDeep }
  | limit + 1 =>
    { whole first counts := wholeWith (reading look limit) look first counts
      primary first second counts := primaryWith (reading look limit) look first second counts
      binary left operator rank counts :=
        binaryWith (reading look limit) left operator rank counts
      both first second counts := bothWith (reading look limit) first second counts
      either first second counts := eitherWith (reading look limit) first second counts
      choice first second counts := choiceWith (reading look limit) first second counts }

/-- How many parts of an expression can be inside one that a character begins. -/
def partsPerChar : Nat := 8

/-- Evaluates an expression: its value, and the values it gives to variables in order. -/
def evaluate (look : String → Option String) (text : String) :
    Except Trouble (Int × List (String × Int)) := do
  let limit := partsPerChar * (text.length + 1)
  let whole : Calculation Int := do
    let n ← (reading look limit).whole (← next) true
    if (← get).last ≠ .ending then throw (.badExpression "expecting EOF")
    pure n
  let (n, progress) ← whole.run { rest := text.toList }
  pure (n, progress.assigned.reverse)

end Arithmetic

end LineShell.Script
