import LineShell.Machine.Script.Builtin.Options
/-!
# The command language: conditions

A condition is about texts, numbers or files. Conditions can be joined, negated and put in
parentheses; with so few words that only one reading makes sense, that reading is taken.
-/

namespace LineShell.Script.Condition

/-- The words that are about one other word. -/
def unaryNames : List String :=
  ["-r", "-w", "-x", "-e", "-f", "-d", "-c", "-b", "-p", "-u", "-g", "-k", "-s", "-t", "-z", "-n",
    "-h", "-O", "-G", "-L", "-S"]

/-- The words that stand between two others. -/
def binaryNames : List String :=
  ["=", "!=", "<", ">", "-eq", "-ne", "-ge", "-gt", "-le", "-lt", "-nt", "-ot", "-ef"]

/-- What a word is in a condition. -/
inductive Role where
  | ending
  | operand
  | unary
  | binary
  | negation
  | both
  | either
  | opening
  | closing
  deriving DecidableEq, Repr

/-- What a word is by itself. -/
def roleOf (word : String) : Role :=
  if unaryNames.contains word then .unary
  else if binaryNames.contains word then .binary
  else
    match word with
    | "!" => .negation
    | "-a" => .both
    | "-o" => .either
    | "(" => .opening
    | ")" => .closing
    | _ => .operand

/-- What the first of some words is. -/
def role : List String → Role
  | [] => .ending
  | word :: rest =>
    match roleOf word with
    | .unary =>
      match rest with
      | [] => .operand
      | [_] => .unary
      | next :: _ => if roleOf next = .binary then .operand else .unary
    | .opening => if rest.isEmpty then .operand else .opening
    | found => found

/-- A part of judging a condition. The words begin with the one that is looked at. -/
abbrev Judging := StateT (List String) Eval

/-- Stops because something is wrong about a word. -/
def wrong {α : Type} (word text : String) : Judging α :=
  liftM (Eval.fail (α := α) (if word = "" then text else word ++ ": " ++ text))

/-- The number that a word spells. -/
def number (word : String) : Judging Int := do
  match integer? false word with
  | some n => pure n
  | none => wrong "Illegal number" word

/-- Looks at a later word. -/
def advance (count : Nat) : Judging Unit := modify (·.drop count)

/-- What is known of the file of a path. -/
def fileStatus (path : String) (follows : Bool) : Judging (Option FileStatus) := do
  match ← liftM (Eval.act (.inspect path follows)) with
  | .ok status => pure (some status)
  | .error _ => pure none

/-- Judges a condition about one word. -/
def unary (name word : String) : Judging Bool := do
  match name with
  | "-z" => pure (word = "")
  | "-n" => pure (word ≠ "")
  | "-t" => do
    discard (number word)
    pure false
  | _ =>
    let status? ← fileStatus word (name ≠ "-h" ∧ name ≠ "-L")
    match status? with
    | none => pure false
    | some status =>
      match name with
      | "-f" => pure (status.kind = .regular)
      | "-d" => pure (status.kind = .directory)
      | "-c" => pure (status.kind = .device)
      | "-h" | "-L" => pure (status.kind = .link)
      | "-s" => pure (status.size ≠ 0)
      | "-x" => pure status.executable
      | "-k" => pure (status.place = ["tmp"])
      | "-b" | "-p" | "-S" | "-u" | "-g" => pure false
      | _ => pure true

/-- Judges a condition about two words. -/
def binary (name left right : String) : Judging Bool := do
  let compared := fun (holds : Int → Int → Bool) => do
    let a ← number left
    let b ← number right
    pure (holds a b)
  match name with
  | "=" => pure (left = right)
  | "!=" => pure (left ≠ right)
  | "<" => pure (left < right)
  | ">" => pure (right < left)
  | "-eq" => compared (· == ·)
  | "-ne" => compared (· != ·)
  | "-ge" => compared fun a b => b ≤ a
  | "-gt" => compared fun a b => b < a
  | "-le" => compared fun a b => a ≤ b
  | "-lt" => compared fun a b => a < b
  | "-ef" => do
    match ← fileStatus left true, ← fileStatus right true with
    | some a, some b => pure (a.place = b.place)
    | _, _ => pure false
  | _ => pure false

/-- Judges a condition that begins with a word of a role. -/
abbrev Judge := Role → Judging Bool

/-- Judges a condition that is not joined or negated. -/
def primary (whole : Judge) (first : Role) : Judging Bool := do
  match first with
  | .ending => pure false
  | .opening => do
    advance 1
    let inner := role (← get)
    if inner = .closing then pure false
    else
      let holds ← whole inner
      advance 1
      if role (← get) ≠ .closing then wrong "" "closing paren expected" else pure holds
  | .unary => do
    match ← get with
    | name :: word :: rest => do
      set (word :: rest)
      unary name word
    | words => wrong (words.headD "") "argument expected"
  | _ => do
    match ← get with
    | left :: name :: rest =>
      if role (name :: rest) = .binary then
        match rest with
        | [] => wrong name "argument expected"
        | right :: rest => do
          set (right :: rest)
          binary name left right
      else pure (left ≠ "")
    | words => pure (words.headD "" ≠ "")

/-- Judges a condition that may be negated. -/
def negated (whole : Judge) : Nat → Judge
  | 0, _ => pure false
  | fuel + 1, first => do
    if first ≠ .negation then primary whole first
    else
      let next := role ((← get).drop 1)
      if next ≠ .ending then advance 1
      pure (!(← negated whole fuel next))

/-- Judges conditions of which all have to hold. -/
def all (whole : Judge) : Nat → Judge
  | 0, _ => pure false
  | fuel + 1, first => do
    let holds ← negated whole (fuel + 1) first
    if role ((← get).drop 1) ≠ .both then pure holds
    else
      advance 2
      let others ← all whole fuel (role (← get))
      pure (holds && others)

/-- Judges conditions of which one has to hold. -/
def any (whole : Judge) : Nat → Judge
  | 0, _ => pure false
  | fuel + 1, first => do
    let holds ← all whole (fuel + 1) first
    if role ((← get).drop 1) ≠ .either then pure holds
    else
      advance 2
      let others ← any whole fuel (role (← get))
      pure (holds || others)

/-- Judges a condition with so many words. -/
def whole : Nat → Judge
  | 0, _ => pure false
  | fuel + 1, first => any (whole fuel) (fuel + 1) first

/-- What is to be judged: whether it is negated, its words, and the role of the first; or nothing if
there are no words. -/
def prepare (isNegated : Bool) : Nat → List String → Bool × Option (Role × List String)
  | 0, _ => (isNegated, none)
  | _, [] => (isNegated, none)
  | fuel + 1, words =>
    let isBinary : Bool := match words with
      | [_, operator, _] => roleOf operator == .binary
      | _ => false
    let isShort := words.length = 3 ∨ words.length = 4
    if isBinary then (isNegated, some (.operand, words))
    else if isShort ∧ words.head? = some "(" ∧ words.getLast? = some ")" then
      let inner := (words.drop 1).dropLast
      (isNegated, some (role inner, inner))
    else if isShort ∧ words.head? = some "!" then prepare true fuel (words.drop 1)
    else (isNegated, some (role words, words))

/-- Judges the words of a condition. -/
def judge (words : List String) : Eval Bool := do
  match prepare false (words.length + 1) words with
  | (isNegated, none) => pure isNegated
  | (isNegated, some (first, words)) => do
    let (holds, rest) ← (whole (words.length + 1) first).run words
    match rest with
    | word :: _ :: _ => discard ((wrong (α := Unit) word "unexpected operator").run rest)
    | _ => pure ()
    pure (holds != isNegated)

end LineShell.Script.Condition
