import LineShell.Machine.Program
/-!
# Patterns

A pattern stands for the texts that match it: a star for any characters, a question mark for one,
brackets for one of those in them. A backslash takes its meaning from the character behind it.
`Pattern.paths` gives the paths that a pattern with slashes stands for.
-/

namespace LineShell.Script.Pattern

/-- What a character can be in brackets. -/
inductive Member where
  | range (low high : Char)
  | kind (name : String)
  deriving DecidableEq, Repr

/-- A piece of a pattern. -/
inductive Piece where
  | exactly (char : Char)
  | any
  | anyNumber
  | oneOf (negated : Bool) (members : List Member)
  deriving DecidableEq, Repr

/-- The kinds of characters that can be named in brackets. -/
def kinds : List (String × (Char → Bool)) :=
  let isGraphic := fun c : Char => '!' ≤ c && c ≤ '~'
  [("alnum", Char.isAlphanum), ("alpha", Char.isAlpha), ("blank", fun c => c = ' ' || c = '\t'),
    ("cntrl", fun c => c < ' ' || c = '\x7f'), ("digit", Char.isDigit), ("graph", isGraphic),
    ("lower", Char.isLower), ("print", fun c => c = ' ' || isGraphic c),
    ("punct", fun c => isGraphic c && !c.isAlphanum),
    ("space", fun c => c = ' ' || ('\t' ≤ c && c ≤ '\r')), ("upper", Char.isUpper),
    ("xdigit", fun c => c.isDigit || ('a' ≤ c && c ≤ 'f') || ('A' ≤ c && c ≤ 'F'))]

/-- The number by which a byte is compared with others: those from 128 on come before the others. -/
def rank (c : Char) : Int := if c.toNat < 128 then c.toNat else Int.ofNat c.toNat - 256

/-- Whether a character is a member. -/
def Member.admits (c : Char) : Member → Bool
  | .range low high => rank low ≤ rank c && rank c ≤ rank high
  | .kind name => (kinds.lookup name).any (· c)

/-- The kind that is named behind a bracket, and what follows it. -/
def kind? (cs : List Char) : Option (Member × List Char) :=
  (kinds.find? fun entry => (":" ++ entry.1 ++ ":]").toList.isPrefixOf cs).map fun entry =>
    (.kind entry.1, cs.drop (entry.1.length + 3))

/-- Reads one member in brackets, and what follows it. -/
def member? : List Char → Option (Member × List Char)
  | [] => none
  | c :: rest =>
    match if c = '[' then kind? rest else none with
    | some found => some found
    | none =>
      let (low?, rest) :=
        if c = '\\' then (rest.head?, rest.drop 1) else (some c, rest)
      low?.bind fun low =>
        match rest with
        | '-' :: ']' :: _ => some (.range low low, rest)
        | '-' :: '\\' :: high :: after => some (.range low high, after)
        | '-' :: high :: after => some (.range low high, after)
        | _ => some (.range low low, rest)

/-- Reads members up to the closing bracket, of which the first is never one. -/
def members? : Nat → List Char → Option (List Member × List Char)
  | 0, _ => none
  | fuel + 1, cs =>
    match member? cs with
    | none => none
    | some (member, ']' :: after) => some ([member], after)
    | some (member, rest) => (members? fuel rest).map fun (more, after) => (member :: more, after)

/-- Reads what stands in brackets, and what follows them; nothing if they are not closed. -/
def brackets? (cs : List Char) : Option (Piece × List Char) :=
  let negated := cs.head? == some '!'
  (members? cs.length (if negated then cs.drop 1 else cs)).map fun (members, after) =>
    (.oneOf negated members, after)

/-- The pieces of a pattern. A bracket that is not closed stands for itself. -/
def piecesWithin : Nat → List Char → List Piece
  | 0, _ => []
  | _, [] => []
  | fuel + 1, c :: rest =>
    if c = '*' then .anyNumber :: piecesWithin fuel rest
    else if c = '?' then .any :: piecesWithin fuel rest
    else if c = '[' then
      match brackets? rest with
      | some (piece, after) => piece :: piecesWithin fuel after
      | none => .exactly '[' :: piecesWithin fuel rest
    else if c = '\\' then
      match rest with
      | escaped :: rest => .exactly escaped :: piecesWithin fuel rest
      | [] => [.exactly '\\']
    else .exactly c :: piecesWithin fuel rest

/-- The pieces of a pattern. -/
def pieces (cs : List Char) : List Piece := piecesWithin cs.length cs

/-- Whether characters match pieces. -/
def fits (pattern : List Piece) (cs : List Char) : Bool :=
  match pattern, cs with
  | [], cs => cs.isEmpty
  | .anyNumber :: rest, [] => fits rest []
  | .anyNumber :: rest, c :: cs => fits rest (c :: cs) || fits (.anyNumber :: rest) cs
  | _ :: _, [] => false
  | .exactly char :: rest, c :: cs => char == c && fits rest cs
  | .any :: rest, _ :: cs => fits rest cs
  | .oneOf negated members :: rest, c :: cs =>
    (members.any (Member.admits c)) != negated && fits rest cs
termination_by pattern.length + cs.length

/-! ## Taking matches off a text -/

/-- What is left of a text without what a pattern matches at its front or its end. -/
def trim (atEnd longest : Bool) (pattern : List Piece) (text : List Char) : Nat × Nat :=
  let lengths := List.range (text.length + 1)
  let cuts := if atEnd != longest then lengths.reverse else lengths
  if atEnd then
    match cuts.find? fun n => fits pattern (text.drop n) with
    | some n => (0, n)
    | none => (0, text.length)
  else
    match cuts.find? fun n => fits pattern (text.take n) with
    | some n => (n, text.length)
    | none => (0, text.length)

/-! ## Paths -/

/-- Whether a bracket that was opened is closed, and not at once. -/
def isClosed : List Char → Bool
  | [] => false
  | '\\' :: _ :: ']' :: _ => true
  | '\\' :: _ :: rest => isClosed rest
  | _ :: ']' :: _ => true
  | _ :: rest => isClosed rest

/-- Whether a pattern without slashes stands for more than one name. -/
def isOpen : List Char → Bool
  | [] => false
  | '\\' :: _ :: rest => isOpen rest
  | '[' :: rest =>
    isClosed (if rest.head? = some '!' then rest.drop 1 else rest) || isOpen rest
  | c :: rest => c = '*' || c = '?' || isOpen rest

/-- Cuts a pattern at its slashes; a backslash in front of one is dropped. -/
def parts : List Char → List (List Char)
  | [] => [[]]
  | '\\' :: '/' :: rest => [] :: parts rest
  | '/' :: rest => [] :: parts rest
  | '\\' :: c :: rest =>
    match parts rest with
    | part :: more => ('\\' :: c :: part) :: more
    | [] => [['\\', c]]
  | c :: rest =>
    match parts rest with
    | part :: more => (c :: part) :: more
    | [] => [[c]]

/-- The name that a pattern stands for which stands for one only. -/
def plain : List Char → List Char
  | '\\' :: c :: rest => c :: plain rest
  | c :: rest => c :: plain rest
  | [] => []

/-- Whether a pattern stands for a name. Names that begin with a point are passed over, unless the
pattern begins with one. -/
def admits (pattern : List Char) (name : String) : Bool :=
  let first := if pattern.head? = some '\\' then (pattern.drop 1).head? else pattern.head?
  (name.toList.head? != some '.' || first == some '.') && fits (pieces pattern) name.toList

/-- The paths that the parts of a pattern stand for behind a beginning. -/
def pathsFrom (start : String) : List (List Char) → Act (List String)
  | [] => pure []
  | part :: more => do
    if isOpen part then
      let names? ← Act.names (if start = "" then "." else start)
      let found := ((names?.getD []).filter (admits part)).map (start ++ ·)
      if more.isEmpty then pure found
      else
        let below ← found.mapM fun path => pathsFrom (path ++ "/") more
        pure below.flatten
    else
      let path := start ++ String.ofList (plain part)
      if more.isEmpty then
        match ← Act.inspect path false with
        | .ok _ => pure [path]
        | .error _ => pure []
      else pathsFrom (path ++ "/") more

/-- The paths that a pattern stands for, in order; none if it stands for one path only. -/
def paths (pattern : List Char) : Act (List String) := do
  let parts := parts pattern
  if parts.any isOpen then
    let found ← pathsFrom "" parts
    pure (found.mergeSort fun a b => a ≤ b)
  else pure []

end LineShell.Script.Pattern
