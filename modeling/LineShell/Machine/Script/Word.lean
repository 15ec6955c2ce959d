import LineShell.Machine.Script.Reader
/-!
# The command language: reading words

A word is read up to the first character that cannot belong to it. Quotation marks, braces and
parentheses in it are nested in ways of their own; how a character is met depends on the level that
it stands on. Texts behind a line are read in the same way as words, up to their last line.
-/

namespace LineShell.Script

/-- How the characters of a level are read. -/
inductive Style where
  | bare
  | single
  | double
  | arithmetic
  deriving DecidableEq, Repr

/-- A level of a word. -/
structure Level where
  style : Style := .bare
  /-- Whether the level stands in double quotes, or in what counts as such. -/
  isDouble : Bool := false
  /-- How many braces are open on the level, and how many of them in double quotes. -/
  braces : Nat := 0
  quotedBraces : Nat := 0
  /-- Whether quotation marks are open inside the braces. -/
  innerQuotes : Bool := false
  parentheses : Nat := 0
  deriving DecidableEq, Repr

/-- Where commands in a word stand. -/
inductive Inner where
  /-- Up to a closing parenthesis. -/
  | script
  /-- In a text that was taken out of the script. -/
  | text (chars : List Char)

/-- Reads the commands in a word. -/
abbrev ReadInner := Inner → Parse (Option Command)

/-- What kind of word is read. -/
structure WordKind where
  /-- The line that ends the word, if it is a text behind a line, and whether tabs are stripped. -/
  document? : Option (List Char × Bool) := none
  /-- Whether it is the line that ends such a text, in which a dollar sign asks for nothing. -/
  isEnding : Bool := false

/-- Whether a dollar sign can ask for what a sign stands for. -/
def isSpecial (c : Char) : Bool := c.isDigit || ['#', '?', '$', '!', '-', '*', '@'].contains c

/-- The signs that would have a meaning in patterns or in front of names. -/
def isGuarded (c : Char) : Bool := "!*?[=~:/-".toList.contains c

/-- Whether a character ends a word that is not quoted. -/
def endsWord (c : Char) : Bool := "<>();&| \t".toList.contains c

namespace Parse

/-- Passes over a text that reaches its last line, and tells whether it does. -/
def atDocumentEnd (ending : List Char) (strips : Bool) : Parse Bool := fun reader =>
  let rest := if strips then reader.rest.dropWhile (· = '\t') else reader.rest
  let line := rest.takeWhile (· != '\n')
  let reader := { reader with rest }
  if line.length = rest.length && !reader.isWhole then .error .wanting
  else if line = ending then
    .ok (true, { reader with rest := rest.drop (line.length + 1), line := reader.line + 1 })
  else .ok (false, reader)

/-- Notes that something in the word is quoted. -/
def markQuoted : Parse Unit := modify fun reader => { reader with quoted := true }

/-- Reads characters behind joined line ends as long as they fit. -/
def span (fits : Char → Bool) : Parse (List Char) :=
  iterate (fun found => do
    match ← peekJoined with
    | some c =>
      if fits c then
        skip
        pure (.inl (c :: found))
      else pure (.inr found.reverse)
    | none => pure (.inr found.reverse)) patience []

/-- Reads the text between backquotes, behind the first. -/
def backquoted (isDouble : Bool) : Parse (List Char) :=
  iterate (fun found => do
    match ← peekJoined with
    | none => fail "EOF in backquote substitution"
    | some '\x60' =>
      skip
      pure (.inr found.reverse)
    | some '\\' =>
      skip
      match ← peek with
      | none => pure (.inl ('\\' :: found))
      | some c =>
        skip
        if c = '\\' ∨ c = '\x60' ∨ c = '$' ∨ (isDouble ∧ c = '\x22') then pure (.inl (c :: found))
        else
          if c = '\n' then countLine
          pure (.inl (c :: '\\' :: found))
    | some c =>
      skip
      if c = '\n' then countLine
      pure (.inl (c :: found))) patience []

end Parse

/-! ## Parameters -/

/-- How a parameter in braces goes on behind its name. -/
inductive Operator where
  | plain
  | length
  | bad
  /-- A word follows, which makes a form. -/
  | word (form : Word → Form)
  /-- A pattern follows. -/
  | pattern (trim : Trim)

/-- The form that a sign asks for, if it asks for one. -/
def Operator.ofSign? (colon : Bool) (c : Char) : Option Operator :=
  if c = '-' then some (.word (.orElse colon))
  else if c = '+' then some (.word (.andThen colon))
  else if c = '?' then some (.word (.orFail colon))
  else if c = '=' then some (.word (.orAssign colon))
  else none

/-- The form of a parameter with the word behind its operator. -/
def Operator.form (operator : Operator) (word : Word) : Form :=
  match operator with
  | .plain => .plain
  | .length => .length
  | .bad => .bad
  | .word form => form word
  | .pattern trim => .trimmed trim word

namespace Parse

/-- Reads the operator behind the name of a parameter in braces. -/
def operator : Parse Operator := do
  let colon ← accept ':'
  match ← peekJoined with
  | none => pure .bad
  | some c =>
    skip
    if c = '\x7d' then pure (if colon then .bad else .plain)
    else if !colon && (c = '%' || c = '#') then
      let longest ← accept c
      pure (.pattern ⟨c = '%', longest⟩)
    else pure ((Operator.ofSign? colon c).getD .bad)

/-- Reads a name, or a number of one digit or of all that follow. -/
def nameOrNumber (allDigits : Bool) : Parse (Option String) := do
  match ← peekJoined with
  | none => pure none
  | some c =>
    if beginsName c then some <$> String.ofList <$> span continuesName
    else if c.isDigit then
      if allDigits then some <$> String.ofList <$> span Char.isDigit
      else
        skip
        pure (some (String.singleton c))
    else pure none

/-- Goes back before a character. -/
def unread (c : Char) : Parse Unit := modify fun reader => { reader with rest := c :: reader.rest }

/-- Reads a parameter behind a number sign that stands first in its braces: the sign can ask for a
length, or be the parameter itself. -/
def numberSign : Parse (String × Operator) := do
  match ← nameOrNumber true with
  | some name => pure (name, if (← peekJoined) = some '\x7d' then .length else .bad)
  | none =>
    match ← peekJoined with
    | none => pure ("#", .bad)
    | some first =>
      skip
      let second? ← peekJoined
      if first = '\x7d' ∨ second? ≠ some '\x7d' then
        unread first
        pure ("#", ← operator)
      else if isSpecial first then pure (String.singleton first, .length)
      else pure ("", .bad)

/-- Reads the name of a parameter and its operator, behind the dollar sign. -/
def parameterHead : Parse (String × Operator) := do
  if ← accept '\x7b' then
    match ← nameOrNumber true with
    | some name => pure (name, ← operator)
    | none =>
      match ← peekJoined with
      | none => pure ("", .bad)
      | some c =>
        if c = '\x7d' then pure ("", .bad)
        else
          skip
          if c = '#' then numberSign
          else if isSpecial c then pure (String.singleton c, ← operator)
          else pure ("", .bad)
  else
    match ← nameOrNumber false with
    | some name => pure (name, .plain)
    | none =>
      match ← peekJoined with
      | none => pure ("", .plain)
      | some c =>
        skip
        pure (String.singleton c, .plain)

end Parse

/-! ## Levels -/

namespace Level

/-- The level inside the braces of an operator that stands on a level, and whether it is a new one.
-/
def inside (level : Level) (operator : Operator) : Level × Bool :=
  let style := match operator with
    | .pattern _ => .bare
    | _ => if level.style = .arithmetic then .double else level.style
  let isNew := style != level.style || level.innerQuotes
  let base : Level :=
    if isNew then { style, isDouble := style != .bare } else level
  ({ base with
      braces := base.braces + 1
      quotedBraces := if base.isDouble then base.quotedBraces + 1 else base.quotedBraces }, isNew)

/-- The level behind a closing brace. -/
def behindBrace (level : Level) : Level :=
  { level with braces := level.braces - 1, quotedBraces := level.quotedBraces - 1 }

/-- The level behind a quotation mark. -/
def quoteToggled (level : Level) (c : Char) : Level :=
  if c = '\x22' ∧ level.braces > 0 then { level with innerQuotes := !level.innerQuotes } else level

end Level

/-! ## Words -/

/-- A word read up to some character; what was read last stands first. -/
structure Begun where
  /-- Whether a line begins here. -/
  isFresh : Bool := false
  level : Level := {}
  parts : Word := []

namespace Begun

/-- Adds a part. -/
def add (begun : Begun) (part : Part) : Begun :=
  { begun with isFresh := false, parts := part :: begun.parts }

/-- Adds a character. -/
def addChar (begun : Begun) (escaped : Bool) (c : Char) : Begun := begun.add (.char escaped c)

end Begun

/-- What comes of a step in reading a word: it goes on, or is finished. -/
abbrev WordStep := Parse (Begun ⊕ (Word × Level))

namespace Parse

/-- Ends a word where nothing may be open. -/
def finishWord (kind : WordKind) (begun : Begun) : WordStep :=
  if begun.level.style = .arithmetic then fail "Missing \x27))\x27"
  else if begun.level.style ≠ .bare ∧ kind.document?.isNone then fail "Unterminated quoted string"
  else if begun.level.braces ≠ 0 then fail "Missing \x27\x7d\x27"
  else pure (.inr (begun.parts.reverse, begun.level))

/-- Goes on behind a backslash. -/
def escapeStep (kind : WordKind) (begun : Begun) : WordStep := do
  skip
  match ← peek with
  | none => pure (.inl (begun.addChar true '\\'))
  | some c =>
    skip
    markQuoted
    let level := begun.level
    let isLiteral := level.isDouble && c != '\\' && c != '\x60' && c != '$'
      && (c != '\x22' || (kind.document?.isSome && level.braces == 0))
      && (c != '\x7d' || level.braces == 0)
    let begun := if isLiteral then begun.addChar true '\\' else begun
    pure (.inl (begun.addChar true c))

/-- Goes on at a mark that ends a quotation. -/
def endQuoteStep (kind : WordKind) (begun : Begun) (c : Char) : WordStep := do
  skip
  if kind.document?.isSome ∧ begun.level.braces = 0 then pure (.inl (begun.addChar false c))
  else
    markQuoted
    let level :=
      if begun.level.quotedBraces = 0 then { begun.level with style := .bare, isDouble := false }
      else begun.level
    let begun := { begun with level := level.quoteToggled c, isFresh := false }
    pure (.inl (if kind.document?.isSome then begun else begun.add .mark))

/-- Goes on at a mark that begins a quotation. -/
def beginQuoteStep (kind : WordKind) (begun : Begun) (c : Char) : WordStep := do
  skip
  let level :=
    if c = '\x27' then { begun.level with style := .single }
    else { begun.level with style := .double, isDouble := true }
  let begun := { begun with level := level.quoteToggled c, isFresh := false }
  pure (.inl (if kind.document?.isSome then begun else begun.add .mark))

/-- Goes on at a dollar sign. `inner` reads what is nested in the word. -/
def dollarStep (nested : ReadInner) (kind : WordKind) (inner : Level → Parse (Word × Level))
    (begun : Begun) : WordStep := do
  skip
  match ← (if kind.isEnding then pure none else peekJoined) with
  | some '(' =>
    skip
    if ← accept '(' then
      let (expression, _) ← inner { style := .arithmetic, isDouble := true }
      pure (.inl (begun.add (.arithmetic expression)))
    else
      let script? ← nested .script
      pure (.inl (begun.add (.substitution script?)))
  | some c =>
    if c = '\x7b' || beginsName c || isSpecial c then
      let (name, operator) ← parameterHead
      match operator with
      | .plain => pure (.inl (begun.add (.parameter name .plain)))
      | operator =>
        let (level, isNew) := begun.level.inside operator
        let (word, after) ← inner level
        let begun := if isNew then begun else { begun with level := after.behindBrace }
        pure (.inl (begun.add (.parameter name (operator.form word))))
    else pure (.inl (begun.addChar false '$'))
  | none => pure (.inl (begun.addChar false '$'))

/-- Goes on with a character. `inner` reads what is nested in the word. -/
def charStep (nested : ReadInner) (kind : WordKind) (inner : Level → Parse (Word × Level))
    (begun : Begun) (c : Char) : WordStep := do
  let level := begun.level
  let keep : WordStep := do
    skip
    pure (.inl (begun.addChar false c))
  let guard : WordStep := do
    skip
    pure (.inl (begun.addChar (kind.document?.isNone || level.isDouble || level.braces > 0) c))
  if c = '\n' then
    if level.style = .bare ∧ level.braces = 0 then finishWord kind begun
    else
      skip
      countLine
      pure (.inl { begun.addChar false c with isFresh := true })
  else if level.style = .single then
    if c = '\x27' then endQuoteStep kind begun c
    else if c = '\\' || isGuarded c then guard
    else keep
  else if c = '\\' then escapeStep kind begun
  else if c = '$' then dollarStep nested kind inner begun
  else if c = '\x60' then
    if kind.isEnding then keep
    else
      skip
      let script? ← nested (.text (← backquoted level.isDouble))
      pure (.inl (begun.add (.substitution script?)))
  else if c = '\x7d' then
    if !level.innerQuotes && level.braces > 0 then
      skip
      pure (.inr (begun.parts.reverse, level))
    else keep
  else
    match level.style with
    | .double =>
      if c = '\x22' then endQuoteStep kind begun c
      else if isGuarded c then guard
      else keep
    | .arithmetic =>
      if c = '(' then
        skip
        pure (.inl { begun.addChar false c with
          level := { level with parentheses := level.parentheses + 1 } })
      else if c = ')' then
        skip
        if level.parentheses > 0 then
          pure (.inl { begun.addChar false c with
            level := { level with parentheses := level.parentheses - 1 } })
        else if ← accept ')' then pure (.inr (begun.parts.reverse, level))
        else pure (.inl (begun.addChar false c))
      else keep
    | _ =>
      if c = '\x27' ∨ c = '\x22' then beginQuoteStep kind begun c
      else if endsWord c && level.braces == 0 then finishWord kind begun
      else keep

/-- Reads the next character of a word. -/
def wordStep (nested : ReadInner) (kind : WordKind) (inner : Level → Parse (Word × Level))
    (begun : Begun) : WordStep := do
  let isOver ← match kind.document?, begun.isFresh with
    | some (ending, strips), true => atDocumentEnd ending strips
    | _, _ => pure false
  if isOver then finishWord kind begun
  else
    let c? ← if begun.level.style = .single then peek else peekJoined
    match c? with
    | none => finishWord kind begun
    | some c => charStep nested kind inner { begun with isFresh := false } c

/-- Reads what is left of a word on a level. -/
def wordOn (nested : ReadInner) (kind : WordKind) : Nat → Begun → Parse (Word × Level)
  | 0, _ => throw .tooDeep
  | fuel + 1, begun =>
    iterate (wordStep nested kind fun level => wordOn nested kind fuel { level }) patience begun

/-- How deep the parts of words can be nested. -/
def nestingLimit : Nat := 100000

/-- Reads a word. -/
def wordOf (nested : ReadInner) (isEnding : Bool) : Parse Word := do
  modify fun reader => { reader with quoted := false }
  let (word, _) ← wordOn nested { isEnding } nestingLimit {}
  pure word

/-- Reads a text behind a line. -/
def documentOf (nested : ReadInner) (awaited : Awaited) : Parse Word := do
  let level : Level :=
    if awaited.expands then { style := .double, isDouble := true } else { style := .single }
  let (word, _) ←
    wordOn nested { document? := some (awaited.ending, awaited.strips) } nestingLimit
      { isFresh := true, level }
  pure word

end Parse

end LineShell.Script
