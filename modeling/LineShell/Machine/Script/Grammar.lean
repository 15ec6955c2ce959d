import LineShell.Machine.Script.Word
/-!
# The command language: reading commands

Commands are read one line at a time, or as far beyond it as they reach. What is wrong with a script
shows only when it is come to, so what stands before it is run.
-/

namespace LineShell.Script

/-- What is looked for while a token is read. -/
structure Check where
  /-- Whether line ends are passed over. -/
  lines : Bool := false
  keywords : Bool := false
  aliases : Bool := false
  deriving DecidableEq, Repr

namespace Check

/-- Where a command may begin, perhaps on a later line. -/
def onward : Check := ⟨true, true, true⟩

/-- Where a command may begin on this line. -/
def here : Check := ⟨false, true, true⟩

end Check

/-- The names of the commands that no function can have. -/
def specialNames : List String :=
  [".", ":", "break", "continue", "eval", "exec", "exit", "export", "local", "readonly", "return",
    "set", "shift", "times", "trap", "unset"]

/-- Which end a list of commands has. -/
inductive ListEnd where
  /-- A token that cannot go on with a list; at least one command must come first. -/
  | afterOne
  /-- The end of the line. -/
  | line
  /-- A token that ends lists, even if no command comes first. -/
  | any
  deriving DecidableEq, Repr

/-- Whether a token ends lists of commands. -/
def Token.endsList : Token → Bool
  | .endOfFile | .close | .endCase => true
  | .keyword it => [Keyword.do, .done, .elif, .else, .esac, .fi, .then, .closing].contains it
  | _ => false

/-- Reads a list of commands. -/
abbrev ReadList := ListEnd → Parse (Option Command)

namespace Parse

/-! ## Tokens -/

/-- Stops at the last token, and tells which one should stand there. -/
def unexpected {α : Type} (expected? : Option Token) : Parse α := do
  let hint := expected?.elim "" fun token => " (expecting " ++ token.shown ++ ")"
  fail ((← get).token.shown ++ " unexpected" ++ hint)

/-- Notes a token as the last one. -/
def found (token : Token) : Parse Token := do
  modify fun reader => { reader with token }
  pure token

/-- Lets the last token be read again. -/
def readAgain : Parse Unit := modify fun reader => { reader with again := true }

/-- Passes over a comment. -/
def skipComment : Parse Unit := fun reader =>
  let rest := reader.rest.dropWhile (· != '\n')
  let ends := (reader.rest.takeWhile (· != '\n')).countP (· = aliasEnd)
  if rest.isEmpty && !reader.isWhole then .error .wanting
  else .ok ((), { reader with rest, inUse := reader.inUse.drop ends })

/-- The token of a sign that may be doubled. -/
def doubled (c : Char) (one two : Token) : Parse Token := do
  skip
  found (if ← accept c then two else one)

/-- Reads the sign of a redirection. -/
def sign (isOutput : Bool) (digit? : Option Nat) : Parse Token := do
  skip
  let next ← peekJoined
  let descriptor := digit?.getD (if isOutput then 1 else 0)
  let sign ← match isOutput, next with
    | true, some '>' => skip *> pure (.file .appended descriptor)
    | true, some '|' => skip *> pure (.file .forced descriptor)
    | _, some '&' => skip *> pure (.twin descriptor)
    | true, _ => pure (.file .output descriptor)
    | false, some '<' => do
      skip
      pure (.document descriptor (← accept '-'))
    | false, some '>' => skip *> pure (.file .both descriptor)
    | false, _ => pure (.file .input descriptor)
  modify fun reader => { reader with sign }
  found .redirection

/-- The number that a word gives to the sign behind it, if it is nothing else: no number at all, or
one digit. -/
def signDigit? (word : Word) : Option (Option Nat) :=
  match word with
  | [] => some none
  | [.char false c] => if c.isDigit then some (some (c.toNat - '0'.toNat)) else none
  | _ => none

/-- Reads a word, or the sign of a redirection that a word leads to. -/
def wordOrSign (nested : ReadInner) (isEnding : Bool) : Parse Token := do
  let word ← wordOf nested isEnding
  let next ← peekJoined
  match (← get).quoted, next, signDigit? word with
  | false, some '>', some digit? => sign true digit?
  | false, some '<', some digit? => sign false digit?
  | _, _, _ => do
    modify fun reader => { reader with word }
    found .word

/-- Reads a token as it stands there. -/
def rawToken (nested : ReadInner) (isEnding : Bool) : Parse Token := do
  if (← get).again then
    modify fun reader => { reader with again := false }
    pure (← get).token
  else
    iterate (fun () => do
      match ← peekJoined with
      | none => .inr <$> found .endOfFile
      | some c =>
        if c = ' ' ∨ c = '\t' then
          skip
          pure (.inl ())
        else if c = '#' then
          skipComment
          pure (.inl ())
        else if c = '\n' then
          skip
          countLine
          .inr <$> found .newline
        else if c = '&' then .inr <$> doubled c .background .and
        else if c = '|' then .inr <$> doubled c .pipe .or
        else if c = ';' then .inr <$> doubled c .semicolon .endCase
        else if c = '(' then skip *> (.inr <$> found .open)
        else if c = ')' then skip *> (.inr <$> found .close)
        else .inr <$> wordOrSign nested isEnding) patience ()

/-- Reads the texts that were asked for in the line that has ended. -/
def readDocuments (nested : ReadInner) : Parse Unit := do
  let awaited := (← get).awaited
  modify fun reader => { reader with awaited := [] }
  awaited.forM fun document => do
    let word ← documentOf nested document
    modify fun reader =>
      { reader with documents := (document.number, word) :: reader.documents }

/-- Reads the text of an alias in place of the last word, if it is one. -/
def expandAlias (name : String) : Parse Bool := do
  let reader ← get
  match reader.aliases.lookup name with
  | none => pure false
  | some text =>
    if reader.inUse.any (·.1 = name) then pure false
    else
      if text ≠ "" then
        let endsBlank := text.toList.getLast?.any fun c => c = ' ' || c = '\t'
        set { reader with
          rest := text.toList ++ aliasEnd :: reader.rest,
          inUse := (name, endsBlank) :: reader.inUse }
      pure true

/-- Reads a token, looking for what is to be looked for. -/
def token (nested : ReadInner) (check : Check) (isEnding : Bool) : Parse Token :=
  iterate (fun check => do
    let token ← rawToken nested isEnding
    if check.lines && token = .newline then
      readDocuments nested
      pure (.inl check)
    else
      let check := { check with aliases := check.aliases || (← get).aliasMayFollow }
      modify fun reader => { reader with aliasMayFollow := false }
      match token = .word && !(← get).quoted, (← get).word.bare? with
      | true, some text =>
        let text := String.ofList text
        match check.keywords, Keyword.spellings.lookup text with
        | true, some keyword => .inr <$> found (.keyword keyword)
        | _, _ => do
          let isAlias ← if check.aliases then expandAlias text else pure false
          pure (if isAlias then .inl check else .inr token)
      | _, _ => pure (.inr token)) patience check

/-! ## Redirections -/

/-- The redirection that a sign makes with the word behind it. -/
def redirectionOf (sign : Sign) (word : Word) : Parse Redirection := do
  match sign with
  | .file use descriptor => pure (.file use descriptor word)
  | .twin descriptor =>
    match word with
    | [.char false c] =>
      if c.isDigit then pure (.twin descriptor (.number (c.toNat - '0'.toNat)))
      else if c = '-' then pure (.twin descriptor .closed)
      else pure (.twinOf descriptor word)
    | word => pure (.twinOf descriptor word)
  | .document descriptor strips =>
    let reader ← get
    let expands := !reader.quoted
    let ending := word.filterMap fun | .char _ c => some c | _ => none
    let number := reader.nextDocument
    let document : Awaited := { number, ending, expands, strips }
    set { reader with
      nextDocument := number + 1, awaited := reader.awaited ++ [document] }
    pure (.document descriptor expands number)

/-- Reads the rest of a redirection, behind its sign. -/
def redirection (nested : ReadInner) : Parse Redirection := do
  let sign := (← get).sign
  let isEnding := match sign with
    | .document _ _ => true
    | _ => false
  if (← token nested {} isEnding) ≠ .word then unexpected none
  else redirectionOf sign (← get).word

/-- Reads redirections, as many as there are. -/
def redirections (nested : ReadInner) : Parse (List Redirection) :=
  iterate (fun found => do
    if (← token nested .here false) = .redirection then
      let redirection ← redirection nested
      pure (.inl (redirection :: found))
    else
      readAgain
      pure (.inr found.reverse)) patience []

/-! ## Commands -/

/-- The parts of a simple command so far; what was found last stands first. -/
structure Simple where
  assignments : List Word := []
  words : List Word := []
  redirections : List Redirection := []

/-- Reads a simple command, or the definition of a function. `command` reads its body. -/
def simple (nested : ReadInner) (command : Check → Parse Command) : Parse Command := do
  let line := (← get).line
  iterate (fun (parts : Simple) => do
    match ← token nested { aliases := parts.words.isEmpty } false with
    | .word =>
      let word := (← get).word
      if parts.words.isEmpty && word.assigned?.isSome then
        pure (.inl { parts with assignments := word :: parts.assignments })
      else pure (.inl { parts with words := word :: parts.words })
    | .redirection =>
      let redirection ← redirection nested
      pure (.inl { parts with redirections := redirection :: parts.redirections })
    | other =>
      match other, parts.words, parts.assignments.isEmpty && parts.redirections.isEmpty with
      | .open, [name], true =>
        if (← token nested {} false) ≠ .close then unexpected (some .close)
        else
          match name.bare? with
          | some name =>
            let text := String.ofList name
            if isName name && !specialNames.contains text then
              let line := (← get).line
              pure (.inr (.definition line text (← command .onward)))
            else fail "Bad function name"
          | none => fail "Bad function name"
      | _, _, _ =>
        readAgain
        pure (.inr (.simple line parts.assignments.reverse parts.words.reverse
          parts.redirections.reverse))) patience {}

/-- Reads a list that must not be empty; if it is, another token should stand there. -/
def body (list : ReadList) (expected : Token) : Parse Command := do
  match ← list .afterOne with
  | some command => pure command
  | none => unexpected (some expected)

/-- Reads a list and the keyword behind it. -/
def bodyBefore (nested : ReadInner) (list : ReadList) (keyword : Keyword) : Parse Command := do
  let command ← list .afterOne
  if (← token nested {} false) ≠ .keyword keyword then unexpected (some (.keyword keyword))
  else
    match command with
    | some command => pure command
    | none => unexpected none

/-- Reads the tests and bodies of a choice, behind the word that begins it. -/
def choice (nested : ReadInner) (list : ReadList) : Parse Command := do
  let branches ← iterate (fun found => do
    let test ← bodyBefore nested list .then
    let yes ← body list (.keyword .fi)
    if (← token nested {} false) = .keyword .elif then pure (.inl ((test, yes) :: found))
    else pure (.inr ((test, yes) :: found))) patience []
  let no ←
    if (← get).token = .keyword .else then list .afterOne
    else
      readAgain
      pure none
  match branches with
  | [] => unexpected none
  | (test, yes) :: earlier =>
    pure (earlier.foldl (fun no (test, yes) => .choice test yes (some no)) (.choice test yes no))

/-- Reads words up to a token that is none. -/
def words (nested : ReadInner) : Parse (List Word) :=
  iterate (fun found => do
    if (← token nested {} false) = .word then
      let word := (← get).word
      pure (.inl (word :: found))
    else pure (.inr found.reverse)) patience []

/-- The words that stand for all arguments. -/
def allArguments : List Word := [[.mark, .parameter "@" .plain, .mark]]

/-- Reads a loop over words, behind the word that begins it. -/
def each (nested : ReadInner) (list : ReadList) (line : Nat) : Parse Command := do
  let isWord := (← token nested {} false) = .word && !(← get).quoted
  match isWord, (← get).word.bare? with
  | true, some name =>
    if !isName name then fail "Bad for loop variable"
    else
      let words ←
        if (← token nested .onward false) = .keyword .in then do
          let words ← words nested
          if (← get).token ≠ .newline ∧ (← get).token ≠ .semicolon then unexpected none
          else pure words
        else do
          if (← get).token ≠ .semicolon then readAgain
          pure allArguments
      if (← token nested .onward false) ≠ .keyword .do then unexpected (some (.keyword .do))
      else
        let body ← bodyBefore nested list .done
        pure (.each line (String.ofList name) words body)
  | _, _ => fail "Bad for loop variable"

/-- Reads the patterns of a branch, of which the first was read. -/
def patterns (nested : ReadInner) : Parse (List Word) :=
  iterate (fun found => do
    let word := (← get).word
    if (← token nested {} false) = .pipe then
      let _ ← token nested {} false
      pure (.inl (word :: found))
    else pure (.inr (word :: found).reverse)) patience []

/-- Reads the branches of a choice by patterns and the word that ends it. -/
def branches (nested : ReadInner) (list : ReadList) : Parse (List Branch) :=
  iterate (fun (found : List Branch) => do
    if (← token nested { lines := true, keywords := true } false) = .keyword .esac then
      pure (.inr found.reverse)
    else
      if (← get).token = .open then
        let _ ← token nested {} false
      let patterns ← patterns nested
      if (← get).token ≠ .close then unexpected (some .close)
      else
        let body ← list .any
        let found := .mk patterns body :: found
        match ← token nested { lines := true, keywords := true } false with
        | .keyword .esac => pure (.inr found.reverse)
        | .endCase => pure (.inl found)
        | _ => unexpected (some .endCase)) patience []

/-- Reads a choice by patterns, behind the word that begins it. -/
def cases (nested : ReadInner) (list : ReadList) (line : Nat) : Parse Command := do
  if (← token nested {} false) ≠ .word then unexpected (some .word)
  else
    let subject := (← get).word
    if (← token nested .onward false) ≠ .keyword .in then unexpected (some (.keyword .in))
    else
      let branches ← branches nested list
      pure (.cases line subject branches)

/-- Puts redirections behind a command that is made of others. -/
def withRedirections (nested : ReadInner) (line : Nat) (command : Command) : Parse Command := do
  match ← redirections nested, command with
  | [], command => pure command
  | found, .subshell line body _ => pure (.subshell line body found)
  | found, command => pure (.redirected line command found)

/-- Reads a command. `command` reads the body of a function. -/
def command (nested : ReadInner) (list : ReadList) (command : Check → Parse Command)
    (check : Check) : Parse Command := do
  let line := (← get).line
  match ← token nested check false with
  | .keyword .if => do
    let made ← choice nested list
    if (← token nested {} false) ≠ .keyword .fi then unexpected (some (.keyword .fi))
    else withRedirections nested line made
  | .keyword .while => do
    let test ← bodyBefore nested list .do
    let body ← bodyBefore nested list .done
    withRedirections nested line (.loop false test body)
  | .keyword .until => do
    let test ← bodyBefore nested list .do
    let body ← bodyBefore nested list .done
    withRedirections nested line (.loop true test body)
  | .keyword .for => do withRedirections nested line (← each nested list line)
  | .keyword .case => do withRedirections nested line (← cases nested list line)
  | .open => do
    let body ← body list .close
    if (← token nested {} false) ≠ .close then unexpected (some .close)
    else withRedirections nested line (.subshell line body [])
  | .keyword .opening => do
    let body ← bodyBefore nested list .closing
    withRedirections nested line body
  | .word | .redirection => do
    readAgain
    simple nested command
  | _ => unexpected none

/-- Reads the commands behind the first one of a pipeline. -/
def pipeline (nested : ReadInner) (command : Check → Parse Command) : Parse Command := do
  let negated := (← token nested {} false) = .keyword .bang
  if !negated then readAgain
  else
    let _ ← token nested .here false
    readAgain
  let first ← command {}
  let commands ← iterate (fun found => do
    if (← token nested {} false) = .pipe then
      let _ ← token nested .onward false
      readAgain
      let next ← command {}
      pure (.inl (next :: found))
    else
      readAgain
      pure (.inr found.reverse)) patience [first]
  let made := match commands with
    | [one] => one
    | commands => .pipeline false commands
  pure (if negated then .negated made else made)

/-- Reads pipelines of which one runs after the other, as the other came out. -/
def andOr (nested : ReadInner) (command : Check → Parse Command) : Parse Command := do
  let first ← pipeline nested command
  iterate (fun found => do
    match ← token nested {} false with
    | .and => do
      let _ ← token nested .onward false
      readAgain
      let next ← pipeline nested command
      pure (.inl (.both found next))
    | .or => do
      let _ ← token nested .onward false
      readAgain
      let next ← pipeline nested command
      pure (.inl (.either found next))
    | _ => do
      readAgain
      pure (.inr found)) patience first

/-- Puts a command into the background. -/
def inBackground : Command → Command
  | .pipeline _ commands => .pipeline true commands
  | .redirected line body redirections => .background line body redirections
  | command => .background 0 command []

/-- Joins a command to those before it. -/
def append (before? : Option Command) (command : Command) : Command :=
  match before? with
  | none => command
  | some before => .sequence before command

/-- Reads a list of commands. `command` reads one of them. -/
def listOf (nested : ReadInner) (command : Check → Parse Command) (ending : ListEnd) :
    Parse (Option Command) :=
  let check : Check := if ending = .line then .here else .onward
  iterate (fun ((mayEnd, before?) : Bool × Option Command) => do
    match ← token nested check false with
    | .newline => do
      readDocuments nested
      pure (.inr before?)
    | .endOfFile => do
      readDocuments nested
      discard (found .endOfFile)
      readAgain
      pure (.inr before?)
    | first => do
      readAgain
      if mayEnd && first.endsList then pure (.inr before?)
      else
        let made ← andOr nested command
        let last ← token nested {} false
        let joined := append before? (if last = .background then inBackground made else made)
        match last with
        | .endOfFile => do
          readDocuments nested
          discard (found .endOfFile)
          readAgain
          pure (.inr (some joined))
        | .newline => do
          readAgain
          pure (.inl (true, some joined))
        | .background | .semicolon => pure (.inl (true, some joined))
        | _ =>
          if ending = .line then unexpected none
          else do
            readAgain
            pure (.inr (some joined))) patience (ending == .any, none)

/-- Reads the commands in a word, given how lists are read. -/
def innerOf (nested : ReadInner) (list : ReadList) : ReadInner
  | .script => do
    let awaited := (← get).awaited
    modify fun reader => { reader with awaited := [] }
    let script? ← list .any
    if (← token nested {} false) ≠ .close then unexpected (some .close)
    else
      readDocuments nested
      modify fun reader => { reader with awaited }
      pure script?
  | .text chars => do
    let outer ← get
    set { outer with
      rest := chars, line := 1, isWhole := true, awaited := [], inUse := [] }
    let script? ← list .any
    readDocuments nested
    modify fun reader =>
      { outer with
        again := false, documents := reader.documents, nextDocument := reader.nextDocument }
    pure script?

mutual

/-- Reads the commands in a word, nested no deeper than a limit. -/
def innerWithin : Nat → ReadInner
  | 0, _ => throw .tooDeep
  | limit + 1, inner => innerOf (innerWithin limit) (listWithin limit) inner

/-- Reads a list of commands, nested no deeper than a limit. -/
def listWithin : Nat → ReadList
  | 0, _ => throw .tooDeep
  | limit + 1, ending => listOf (innerWithin limit) (commandWithin limit) ending

/-- Reads a command, nested no deeper than a limit. -/
def commandWithin : Nat → Check → Parse Command
  | 0, _ => throw .tooDeep
  | limit + 1, check =>
    command (innerWithin limit) (listWithin limit) (commandWithin limit) check

end

/-- Reads a text as one in double quotes, except that double quotes stand for themselves. -/
def quotedText : Parse Word :=
  documentOf (innerWithin nestingLimit)
    { number := 0, ending := [aliasEnd], expands := true, strips := false }

/-- Reads the commands of the next line, if there are any on it; or nothing at the end. -/
def nextLine : Parse (Option (Option Command)) := do
  modify fun reader => { reader with again := false, awaited := [] }
  let command? ← listWithin nestingLimit .line
  pure (if command?.isNone && (← get).token = .endOfFile then none else some command?)

end Parse

end LineShell.Script
