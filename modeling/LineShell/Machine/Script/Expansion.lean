import LineShell.Machine.Script.Pattern
import LineShell.Machine.Script.State
import LineShell.Machine.SystemSignal
/-!
# The command language: what words stand for

Parameters, outputs of commands and values of expressions are put into a word first. Where they are
not quoted, and where the word is one of several, their text is split at separators, so one word can
become several or none. Then a word that is a pattern becomes the paths it stands for.
-/

namespace LineShell.Script

/-- A unit of a word whose parameters are known. -/
inductive Glyph where
  /-- A character, and whether it stands for nothing but itself. -/
  | char (escaped : Bool) (char : Char)
  /-- A quotation mark. -/
  | mark
  deriving DecidableEq, Repr

namespace Glyph

/-- The text of units. -/
def text (glyphs : List Glyph) : String :=
  String.ofList (glyphs.filterMap fun | .char _ c => some c | .mark => none)

/-- The pattern that units make: a backslash stands in front of what is escaped. A backslash that
came out of a parameter escapes what follows it. -/
def pattern (inQuotes afterBackslash : Bool) : List Glyph → List Char
  | [] => []
  | .mark :: rest => pattern (!inQuotes) afterBackslash rest
  | .char true c :: rest =>
    let front := if !afterBackslash then ['\\'] else if inQuotes then ['\\', '\\'] else []
    front ++ c :: pattern inQuotes false rest
  | .char false c :: rest => c :: pattern inQuotes (c = '\\') rest

/-- The pieces of the pattern that units make. -/
def pieces (glyphs : List Glyph) : List Pattern.Piece :=
  Pattern.pieces (pattern false false glyphs)

/-- The paths that units stand for: themselves, if they are no pattern or there is no such path. -/
def paths (glyphs : List Glyph) : Act (List String) := do
  match ← Pattern.paths (pattern false false glyphs) with
  | [] => pure [text glyphs]
  | found => pure found

end Glyph

/-- A part of a text that is to be split. -/
structure Region where
  start : Nat
  stop : Nat
  /-- Whether it is split between arguments only. -/
  betweenOnly : Bool := false
  deriving DecidableEq, Repr

/-- A text in the making, with its parts that are to be split. -/
structure Text where
  glyphs : Array Glyph := #[]
  regions : Array Region := #[]

/-- The unit between two arguments. -/
def breakGlyph : Glyph := .char false '\x00'

namespace Text

/-- How far the text has come. -/
def size (text : Text) : Nat := text.glyphs.size

/-- Adds a unit. -/
def push (text : Text) (glyph : Glyph) : Text := { text with glyphs := text.glyphs.push glyph }

/-- Adds units. -/
def append (text : Text) (glyphs : List Glyph) : Text :=
  { text with glyphs := text.glyphs ++ glyphs.toArray }

/-- Notes a part that is to be split. -/
def note (text : Text) (region : Region) : Text :=
  { text with regions := text.regions.push region }

/-- Goes back to where the text had a size. -/
def cut (text : Text) (size : Nat) : Text :=
  { glyphs := text.glyphs.take size, regions := text.regions.filter (·.start < size) }

end Text

/-! ## Splitting -/

/-- A blank that separates, of which many are like one. -/
def isPlainSeparator (c : Char) : Bool := [' ', '\t', '\n', '\x00'].contains c

/-- How far a text has been split. -/
structure Splitting where
  /-- Where the word begins that is being made. -/
  start : Nat := 0
  /-- Whether the last character was a blank that separated. -/
  afterBlank : Bool := false
  isBetween : Bool := false
  wasBetween : Bool := false
  /-- How many words can still be made, if not any number. -/
  room? : Option Nat
  /-- Where blanks at the end of the last word begin. -/
  tail? : Option Nat := none
  /-- The words, the last first. -/
  words : List (List Glyph) := []

namespace Splitting

/-- The units between two places. -/
def slice (glyphs : Array Glyph) (start stop : Nat) : List Glyph :=
  (glyphs.extract start stop).toList

/-- Goes on at a separator that ends the word before it. -/
def close (splitting : Splitting) (glyphs : Array Glyph) (place : Nat) : Splitting :=
  match splitting.room? with
  | some 1 => { splitting with room? := some 0, tail? := some place }
  | room? =>
    { splitting with
      room? := room?.map (· - 1)
      words := slice glyphs splitting.start place :: splitting.words
      start := place + 1 }

/-- Goes on with a character in a part that is to be split. -/
def step (separators : List Char) (glyphs : Array Glyph) (splitting : Splitting) (place : Nat) :
    Splitting :=
  match glyphs[place]? with
  | some (.char _ c) =>
    let separates := c = '\x00' || (!splitting.isBetween && separators.contains c)
    let isPlain := separates && isPlainSeparator c
    if splitting.room? = some 0 then
      if isPlain then { splitting with tail? := some (splitting.tail?.getD place) }
      else
        let tail? := if separates && splitting.afterBlank then splitting.tail? else none
        { splitting with tail?, afterBlank := false }
    else if splitting.afterBlank then
      let moved := { splitting with start := if separates then place + 1 else place }
      if isPlain then moved else { moved with afterBlank := false }
    else if separates then
      let isFree := splitting.wasBetween || splitting.isBetween
      let splitting := if isFree then splitting else { splitting with afterBlank := isPlain }
      if place = splitting.start ∧ splitting.afterBlank then
        { splitting with start := place + 1, afterBlank := false }
      else splitting.close glyphs place
    else splitting
  | _ => splitting

/-- Goes on with a part that is to be split. -/
def region (separators : List Char) (glyphs : Array Glyph) (splitting : Splitting)
    (region : Region) : Splitting :=
  let begun := { splitting with
    wasBetween := splitting.isBetween, isBetween := region.betweenOnly, afterBlank := false }
  (List.range' region.start (region.stop - region.start)).foldl (step separators glyphs) begun

end Splitting

/-- The words that a text becomes, of which there may be at most so many. -/
def Text.split (text : Text) (separators : List Char) (most? : Option Nat) : List (List Glyph) :=
  let done := text.regions.foldl (Splitting.region separators text.glyphs)
    ({ room? := most? } : Splitting)
  let rest := Splitting.slice text.glyphs done.start (done.tail?.getD text.size)
  (if rest.isEmpty && !done.isBetween then done.words else rest :: done.words).reverse

/-! ## Putting things into words -/

/-- In which way a word is expanded. -/
structure Mode where
  /-- Whether it is one of several, so that it is split. -/
  splits : Bool := false
  /-- Whether it is in double quotes. -/
  quoted : Bool := false
  /-- Whether it stands for a parameter. -/
  isValue : Bool := false
  /-- Whether a tilde at its front stands for a directory. -/
  tilde : Bool := false
  /-- Whether it gives a variable a value, so that a tilde can stand behind some signs. -/
  isAssignment : Bool := false
  /-- Whether the sign has been met that gives the value. -/
  assigns : Bool := false
  deriving DecidableEq, Repr

/-- The directories of users. -/
def homes : List (String × String) :=
  [("root", "/root"), ("daemon", "/usr/sbin"), ("bin", "/bin"), ("sys", "/dev"), ("sync", "/bin"),
    ("games", "/usr/games"), ("mail", "/var/mail"), ("nobody", "/nonexistent")]

/-- The units of a text that was not in the script. In quotes, what would have a meaning in patterns is
escaped. -/
def glyphsOf (quoted : Bool) (text : String) : List Glyph :=
  text.toList.map fun c => .char (quoted && (isGuarded c || c = '\\')) c

/-- The name in front of which a tilde stands at the front of a word, if nothing in it is quoted. -/
def tildeName? (mode : Mode) (word : Word) : Option String :=
  let isOver := fun c : Char => c = '/' || (c = ':' && mode.isAssignment)
  let rec go : Word → Option (List Char)
    | [] => some []
    | .char false c :: rest => if isOver c then some [] else (go rest).map (c :: ·)
    | _ => none
  match word with
  | .char false '~' :: rest => (go rest).map String.ofList
  | _ => none

/-- The directory that a tilde in front of a name stands for. -/
def homeOf? (state : State) (name : String) : Option String :=
  if name = "" then state.value? "HOME" else homes.lookup name

/-- Puts the output of commands into words. -/
abbrev Substitute := Command → Eval String

/-- Expands a word behind a text. -/
abbrev ExpandWord := Mode → Word → Text → Eval Text

namespace Expand

/-- The texts of arguments as one, or with breaks between them. -/
def joined (mode : Mode) (isEach : Bool) (state : State) : List Glyph :=
  let breaks := mode.splits && (isEach || !mode.quoted)
  let separator : List Glyph :=
    if breaks then
      if !mode.quoted && (state.value? "IFS").isNone then [.char false ' '] else [breakGlyph]
    else
      match state.value? "IFS" with
      | none => [.char false ' ']
      | some text => (glyphsOf mode.quoted text).take 1
  separator.intercalate (state.arguments.map (glyphsOf mode.quoted))

/-- The value of a parameter. -/
def value? (mode : Mode) (name : String) (state : State) : Option (List Glyph) :=
  let text := fun text => some (glyphsOf mode.quoted text)
  match name with
  | "$" => text (decimal state.pid)
  | "?" => text (decimal state.status)
  | "#" => text (decimal state.arguments.length)
  | "!" => state.background?.bind (text ∘ decimal)
  | "-" => text state.optionLetters
  | "@" => some (joined mode true state)
  | "*" => some (joined mode false state)
  | name =>
    if name.toList.head?.any Char.isDigit then
      match integer? false name with
      | some 0 => text state.name
      | some n => (state.arguments[n.toNat - 1]?).bind text
      | none => none
    else (state.value? name).bind text

/-- Complains of a parameter that has no value. -/
def complainUnset {α : Type} (name : String) (text? : Option String) (orEmpty : Bool) : Eval α :=
  Eval.fail (name ++ ": " ++
    text?.getD ("parameter not set" ++ if orEmpty then " or null" else ""))

/-- Notes that what was added is to be split, if it is. -/
def noteValue (mode : Mode) (name : String) (start : Nat) (text : Text) : Eval Text := do
  if !mode.quoted then pure (text.note { start, stop := text.size })
  else if name = "@" && !(← get).arguments.isEmpty then
    pure (text.note { start, stop := text.size, betweenOnly := true })
  else pure text

/-- Expands a parameter. -/
def parameter (expand : ExpandWord) (mode : Mode) (name : String) (form : Form) (text : Text) :
    Eval Text := do
  let start := text.size
  let state ← get
  let value? := value? mode name state
  let given := fun colon : Bool => value?.any fun value => !(colon && value.isEmpty)
  let valued := fun (text : Text) => noteValue mode name start (text.append (value?.getD []))
  let inner := { mode with isValue := true, tilde := true }
  match form with
  | .bad => Eval.fail "Bad substitution"
  | .orElse colon word => if given colon then valued text else expand inner word text
  | .andThen colon word => if given colon then expand inner word text else pure text
  | .orAssign colon word =>
    if given colon then valued text
    else do
      let made ← expand { tilde := true } word {}
      let value := Glyph.text made.glyphs.toList
      Eval.setVariable name value
      noteValue mode name start (text.append (glyphsOf mode.quoted value))
  | .orFail colon word =>
    if given colon then valued text
    else do
      let made ← expand { tilde := true } word {}
      let message := if word.isEmpty then none else some (Glyph.text made.glyphs.toList)
      complainUnset name message colon
  | .length => do
    if value?.isNone && state.has 'u' then complainUnset name none false
    else
      let size := (value?.getD []).length
      noteValue mode name start (text.append (glyphsOf mode.quoted (decimal size)))
  | .plain =>
    if value?.isSome then valued text
    else if state.has 'u' then complainUnset name none false
    else pure text
  | .trimmed trim pattern =>
    match value? with
    | none => if state.has 'u' then complainUnset name none false else pure text
    | some value => do
      let made ← expand { tilde := true } pattern {}
      let pieces := Glyph.pieces made.glyphs.toList
      let (front, back) :=
        Pattern.trim trim.atEnd trim.longest pieces (Glyph.text value).toList
      noteValue mode name start (text.append ((value.take back).drop front))

/-- The value of an expression. -/
def arithmetic (expand : ExpandWord) (mode : Mode) (expression : Word) (text : Text) :
    Eval Text := do
  let start := text.size
  let made ← expand {} expression {}
  let source := Glyph.text made.glyphs.toList
  let state ← get
  match Arithmetic.evaluate state.value? source with
  | .error (.badExpression complaint) =>
    Eval.fail ("arithmetic expression: " ++ complaint ++ ": \"" ++ source ++ "\"")
  | .error (.badNumber number) => Eval.fail ("Illegal number: " ++ number)
  | .error .deadly => do
    Eval.act (.raise SystemSignal.badNumber)
    throw .ended
  | .ok (n, assigned) =>
    for (name, value) in assigned do
      Eval.setVariable name (signedDecimal value)
    let text := text.append (glyphsOf mode.quoted (signedDecimal n))
    pure (if mode.quoted then text else text.note { start, stop := text.size })

/-- Puts the output of commands into a word, without the line ends behind it. -/
def substitution (substitute : Substitute) (mode : Mode) (script? : Option Command)
    (text : Text) : Eval Text := do
  let start := text.size
  let output ← match script? with
    | some script => substitute script
    | none => pure ""
  let kept := (output.toList.filter (· != '\x00')).reverse.dropWhile (· = '\n')
  let text := text.append (glyphsOf mode.quoted (String.ofList kept.reverse))
  pure (if mode.quoted then text else text.note { start, stop := text.size })

/-- How far a word has been expanded. -/
structure Going where
  text : Text
  inQuotes : Bool := false
  /-- Where the characters begin that may have to be split. -/
  plainFrom : Nat
  /-- How many parts of the word have been dealt with. -/
  done : Nat := 0
  /-- Whether a tilde would stand for a directory here, and whether the sign was met behind which it
  does. -/
  tilde : Bool
  assigns : Bool

/-- Notes characters that are to be split since they stand for a parameter. -/
def Going.notePlain (going : Going) (mode : Mode) : Text :=
  if mode.isValue && !mode.quoted && !going.inQuotes && going.plainFrom < going.text.size then
    going.text.note { start := going.plainFrom, stop := going.text.size }
  else going.text

/-- Goes on behind what was added. -/
def Going.behind (going : Going) (text : Text) : Going :=
  { going with text, plainFrom := text.size, tilde := false }

/-- Expands the parts of a word. -/
def parts (substitute : Substitute) (expand : ExpandWord) (mode : Mode) :
    Word → Going → Eval Text
  | [], going => pure (going.notePlain mode)
  | part :: rest, going => do
    let here := { mode with
      quoted := mode.quoted || going.inQuotes, tilde := false, isValue := false
      assigns := going.assigns }
    if 0 < going.done then parts substitute expand mode rest { going with done := going.done - 1 }
    else
      match part with
      | .char false c => do
        let name? := if going.tilde then tildeName? mode (part :: rest) else none
        let state ← get
        match name?.bind fun name => (homeOf? state name).map (name, ·) with
        | some (name, home) => do
          let text := (going.notePlain mode).append (glyphsOf true home)
          parts substitute expand mode rest { going.behind text with done := name.length }
        | none =>
          let text := going.text.push (.char false c)
          let assigns := going.assigns || c = '='
          let tilde := mode.isAssignment && (c = ':' || (c = '=' && !going.assigns))
          parts substitute expand mode rest { going with text, tilde, assigns }
      | .char true c => do
        let text := (going.notePlain mode).push (.char true c)
        parts substitute expand mode rest (going.behind text)
      | .mark => do
        let text := going.notePlain mode
        match !going.inQuotes, rest with
        | true, .parameter "@" .plain :: .mark :: _ => do
          let text ← parameter expand { here with quoted := true } "@" .plain text
          parts substitute expand mode rest { going.behind text with done := 2 }
        | _, _ =>
          let behind := going.behind (text.push .mark)
          parts substitute expand mode rest { behind with inQuotes := !going.inQuotes }
      | .parameter name form => do
        let text ← parameter expand here name form (going.notePlain mode)
        parts substitute expand mode rest (going.behind text)
      | .substitution script? => do
        let text ← substitution substitute here script? (going.notePlain mode)
        parts substitute expand mode rest (going.behind text)
      | .arithmetic expression => do
        let text ← arithmetic expand here expression (going.notePlain mode)
        parts substitute expand mode rest (going.behind text)

/-- Expands a word that is nested no deeper than a limit. -/
def within (substitute : Substitute) : Nat → ExpandWord
  | 0 => fun _ _ text => pure text
  | limit + 1 => fun mode word text =>
    parts substitute (within substitute limit) mode word
      { text, plainFrom := text.size, tilde := mode.tilde, assigns := mode.assigns }

/-- Expands a word. -/
def word (substitute : Substitute) : ExpandWord := within substitute Parse.nestingLimit

end Expand

/-! ## What words stand for -/

/-- The texts that a word stands for which is one of several. -/
def expandWord (substitute : Substitute) (word : Word) : Eval (List String) := do
  let text ← Expand.word substitute { splits := true, tilde := true } word {}
  let state ← get
  let fields := text.split state.separators none
  if state.has 'f' then pure (fields.map Glyph.text)
  else
    let found ← fields.mapM fun glyphs => Eval.act (Glyph.paths glyphs)
    pure found.flatten

/-- The text that a word stands for which is not split. -/
def expandWhole (substitute : Substitute) (mode : Mode) (word : Word) : Eval String := do
  let text ← Expand.word substitute mode word {}
  pure (Glyph.text text.glyphs.toList)

/-- The pattern that a word stands for. -/
def expandPattern (substitute : Substitute) (word : Word) : Eval (List Pattern.Piece) := do
  let text ← Expand.word substitute { tilde := true } word {}
  pure (Glyph.pieces text.glyphs.toList)

end LineShell.Script
