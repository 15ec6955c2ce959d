import LineShell.CharClass
import LineShell.Decimal
import LineShell.Regex.Usable
import LineShell.Settings
import LineShell.Trace
/-!
# Which notes are logged

A log filter is written as directives between commas. A directive sets a level: for everything, or
for the notes whose origin begins with a given text, and perhaps only for those that have a given
field. A directive can also ask for spans of time or for the value of a field; no note of the shell
answers to such a one. Of the directives that concern a note the most specific decides, and of two
that say the same the later. A filter with a directive that cannot be read is no filter at all.
-/

namespace LineShell

namespace LogFilter

/-- The variable in the environment that sets the filter. -/
def variableName : String := "RUST_LOG"

/-- How much is logged. -/
inductive Level where
  | off
  | error
  | warn
  | info
  | debug
  | trace
  deriving DecidableEq, Repr

/-- The level of a number. -/
def Level.ofNumber? : Nat → Option Level
  | 0 => some .off
  | 1 => some .error
  | 2 => some .warn
  | 3 => some .info
  | 4 => some .debug
  | 5 => some .trace
  | _ => none

/-- The level of a name, whatever the case of its letters. -/
def Level.ofName? (name : String) : Option Level :=
  match name.toLower with
  | "off" => some .off
  | "error" => some .error
  | "warn" => some .warn
  | "info" => some .info
  | "debug" => some .debug
  | "trace" => some .trace
  | _ => none

/-- The level that a text gives by number or by name. -/
def Level.ofText? (text : String) : Option Level :=
  ((Decimal.withPlus? text).bind Level.ofNumber?).or (Level.ofName? text)

/-- Whether debug notes are logged at a level. -/
def Level.showsDebug : Level → Bool
  | .debug | .trace => true
  | _ => false

/-! ## Fields -/

/-- A field that notes must have. -/
structure Field where
  name : String
  /-- Whether a value of the field is asked for. -/
  valued : Bool
  deriving DecidableEq, Repr

/-- The digits in front of characters, and what is behind them. -/
def digitsOf (cs : List Char) : List Char × List Char :=
  (cs.takeWhile Char.isDigit, cs.dropWhile Char.isDigit)

/-- Characters behind a sign, if there is one. -/
def unsigned : List Char → List Char
  | '+' :: cs | '-' :: cs => cs
  | cs => cs

/-- Whether characters are nothing, or an exponent of ten. -/
def isExponent : List Char → Bool
  | [] => true
  | c :: cs =>
    let digits := unsigned cs
    (c == 'e' || c == 'E') && !digits.isEmpty && digits.all Char.isDigit

/-- Whether a text is a number, perhaps with a sign, a fraction and an exponent, or the name of
something that is none or too large. -/
def isNumber (text : String) : Bool :=
  let cs := unsigned text.toList
  let (whole, rest) := digitsOf cs
  let (fraction, rest) := match rest with
    | '.' :: rest => digitsOf rest
    | rest => ([], rest)
  ["inf", "infinity", "nan"].contains (String.ofList cs).toLower
    || !(whole.isEmpty && fraction.isEmpty) && isExponent rest

/-- Whether a text can be the value of a field: a number or a regular expression. -/
def isValue (text : String) : Bool := isNumber text || Regex.isUsable text

/-- The field that a text asks for. -/
def Field.ofText? (text : String) : Option Field :=
  match (text.toList.splitOn '=').map String.ofList with
  | name :: value :: _ => if isValue value then some ⟨name, true⟩ else none
  | _ => some ⟨text, false⟩

/-! ## Directives -/

/-- A directive: what it is for, and the level it sets. -/
structure Directive where
  /-- How the origin of a note must begin. -/
  origin? : Option String := none
  /-- The field that a note must have. -/
  field? : Option Field := none
  /-- Whether it is for spans of a given name. -/
  ofSpans : Bool := false
  level : Level := .trace
  deriving DecidableEq, Repr

/-- The part of a directive that the scan is in, and where in the text that part begins. -/
inductive Part where
  | start
  /-- A level or the beginning of an origin. -/
  | word (first : Nat)
  | span (first : Nat)
  | field (first : Nat)
  | behindField
  | behindSpan
  | level (first : Nat)
  deriving DecidableEq, Repr

/-- Whether a directive can begin with a character. -/
def beginsWord (c : Char) : Bool := CharClass.isAlphanumeric c || ['-', ':', '_'].contains c

/-- Goes on with a character at an offset; `cut` gives what stands between two offsets. -/
def Directive.step (cut : Nat → Nat → String) (directive : Directive) (part : Part)
    (offset : Nat) (c : Char) : Option (Directive × Part) :=
  match part with
  | .start =>
    if c = '[' then some (directive, .span (offset + 1))
    else if beginsWord c then some (directive, .word offset)
    else none
  | .word start =>
    if c = '=' then
      some ({ directive with origin? := some (cut start offset) }, .level (offset + 1))
    else if c = '[' then
      some ({ directive with origin? := some (cut start offset) }, .span (offset + 1))
    else some (directive, part)
  | .span start =>
    if c = ']' then some ({ directive with ofSpans := true }, .behindSpan)
    else if c = '{' then some ({ directive with ofSpans := start != offset }, .field (offset + 1))
    else some (directive, part)
  | .field start =>
    if c = '\x7d' then
      if start = offset then none
      else (Field.ofText? (cut start offset)).map fun field =>
        ({ directive with field? := some field }, .behindField)
    else some (directive, part)
  | .behindField => if c = ']' then some (directive, .behindSpan) else none
  | .behindSpan => if c = '=' then some (directive, .level (offset + 1)) else none
  | .level _ => some (directive, part)

/-- Scans characters, of which the first stands at an offset. -/
def Directive.scan (cut : Nat → Nat → String) (directive : Directive) (part : Part) (offset : Nat) :
    List Char → Option (Directive × Part)
  | [] => some (directive, part)
  | c :: rest =>
    match directive.step cut part offset c with
    | none => none
    | some (directive, part) => directive.scan cut part (offset + c.utf8Size) rest

/-- Ends a scan. A word that is no level is an origin; where no level is given, everything is
logged. Brackets must be closed by then. -/
def Directive.finish (tail : Nat → String) (directive : Directive) (part : Part) :
    Option Directive :=
  match part with
  | .word start =>
    match Level.ofText? (tail start) with
    | some level => some { directive with level }
    | none => some { directive with origin? := some (tail start) }
  | .level start =>
    if tail start = "" then some directive
    else (Level.ofText? (tail start)).map fun level => { directive with level }
  | .behindSpan => some directive
  | _ => none

/-- The directive that a text spells. The scan passes over the blanks around it, and counts its
offsets without them; the parts are then cut at these offsets from the text as it is. -/
def Directive.ofText? (text : String) : Option Directive :=
  let bytes := Utf8.encode text
  let tail := fun start => Utf8.decode (bytes.drop start)
  let cut := fun start stop => Utf8.decode ((bytes.take stop).drop start)
  let cs := ((text.toList.dropWhile CharClass.isBlank).reverse.dropWhile CharClass.isBlank).reverse
  (Directive.scan cut {} .start 0 cs).bind fun (directive, part) => directive.finish tail part

/-- Whether a directive concerns a note. -/
def Directive.concerns (directive : Directive) (note : Note) : Bool :=
  !directive.ofSpans
    && directive.origin?.all (fun origin => origin.toList.isPrefixOf note.origin.toList)
    && directive.field?.all (fun field => !field.valued && note.fields.contains field.name)

/-- How much of an origin a directive gives. -/
def Directive.originSize (directive : Directive) : Nat :=
  directive.origin?.elim 0 (·.utf8ByteSize + 1)

/-- The name of the field that a directive gives. -/
def Directive.fieldName (directive : Directive) : String := directive.field?.elim "" (·.name)

/-- Of two directives that concern one note, the one that decides. The first is the earlier one. A
longer origin goes before a shorter one, then a field before none, then the greater name of a field.
-/
def Directive.moreSpecific (earlier later : Directive) : Directive :=
  if earlier.originSize < later.originSize then later
  else if later.originSize < earlier.originSize then earlier
  else if later.fieldName < earlier.fieldName then earlier
  else later

end LogFilter

/-- A log filter, as its directives. -/
structure LogFilter where
  directives : List LogFilter.Directive
  deriving DecidableEq, Repr

namespace LogFilter

/-- The filter that a text spells, if each of its directives can be read. -/
def ofText? (text : String) : Option LogFilter :=
  let pieces := (text.toList.splitOn ',').filter (!·.isEmpty)
  (pieces.mapM fun piece => Directive.ofText? (String.ofList piece)).map (⟨·⟩)

/-- The filter that the settings ask for. -/
def ofSettings (settings : Settings) : LogFilter :=
  (ofText? settings.logDirective).getD ⟨[]⟩

/-- The filter that applies: the one in the environment, if there is one that can be read. -/
def choose (text? : Option String) (settings : Settings) : LogFilter :=
  (text?.bind ofText?).getD (ofSettings settings)

/-- The directive that decides about a note, if any concerns it. -/
def deciding? (filter : LogFilter) (note : Note) : Option Directive :=
  (filter.directives.filter (·.concerns note)).foldl
    (fun best directive => some (best.elim directive (·.moreSpecific directive))) none

/-- Whether a filter lets a note through. -/
def admits (filter : LogFilter) (note : Note) : Bool :=
  (filter.deciding? note).any (·.level.showsDebug)

end LogFilter

end LineShell
