import LineShell.Regex.Parser
/-!
# Which regular expressions can be used

An expression is turned into a machine over bytes that knows no tables of characters. So it cannot
ask for the digits, blanks, letters or words of all scripts, nor pass over the case of letters in
them. Where only ASCII is meant all that is possible, but then nothing may match a single byte that
is no character.
-/

namespace LineShell.Regex

/-- The flags that decide what can be used. -/
structure Mode where
  unicode : Bool := true
  ignoresCase : Bool := false
  deriving DecidableEq, Repr

/-- The mode behind flags. -/
def Mode.behind (mode : Mode) (found : Flags) : Mode where
  unicode := (found.state? .unicode).getD mode.unicode
  ignoresCase := (found.state? .ignoreCase).getD mode.ignoresCase

/-- Whether a character can be used in a class. -/
def Mode.allowsInClass (mode : Mode) (literal : Literal) : Bool :=
  if mode.unicode then !mode.ignoresCase else literal.char.toNat < 128

/-- Whether a character can be used by itself. -/
def Mode.allows (mode : Mode) (literal : Literal) : Bool :=
  if mode.unicode then !mode.ignoresCase else !literal.isByte || literal.char.toNat < 128

mutual

/-- Whether a part of a class can be used. -/
def ClassItem.isUsable (mode : Mode) : ClassItem → Bool
  | .literal l => mode.allowsInClass l
  | .range low high => mode.allowsInClass low && mode.allowsInClass high
  | .named negated => if mode.unicode then !mode.ignoresCase else !negated
  | .shorthand negated => !mode.unicode && !negated
  | .property => false
  | .bracketed negated set => (mode.unicode || !negated) && set.isUsable mode
  | .union items => ClassItem.areUsable mode items

/-- Whether parts of a class can be used. -/
def ClassItem.areUsable (mode : Mode) : List ClassItem → Bool
  | [] => true
  | item :: items => item.isUsable mode && ClassItem.areUsable mode items

/-- Whether a set can be used. -/
def ClassSet.isUsable (mode : Mode) : ClassSet → Bool
  | .item item => item.isUsable mode
  | .operation left right => left.isUsable mode && right.isUsable mode

end

mutual

/-- The mode behind an expression, if the expression can be used. -/
def behind? (mode : Mode) : Regex → Option Mode
  | .empty | .edge => some mode
  | .flags found => some (mode.behind found)
  | .literal l => if mode.allows l then some mode else none
  | .dot => if mode.unicode then some mode else none
  | .wordEdge => if mode.unicode then none else some mode
  | .shorthand negated => if mode.unicode || negated then none else some mode
  | .property => none
  | .bracketed negated set =>
    if (mode.unicode || !negated) && set.isUsable mode then some mode else none
  | .repetition body => behind? mode body
  | .group found body => (behind? (mode.behind found) body).map fun _ => mode
  | .alternation branches => behindAll? mode branches
  | .concatenation parts => behindAll? mode parts

/-- The mode behind expressions, one after another, if all can be used. -/
def behindAll? (mode : Mode) : List Regex → Option Mode
  | [] => some mode
  | part :: parts =>
    match behind? mode part with
    | none => none
    | some mode => behindAll? mode parts

end

/-- Whether a text spells an expression that can be used. -/
def isUsable (text : String) : Bool := (ofText? text).any fun regex => (behind? {} regex).isSome

end LineShell.Regex
