/-!
# Regular expressions

What a regular expression is made of, and how deep its parts are nested. Where a part says nothing
that matters to whether the expression can be used, only its shape is kept.
-/

namespace LineShell.Regex

/-- A choice that a part of an expression can make for what follows it. -/
inductive Flag where
  | ignoreCase
  | multiLine
  | dotMatchesNewline
  | swapGreed
  | unicode
  | crlf
  | ignoreBlanks
  deriving DecidableEq, Repr

/-- Flags that are set, and flags that are cleared. -/
structure Flags where
  set : List Flag := []
  cleared : List Flag := []
  deriving DecidableEq, Repr

/-- What flags say about one of them, if anything. -/
def Flags.state? (flags : Flags) (flag : Flag) : Option Bool :=
  if flags.set.contains flag then some true
  else if flags.cleared.contains flag then some false
  else none

/-- Whether flags say nothing. -/
def Flags.isEmpty (flags : Flags) : Bool := flags.set.isEmpty && flags.cleared.isEmpty

/-- A character that stands for itself. -/
structure Literal where
  char : Char
  /-- Whether it was written as a byte, with two hexadecimal digits. -/
  isByte : Bool := false
  deriving DecidableEq, Repr

mutual

/-- A part of a class in brackets. -/
inductive ClassItem where
  | literal (literal : Literal)
  | range (low high : Literal)
  /-- A class that has a name. -/
  | named (negated : Bool)
  /-- Digits, blanks or word characters. -/
  | shorthand (negated : Bool)
  /-- The characters of a property. -/
  | property
  | bracketed (negated : Bool) (set : ClassSet)
  | union (items : List ClassItem)

/-- What stands in brackets: a class, or two joined by an operation on sets. -/
inductive ClassSet where
  | item (item : ClassItem)
  | operation (left right : ClassSet)

end

end Regex

/-- A regular expression. -/
inductive Regex where
  | empty
  /-- Flags for what follows in the group. -/
  | flags (flags : Regex.Flags)
  | literal (literal : Regex.Literal)
  | dot
  /-- The beginning or the end of a line or of the text. -/
  | edge
  /-- The edge of a word, or of a half of one, or a place that is none. -/
  | wordEdge
  /-- Digits, blanks or word characters. -/
  | shorthand (negated : Bool)
  /-- The characters of a property. -/
  | property
  | bracketed (negated : Bool) (set : Regex.ClassSet)
  | repetition (body : Regex)
  /-- A group, with the flags that are for it alone. -/
  | group (flags : Regex.Flags) (body : Regex)
  | alternation (branches : List Regex)
  | concatenation (parts : List Regex)

namespace Regex

/-- Joins the parts of a branch. -/
def concat : List Regex → Regex
  | [] => .empty
  | [part] => part
  | parts => .concatenation parts

/-- Joins branches. -/
def either : List Regex → Regex
  | [] => .empty
  | [branch] => branch
  | branches => .alternation branches

/-- Joins the parts of a class. -/
def ClassItem.join : List ClassItem → ClassItem
  | [item] => item
  | items => .union items

/-! ## Nesting -/

mutual

/-- How deep the parts of a class are nested. A class without parts is flat. -/
def ClassItem.depth : ClassItem → Nat
  | .bracketed _ set => set.depth + 1
  | .union [] => 0
  | .union items => ClassItem.depthOfAll items + 1
  | _ => 0

/-- The greatest depth among parts of a class. -/
def ClassItem.depthOfAll : List ClassItem → Nat
  | [] => 0
  | item :: items => max item.depth (ClassItem.depthOfAll items)

/-- How deep the parts of a set are nested. -/
def ClassSet.depth : ClassSet → Nat
  | .item item => item.depth
  | .operation left right => max left.depth right.depth + 1

end

mutual

/-- How deep the parts of an expression are nested. -/
def depth : Regex → Nat
  | .bracketed _ set => set.depth + 1
  | .repetition body => body.depth + 1
  | .group _ body => body.depth + 1
  | .alternation branches => depthOfAll branches + 1
  | .concatenation parts => depthOfAll parts + 1
  | _ => 0

/-- The greatest depth among expressions. -/
def depthOfAll : List Regex → Nat
  | [] => 0
  | part :: parts => max part.depth (depthOfAll parts)

end

/-- How deep an expression may be nested. -/
def depthLimit : Nat := 250

end Regex

end LineShell
