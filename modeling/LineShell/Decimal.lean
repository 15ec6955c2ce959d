/-!
# Numbers in text

Numbers are written in decimal digits. Where a reader is lenient, blanks may stand around them.
-/

namespace LineShell.Decimal

/-- The number that a text spells, if it has only digits and at least one. -/
def number? (text : String) : Option Nat :=
  if text.toList.all Char.isDigit then text.toNat? else none

/-- The number that a text spells, where a plus sign may stand first. -/
def withPlus? (text : String) : Option Nat :=
  match text.toList with
  | '+' :: digits => number? (String.ofList digits)
  | _ => number? text

/-- The number that digits at the front spell, and what follows them. -/
def leading (cs : List Char) : Nat × List Char :=
  ((cs.takeWhile Char.isDigit).foldl (fun n c => n * 10 + (c.toNat - '0'.toNat)) 0,
    cs.dropWhile Char.isDigit)

theorem length_leading_le (cs : List Char) : (leading cs).2.length ≤ cs.length :=
  (List.dropWhile_sublist _).length_le

/-- A number is written on one line. -/
theorem newline_not_mem_repr (n : Nat) : '\n' ∉ n.repr.toList := by
  rw [Nat.toList_repr]
  exact fun hmem => absurd (Nat.isDigit_of_mem_toDigits (by decide) (by decide) hmem) (by decide)

/-- Whether a character is a blank to those who read numbers. -/
def isBlank (c : Char) : Bool := c == ' ' || ('\t' ≤ c && c ≤ '\r')

end LineShell.Decimal
