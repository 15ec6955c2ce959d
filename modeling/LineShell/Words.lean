/-!
# The words of a line

A line is cut at space, tab, carriage return, line feed and bell. A run of them separates like one
of them, and no other character has a meaning: there is no quoting.
-/

namespace LineShell

/-- The characters that separate words. -/
def delimiters : List Char := [' ', '\t', '\r', '\n', '\x07']

/-- Whether a character separates words. -/
def isDelimiter (c : Char) : Bool := delimiters.contains c

/-- The maximal runs of characters that separate nothing, in order. -/
def runsOf (cs : List Char) : List (List Char) := (cs.splitOnP isDelimiter).filter (!·.isEmpty)

/-- The words of a line: none is empty and none holds a delimiter. -/
def words (line : String) : List String := (runsOf line.toList).map String.ofList

@[simp] theorem runsOf_nil : runsOf [] = [] := by simp [runsOf]

/-- A delimiter cuts: the words are those on its left and those on its right. -/
theorem runsOf_append_cons (xs ys : List Char) {d : Char} (hd : isDelimiter d) :
    runsOf (xs ++ d :: ys) = runsOf xs ++ runsOf ys := by
  simp [runsOf, List.splitOnP_append_cons xs ys hd]

/-- A non-empty text without delimiters is one word. -/
theorem runsOf_run {xs : List Char} (hne : xs ≠ []) (hxs : ∀ c ∈ xs, isDelimiter c = false) :
    runsOf xs = [xs] := by
  simp [runsOf, List.splitOnP_eq_singleton hxs, hne]

end LineShell
