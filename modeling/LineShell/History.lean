/-!
# The log of issued commands

An entry is made for every line, a blank one included, and keeps only the command and its first
argument. Entries are only ever added, at the end.
-/

namespace LineShell

/-- The entries, oldest first. -/
structure History where
  entries : List String := []
  deriving DecidableEq, Repr

namespace History

/-- What an entry keeps of a line: the first word, and the second after one space. -/
def summary : List String → String
  | [] => ""
  | [command] => command
  | command :: argument :: _ => command ++ " " ++ argument

/-- Adds the entry for a line with these words. -/
def record (history : History) (args : List String) : History :=
  ⟨history.entries ++ [summary args]⟩

/-- One line of a listing. -/
def listingLine (number : Nat) (entry : String) : String :=
  " " ++ number.repr ++ " " ++ entry

/-- The listing: a space, the number counted from one, a space, and the entry. -/
def listing (history : History) : List String :=
  history.entries.mapIdx fun i entry => listingLine (i + 1) entry

/-- How many entries there are. -/
def size (history : History) : Nat := history.entries.length

/-- Whether nothing was recorded yet. -/
def isEmpty (history : History) : Bool := history.entries.isEmpty

@[simp] theorem entries_record (history : History) (args : List String) :
    (history.record args).entries = history.entries ++ [summary args] := rfl

@[simp] theorem size_record (history : History) (args : List String) :
    (history.record args).size = history.size + 1 := by simp [size]

@[simp] theorem length_listing (history : History) : history.listing.length = history.size := by
  simp [listing, size]

end History

end LineShell
