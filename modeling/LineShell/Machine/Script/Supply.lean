import LineShell.Machine.Script.State
/-!
# The command language: scripts as they come

A script is a text, or comes in portions from an open file, no further than it has to be known. Its
lines are shown as they are read, if that is wanted and it comes from a file.
-/

namespace LineShell.Script

/-- A script, as far as it has been read. -/
structure Supply where
  reader : Reader
  /-- The number of the open file from which more can come. -/
  descriptor? : Option Nat := none
  /-- What has come and has not been shown. -/
  unshown : List Char := []

namespace Supply

/-- A script that is a text. -/
def ofText (text : String) : Supply := { reader := { rest := text.toList } }

/-- A script that comes from an open file. -/
def ofDescriptor (descriptor : Nat) : Supply :=
  { reader := { rest := [], isWhole := false }, descriptor? := some descriptor }

/-- How many bytes come at once, at most. -/
def portion : Nat := 8192

/-- Lets more of a script come, if there is more. -/
def extended (supply : Supply) : Eval Supply := do
  let reader := supply.reader
  let whole : Supply := { supply with reader := { reader with isWhole := true } }
  match supply.descriptor? with
  | none => pure whole
  | some descriptor =>
    match ← Eval.act (.read descriptor portion .endless) with
    | .ok (byte :: bytes) =>
      let more := (Octets.ofBytes (byte :: bytes)).toList.filter (· != '\x00')
      pure { supply with
        reader := { reader with rest := reader.rest ++ more }
        unshown := supply.unshown ++ more }
    | _ => pure whole

/-- Shows the lines that have been read, given what is left. -/
def shown (supply : Supply) (left : List Char) : Eval Supply := do
  let behindAliases := left.reverse.takeWhile (· != aliasEnd)
  let (front, back) := supply.unshown.splitAt (supply.unshown.length - behindAliases.length)
  let isOpen := front.getLast?.any (· != '\n')
  let lineEnd := if isOpen then (back.takeWhile (· != '\n')).length + 1 else 0
  if (← get).has 'v' then
    discard (Eval.act (.say 2 (String.ofList (front ++ back.take lineEnd))))
  pure { supply with unshown := back.drop lineEnd }

/-- Notes what was learned of a script while it was read. -/
def note (reader : Reader) (state : State) : State :=
  { state with
    documents := reader.documents ++ state.documents
    nextDocument := reader.nextDocument
    lastLine := reader.line
    endIsAhead := reader.again && reader.token = .endOfFile }

/-- Reads the commands of the next line, if there are any on it; or nothing at the end. -/
def next (supply : Supply) : Eval (Option (Option Command) × Supply) :=
  Eval.loop (fun (supply : Supply) => do
    let state ← get
    let reader := { supply.reader with
      aliases := state.aliases, documents := [], nextDocument := state.nextDocument }
    match Parse.nextLine.run reader with
    | .ok (found, reader) => do
      let supply ← supply.shown reader.rest
      modify (note reader)
      pure (.inr (found, { supply with reader }))
    | .error .wanting => .inl <$> supply.extended
    | .error (.wrong line left text) => do
      discard (supply.shown left)
      modify fun state => { state with line, lastLine := line }
      Eval.fail text
    | .error .tooDeep => throw .ended) supply

end Supply

end LineShell.Script
