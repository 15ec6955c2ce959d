import LineShell.Stream.Sink
/-!
# Outputs that fail in known ways

Devices to run a shell against: one that takes everything, one that takes a number of bytes and then
no more, ones that take little at a time or are interrupted, and one whose flushes stop working.
`Device.fullTerminal` is line-buffered output onto a device without room: text waits in the buffer
until a line ends, so a failure can show later than the write that caused it.
-/

namespace LineShell

/-- Why an output takes no more bytes. -/
inductive Denial where
  /-- Every further write fails, and not because it was interrupted. -/
  | fails (fault : Fault) (lasting : fault.kind ≠ .interrupted)
  /-- Every further write takes nothing. -/
  | takesNothing

/-- What a write does that is denied. -/
def Denial.answer : Denial → Answer
  | .fails fault lasting => .refuse fault lasting
  | .takesNothing => .take 0

namespace Device

/-- Takes everything it is offered. -/
def reliable : Device := {}

/-- Takes this many bytes in all and then denies every write. -/
def limited (device : Device) (room : Nat) (denial : Denial) : Device :=
  { device with
    answer := fun past offered =>
      if room ≤ past.taken then denial.answer
      else match device.answer past offered with
        | .take most => .take (min most (room - past.taken))
        | refusal => refusal }

/-- Takes at most this many bytes in one call. -/
def inPortions (device : Device) (most : Nat) : Device :=
  { device with
    answer := fun past offered =>
      match device.answer past offered with
      | .take taken => .take (min taken most)
      | refusal => refusal }

/-- Is interrupted this often before every write. -/
def interruptedEach (device : Device) (times : Nat) : Device :=
  { device with interruptions := fun _ => times }

/-- Flushes this many times and then fails every time. -/
def flushing (device : Device) (times : Nat) (fault : Fault) : Device :=
  { device with
    flush := fun past => if past.flushes < times then none else some fault }

/-! ## Line buffering without room behind it -/

/-- How many bytes can wait for the end of their line. -/
def lineCapacity : Nat := 1024

/-- Whether bytes hold the end of a line. -/
def endsLine (bytes : Bytes) : Bool := bytes.contains 0x0A

/-- The bytes up to and including the last line end. -/
def wholeLines (bytes : Bytes) : Bytes := (bytes.reverse.dropWhile (· != 0x0A)).reverse

/-- Whether bytes can join those that wait. What would fill the buffer alone is never put there. -/
def canJoin (held bytes : Bytes) : Bool :=
  held.length + bytes.length ≤ lineCapacity && bytes.length < lineCapacity

/-- The bytes waiting in the buffer. Nothing ever leaves it: bytes without a line end join the
buffer while there is room, and so do the lines that end one which was already begun. -/
def waiting : List Call → Bytes
  | [] => []
  | .flush :: past => waiting past
  | .write offered _ :: past =>
    let held := waiting past
    let joining := if endsLine offered then wholeLines offered else offered
    if held.getLast? = some 0x0A then held
    else if endsLine offered ∧ held = [] then []
    else if canJoin held joining then held ++ joining
    else held

/-- Line-buffered output onto a device without room. -/
def fullTerminal : Device where
  answer past offered :=
    let held := waiting past.calls
    if held.getLast? ≠ some 0x0A ∧ endsLine offered = false ∧ canJoin held offered then
      .take offered.length
    else .refuse (.system .noSpace) (by decide)
  flush past := if (waiting past.calls).isEmpty then none else some (.system .noSpace)

end Device

end LineShell
