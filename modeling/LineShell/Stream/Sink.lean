import LineShell.Fault
import LineShell.Utf8
/-!
# Output streams

A `Device` is any output: from the calls made on it so far it decides how often the next write is
interrupted, what that write takes, and whether the next flush works. A `Sink` is a device together
with those calls.

`Sink.put` writes everything, as a careful caller does: it repeats an interrupted call, offers again
what a call left over, and stops at the first failure. It tells which bytes were taken: always the
first ones offered, and all of them exactly when nothing failed.
-/

namespace LineShell

/-- What one write call that is not interrupted does. -/
inductive Answer where
  /-- It takes at most this many of the offered bytes. -/
  | take (most : Nat)
  /-- It fails, and not because it was interrupted. -/
  | refuse (fault : Fault) (lasting : fault.kind ≠ .interrupted)

/-- A finished call on a stream. -/
inductive Call where
  /-- A write was offered these bytes and took this many of them. -/
  | write (offered : Bytes) (taken : Nat)
  /-- A flush was asked for. -/
  | flush
  deriving DecidableEq, Repr

/-- What happened on a stream so far. -/
structure Past where
  /-- The finished calls, the latest first. -/
  calls : List Call := []
  /-- How many bytes were taken in all. -/
  taken : Nat := 0
  /-- How many flushes were asked for. -/
  flushes : Nat := 0
  deriving DecidableEq, Repr

namespace Past

/-- The past after a write that was offered these bytes and took this many. -/
def wrote (past : Past) (offered : Bytes) (taken : Nat) : Past :=
  { past with calls := .write offered taken :: past.calls, taken := past.taken + taken }

/-- The past after a flush. -/
def flushed (past : Past) : Past :=
  { past with calls := .flush :: past.calls, flushes := past.flushes + 1 }

end Past

/-- An output, told by what it does next, given its past. -/
structure Device where
  /-- How often the next write is interrupted before it does anything. -/
  interruptions : Past → Nat := fun _ => 0
  /-- What the next write does with the bytes it is offered. -/
  answer : Past → Bytes → Answer := fun _ offered => .take offered.length
  /-- How the next flush fails, if it does. -/
  flush : Past → Option Fault := fun _ => none

/-- A device in use. -/
structure Sink where
  device : Device := {}
  past : Past := {}
  /-- How often the write in progress was interrupted already. -/
  interrupted : Nat := 0

namespace Sink

/-- One write call: how many bytes it took, or how it failed. -/
def write (sink : Sink) (bytes : Bytes) : Except Fault Nat × Sink :=
  if sink.interrupted < sink.device.interruptions sink.past then
    (.error (.plain .interrupted), { sink with interrupted := sink.interrupted + 1 })
  else
    match sink.device.answer sink.past bytes with
    | .take most =>
      let taken := min most bytes.length
      (.ok taken, { sink with past := sink.past.wrote bytes taken, interrupted := 0 })
    | .refuse fault _ =>
      (.error fault, { sink with past := sink.past.wrote bytes 0, interrupted := 0 })

/-- How many more interruptions the write in progress will meet. -/
def interruptionsLeft (sink : Sink) : Nat :=
  sink.device.interruptions sink.past - sink.interrupted

/-- An interrupted call leaves one interruption fewer. -/
theorem interruptionsLeft_write {sink sink' : Sink} {bytes : Bytes} {fault : Fault}
    (h : sink.write bytes = (.error fault, sink')) (hf : fault.kind = .interrupted) :
    sink'.interruptionsLeft < sink.interruptionsLeft := by
  unfold write at h
  split at h
  · rename_i hlt
    obtain ⟨-, rfl⟩ := Prod.mk.inj h
    simp only [interruptionsLeft]
    omega
  · split at h
    · simp at h
    · rename_i refused lasting _
      obtain ⟨h, -⟩ := Prod.mk.inj h
      exact absurd (Except.error.inj h ▸ hf) lasting

/-- A call takes at most what it was offered. -/
theorem le_length_of_write {sink sink' : Sink} {bytes : Bytes} {n : Nat}
    (h : sink.write bytes = (.ok n, sink')) : n ≤ bytes.length := by
  unfold write at h
  split at h
  · simp at h
  · split at h
    · obtain ⟨h, -⟩ := Prod.mk.inj h
      exact Except.ok.inj h ▸ Nat.min_le_right _ _
    · simp at h

end Sink

/-- What became of some bytes that had to be written: those that were taken, the failure that
stopped the rest, and the stream afterwards. -/
structure Put where
  taken : Bytes
  fault? : Option Fault
  sink : Sink

namespace Sink

/-- Writes all the bytes, or as many as the stream takes before it fails. -/
def put (sink : Sink) (bytes : Bytes) : Put :=
  if bytes = [] then ⟨[], none, sink⟩
  else
    match h : sink.write bytes with
    | (.error fault, after) =>
      if fault.kind = .interrupted then after.put bytes else ⟨[], some fault, after⟩
    | (.ok 0, after) => ⟨[], some .tookNothing, after⟩
    | (.ok (n + 1), after) =>
      let rest := after.put (bytes.drop (n + 1))
      { rest with taken := bytes.take (n + 1) ++ rest.taken }
termination_by (bytes.length, sink.interruptionsLeft)
decreasing_by
  · exact Prod.Lex.right _ (interruptionsLeft_write h (by assumption))
  · have := le_length_of_write h
    exact Prod.Lex.left _ _ (by simp only [List.length_drop]; omega)

/-- Writes pieces one after another, and none after one that failed. -/
def putAll (sink : Sink) : List Bytes → Put
  | [] => ⟨[], none, sink⟩
  | piece :: pieces =>
    let first := sink.put piece
    match first.fault? with
    | some _ => first
    | none =>
      let rest := first.sink.putAll pieces
      { rest with taken := first.taken ++ rest.taken }

/-- Asks for a flush: how it failed, if it did, and the stream afterwards. -/
def flush (sink : Sink) : Option Fault × Sink :=
  (sink.device.flush sink.past, { sink with past := sink.past.flushed })

@[simp] theorem put_nil (sink : Sink) : sink.put [] = ⟨[], none, sink⟩ := by simp [put]

@[simp] theorem putAll_nil (sink : Sink) : sink.putAll [] = ⟨[], none, sink⟩ := rfl

/-- The bytes taken are the first ones offered. -/
theorem taken_put_prefix (sink : Sink) (bytes : Bytes) : (sink.put bytes).taken <+: bytes := by
  fun_induction put sink bytes with
  | case1 => exact List.nil_prefix
  | case2 sink bytes _ fault after _ _ ih => exact ih
  | case3 => exact List.nil_prefix
  | case4 => exact List.nil_prefix
  | case5 sink bytes _ n after _ rest ih =>
    obtain ⟨later, h⟩ := ih
    refine ⟨later, ?_⟩
    rw [List.append_assoc, h, List.take_append_drop]

/-- All bytes are taken exactly when nothing failed. -/
theorem taken_put_eq_iff (sink : Sink) (bytes : Bytes) :
    (sink.put bytes).taken = bytes ↔ (sink.put bytes).fault? = none := by
  fun_induction put sink bytes with
  | case1 => simp
  | case2 sink bytes _ fault after _ _ ih => exact ih
  | case3 sink bytes hne => simp [Ne.symm hne]
  | case4 sink bytes hne => simp [Ne.symm hne]
  | case5 sink bytes _ n after _ rest ih =>
    refine Iff.trans ⟨fun h => ?_, fun h => ?_⟩ ih
    · have h' : bytes.take (n + 1) ++ rest.taken = bytes.take (n + 1) ++ bytes.drop (n + 1) := by
        rw [List.take_append_drop]
        exact h
      exact List.append_cancel_left h'
    · show bytes.take (n + 1) ++ rest.taken = bytes
      rw [show rest.taken = bytes.drop (n + 1) from h, List.take_append_drop]

end Sink

end LineShell
