import LineShell.Trace
/-!
# Waiting for a child

`Change` is what becomes of a child. `WaitReport` is what a wait call that names signals answers:
it knows the classic signals only, and answers with an error for the others. `awaitEnd` repeats the
wait call until an answer is final; `endOf` is how the child really ended.
-/

namespace LineShell

/-- How the launch of a program came out. -/
inductive Outcome where
  /-- The program ran and ended with this status. -/
  | exited (code : Int)
  /-- The program ran and was ended by this signal. -/
  | killed (signal : Int)
  /-- The program was not run, or its end could not be learned. -/
  | failed (fault : Fault)
  deriving DecidableEq, Repr

/-- The number the system gives a process. -/
abbrev Pid := Nat

/-- What becomes of a child, as whoever waits for it may come to know. -/
inductive Change where
  | exited (code : Nat)
  | killed (signal : Nat)
  | stopped
  | continued
  /-- Nothing happened to the child, but the waiting was interrupted. -/
  | interrupted
  deriving DecidableEq, Repr

/-- How a child ended, if this change is its end. -/
def Change.outcome? : Change → Option Outcome
  | .exited code => some (.exited code)
  | .killed signal => some (.killed signal)
  | .stopped | .continued | .interrupted => none

/-- What a wait call answers. -/
inductive WaitReport where
  | exited (code : Int)
  | signaled (signal : Int)
  | stopped
  | continued
  | stillAlive
  | failed (errno : Errno)
  deriving DecidableEq, Repr

/-- The outcome a report settles, if it settles one. An interrupted call settles nothing, any other
failed call does. -/
def WaitReport.outcome? : WaitReport → Option Outcome
  | .exited code => some (.exited code)
  | .signaled signal => some (.killed signal)
  | .stopped | .continued | .stillAlive => none
  | .failed errno => if errno = .interrupted then none else some (.failed (.system errno))

/-- Whether waiting ends with this report. -/
def WaitReport.isFinal (report : WaitReport) : Bool := report.outcome?.isSome

/-- The last signal number that has a name. -/
def lastNamedSignal : Nat := 31

/-- The report of a change. A signal without a name cannot be reported. -/
def Change.report : Change → WaitReport
  | .exited code => .exited code
  | .killed signal =>
    if signal ≤ lastNamedSignal then .signaled signal else .failed .invalidArgument
  | .stopped => .stopped
  | .continued => .continued
  | .interrupted => .failed .interrupted

/-- Whether a change is the child's end. -/
def Change.isEnd (change : Change) : Bool := change.outcome?.isSome

/-- A change is the child's end exactly when its report is final. -/
theorem Change.isFinal_report (change : Change) : change.report.isFinal = change.isEnd := by
  cases change with
  | killed signal =>
    by_cases h : signal ≤ lastNamedSignal <;>
      simp [report, WaitReport.isFinal, WaitReport.outcome?, isEnd, outcome?, h,
        Errno.invalidArgument, Errno.interrupted]
  | _ =>
    simp [report, WaitReport.isFinal, WaitReport.outcome?, isEnd, outcome?]

/-- Calls a child's reports one by one until one is final: the outcome it settles, and how many
calls were made. -/
def awaitEnd : (reports : List WaitReport) → (∃ r ∈ reports, r.isFinal) → Outcome × Nat
  | [], h => absurd h (by simp)
  | report :: reports, h =>
    match hr : report.outcome? with
    | some outcome => (outcome, 1)
    | none =>
      let rest := awaitEnd reports (by
        obtain ⟨r, hmem, hfinal⟩ := h
        rcases List.mem_cons.1 hmem with rfl | hmem
        · simp [WaitReport.isFinal, hr] at hfinal
        · exact ⟨r, hmem, hfinal⟩)
      (rest.1, rest.2 + 1)

/-- How a child ended: the first of its changes that is an end. -/
def endOf : (changes : List Change) → (∃ c ∈ changes, c.isEnd) → Outcome
  | [], h => absurd h (by simp)
  | change :: changes, h =>
    match hc : change.outcome? with
    | some outcome => outcome
    | none =>
      endOf changes (by
        obtain ⟨c, hmem, hend⟩ := h
        rcases List.mem_cons.1 hmem with rfl | hmem
        · simp [Change.isEnd, hc] at hend
        · exact ⟨c, hmem, hend⟩)

/-- A child that ends gives a final report. -/
theorem exists_isFinal_of_exists_isEnd {changes : List Change} (h : ∃ c ∈ changes, c.isEnd) :
    ∃ r ∈ changes.map Change.report, r.isFinal := by
  obtain ⟨c, hmem, hend⟩ := h
  exact ⟨c.report, List.mem_map_of_mem hmem, by rw [Change.isFinal_report, hend]⟩

end LineShell
