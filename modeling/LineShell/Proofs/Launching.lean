import LineShell.Process.ForkExec
import LineShell.Process.Spawn
/-!
# How launches come out

The two ways to launch are compared on programs that were started. Both wait for the child's end,
whatever becomes of it before, and both take its outcome from there. They part where the end is a
signal that has no name: the wait call of `forkExec` has no answer for it.
-/

namespace LineShell

/-! ## Waiting for the end -/

section
variable {report : WaitReport} {reports : List WaitReport} {change : Change} {changes : List Change}
  {outcome : Outcome}

theorem awaitEnd_cons_of_some (hr : report.outcome? = some outcome)
    (h : ∃ r ∈ report :: reports, r.isFinal) : awaitEnd (report :: reports) h = (outcome, 1) := by
  unfold awaitEnd
  split <;> rename_i hr' <;> cases hr.symm.trans hr'
  rfl

theorem awaitEnd_cons_of_none (hr : report.outcome? = none) (h : ∃ r ∈ report :: reports, r.isFinal)
    (h' : ∃ r ∈ reports, r.isFinal) :
    awaitEnd (report :: reports) h = ((awaitEnd reports h').1, (awaitEnd reports h').2 + 1) := by
  rw [awaitEnd]
  split <;> rename_i hr' <;> cases hr.symm.trans hr'
  rfl

theorem endOf_cons_of_some (hc : change.outcome? = some outcome)
    (h : ∃ c ∈ change :: changes, c.isEnd) : endOf (change :: changes) h = outcome := by
  unfold endOf
  split <;> rename_i hc' <;> cases hc.symm.trans hc'
  rfl

theorem endOf_cons_of_none (hc : change.outcome? = none) (h : ∃ c ∈ change :: changes, c.isEnd)
    (h' : ∃ c ∈ changes, c.isEnd) : endOf (change :: changes) h = endOf changes h' := by
  rw [endOf]
  split <;> rename_i hc' <;> cases hc.symm.trans hc'
  rfl

end

/-- Waiting calls for reports up to the first that settles the outcome, and no further. -/
theorem awaitEnd_append {before after : List WaitReport} {last : WaitReport} {outcome : Outcome}
    (hbefore : ∀ report ∈ before, report.outcome? = none) (hlast : last.outcome? = some outcome)
    (h : ∃ report ∈ before ++ last :: after, report.isFinal) :
    awaitEnd (before ++ last :: after) h = (outcome, before.length + 1) := by
  have hfinal : last.isFinal := by rw [WaitReport.isFinal, hlast]; rfl
  induction before with
  | nil => exact awaitEnd_cons_of_some hlast h
  | cons report before ih =>
    rw [List.forall_mem_cons] at hbefore
    have hrest : ∃ report ∈ before ++ last :: after, report.isFinal := ⟨last, by simp, hfinal⟩
    simp only [List.cons_append]
    rw [awaitEnd_cons_of_none hbefore.1 _ hrest, ih hbefore.2 hrest]
    rfl

/-- A child ended as the first of its changes that is an end says. -/
theorem endOf_append {before after : List Change} {last : Change} {outcome : Outcome}
    (hbefore : ∀ change ∈ before, change.outcome? = none) (hlast : last.outcome? = some outcome)
    (h : ∃ change ∈ before ++ last :: after, change.isEnd) :
    endOf (before ++ last :: after) h = outcome := by
  have hend : last.isEnd := by rw [Change.isEnd, hlast]; rfl
  induction before with
  | nil => exact endOf_cons_of_some hlast h
  | cons change before ih =>
    rw [List.forall_mem_cons] at hbefore
    have hrest : ∃ change ∈ before ++ last :: after, change.isEnd := ⟨last, by simp, hend⟩
    simp only [List.cons_append]
    rw [endOf_cons_of_none hbefore.1 _ hrest]
    exact ih hbefore.2 hrest

/-- The outcome that the report of a change settles: its own, unless it is a signal without a name. -/
theorem Change.outcome?_report (change : Change) :
    change.report.outcome? =
      match change with
      | .killed signal =>
        if signal ≤ lastNamedSignal then some (.killed signal)
        else some (.failed (.system .invalidArgument))
      | change => change.outcome? := by
  cases change with
  | killed signal =>
    by_cases h : signal ≤ lastNamedSignal <;>
      simp [report, WaitReport.outcome?, h, Errno.invalidArgument, Errno.interrupted]
  | _ => simp [report, WaitReport.outcome?, outcome?]

/-- A report settles nothing exactly when its change is no end. -/
theorem Change.outcome?_report_eq_none_iff {change : Change} :
    change.report.outcome? = none ↔ change.isEnd = false := by
  rw [← Change.isFinal_report, WaitReport.isFinal, Option.isSome_eq_false_iff, Option.isNone_iff_eq_none]

/-! ## The argument vector -/

theorem argumentBytes_of_not_mem {arg : String} (h : 0 ∉ Utf8.encode arg) :
    argumentBytes arg = .ok (Utf8.encode arg) := by
  have hnone : (Utf8.encode arg).idxOf? 0 = none := by simpa using h
  simp only [argumentBytes, hnone]

/-- Without zero bytes every argument is passed on as it is. -/
theorem argumentVector_of_forall {args : List String} (h : ∀ arg ∈ args, 0 ∉ Utf8.encode arg) :
    argumentVector args = .ok (args.map Utf8.encode) := by
  induction args with
  | nil => rfl
  | cons arg args ih =>
    rw [List.forall_mem_cons] at h
    simp only [argumentVector, argumentBytes_of_not_mem h.1, ih h.2, List.map_cons]

/-! ## Programs that were started -/

section
variable {Dir : Type} {kernel : Kernel Dir} {dir : Dir} {args : List String} {child : Pid}
  {life : Execution}

/-- The system starts the program that these arguments name, in a child that lives this life. -/
structure Starts (kernel : Kernel Dir) (rules : StartRules) (dir : Dir) (args : List String)
    (child : Pid) (life : Execution) : Prop where
  ne_nil : args ≠ []
  passed : ∀ arg ∈ args, 0 ∉ Utf8.encode arg
  forks : kernel.fork = .ok child
  runs : kernel.exec rules dir (args.map Utf8.encode) = .ok life

theorem forkExec_of_starts (h : Starts kernel .forked dir args child life) :
    (forkExec kernel dir args).launch.outcome
      = (awaitEnd (life.changes.map Change.report) (exists_isFinal_of_exists_isEnd life.ends)).1 := by
  obtain ⟨name, rest, rfl⟩ := List.exists_cons_of_ne_nil h.ne_nil
  have hruns := h.runs
  rw [List.map_cons] at hruns
  unfold forkExec
  simp only [argumentVector_of_forall h.passed, List.map_cons, h.forks, hruns]

theorem spawn_of_starts (h : Starts kernel .spawned dir args child life) :
    (spawn kernel dir args).launch.outcome = endOf life.changes life.ends := by
  obtain ⟨name, rest, rfl⟩ := List.exists_cons_of_ne_nil h.ne_nil
  have hpassed : (name :: rest).any holdsNul = false := by
    simpa [holdsNul] using h.passed
  unfold spawn
  simp only [hpassed, h.forks, h.runs]
  rfl

end

/-! ## The two ways to launch -/

/-- The life ends by this change. Before it the child may stop and go on, and the waiting may be
interrupted, any number of times. -/
def Execution.EndsBy (life : Execution) (last : Change) : Prop :=
  ∃ before after, life.changes = before ++ last :: after ∧
    (∀ change ∈ before, change.outcome? = none) ∧ last.isEnd

section
variable {Dir : Type} {kernel : Kernel Dir} {dir : Dir} {args : List String} {child : Pid}
  {life : Execution} {last : Change}

theorem forkExec_of_endsBy (h : Starts kernel .forked dir args child life) (hends : life.EndsBy last) :
    last.report.outcome? = some (forkExec kernel dir args).launch.outcome := by
  obtain ⟨before, after, hchanges, hbefore, hend⟩ := hends
  have hfinal : last.report.isFinal := by rw [Change.isFinal_report, hend]
  obtain ⟨outcome, hlast⟩ := Option.isSome_iff_exists.1 hfinal
  -- What is no end is reported as no end, so waiting goes past it.
  have hwaits : ∀ report ∈ before.map Change.report, report.outcome? = none := by
    intro report hreport
    obtain ⟨change, hmem, rfl⟩ := List.mem_map.1 hreport
    rw [Change.outcome?_report_eq_none_iff, Change.isEnd, hbefore change hmem, Option.isSome_none]
  have hmap : life.changes.map Change.report
      = before.map Change.report ++ last.report :: after.map Change.report := by simp [hchanges]
  rw [forkExec_of_starts h, hlast]
  simp only [hmap]
  rw [awaitEnd_append hwaits hlast]

theorem spawn_of_endsBy (h : Starts kernel .spawned dir args child life) (hends : life.EndsBy last) :
    last.outcome? = some (spawn kernel dir args).launch.outcome := by
  obtain ⟨before, after, hchanges, hbefore, hend⟩ := hends
  obtain ⟨outcome, hlast⟩ := Option.isSome_iff_exists.1 hend
  rw [spawn_of_starts h, hlast]
  simp only [hchanges]
  rw [endOf_append hbefore hlast]

end

/-- A started program comes out as it ended when it is spawned, whatever became of it before. Launched
by fork and exec it comes out in the same way, unless its end is a signal without a name: then the
launch counts as failed although the program did run. -/
theorem launch_of_endsBy {Dir : Type} {kernel : Kernel Dir} {dir : Dir} {args : List String}
    {child : Pid} {life life' : Execution} {last : Change}
    (h : Starts kernel .forked dir args child life) (h' : Starts kernel .spawned dir args child life')
    (hends : life.EndsBy last) (hends' : life'.EndsBy last) :
    last.outcome? = some (spawn kernel dir args).launch.outcome ∧
      ((∀ signal, last = .killed signal → signal ≤ lastNamedSignal) →
        (forkExec kernel dir args).launch.outcome = (spawn kernel dir args).launch.outcome) ∧
      ∀ signal, last = .killed signal → lastNamedSignal < signal →
        (forkExec kernel dir args).launch.outcome = .failed (.system .invalidArgument) := by
  have hspawn := spawn_of_endsBy h' hends'
  have hfork := forkExec_of_endsBy h hends
  rw [Change.outcome?_report] at hfork
  refine ⟨hspawn, ?_, ?_⟩
  · intro hnamed
    cases last with
    | killed signal =>
      simp only [if_pos (hnamed signal rfl)] at hfork
      exact Option.some.inj (hfork.symm.trans hspawn)
    | _ => exact Option.some.inj (hfork.symm.trans hspawn)
  · rintro signal rfl hlast
    simp only [if_neg (Nat.not_le.2 hlast)] at hfork
    exact (Option.some.inj hfork).symm

/-- A child that stops, goes on, is waited for in vain, and is ended by a signal with a name. -/
theorem launch_of_endsBy_stopped :
    let changes : List Change := [.stopped, .interrupted, .continued, .killed 9]
    let life : Execution := { changes, ends := ⟨.killed 9, by simp [changes], rfl⟩ }
    let kernel : Kernel Unit := { fork := .ok 7, exec := fun _ _ _ => .ok life }
    Starts kernel .forked () ["sleep", "5"] 7 life ∧ life.EndsBy (.killed 9) ∧
      (spawn kernel () ["sleep", "5"]).launch.outcome = .killed 9 ∧
      (forkExec kernel () ["sleep", "5"]).launch.outcome = .killed 9 := by
  intro changes life kernel
  have hpassed : ∀ arg ∈ ["sleep", "5"], 0 ∉ Utf8.encode arg := by decide
  have hforked : Starts kernel .forked () ["sleep", "5"] 7 life := ⟨by simp, hpassed, rfl, rfl⟩
  have hspawned : Starts kernel .spawned () ["sleep", "5"] 7 life := ⟨by simp, hpassed, rfl, rfl⟩
  have hends : life.EndsBy (.killed 9) :=
    ⟨[.stopped, .interrupted, .continued], [], rfl, by decide, rfl⟩
  obtain ⟨hspawn, hagree, -⟩ := launch_of_endsBy hforked hspawned hends hends
  have hkilled : (spawn kernel () ["sleep", "5"]).launch.outcome = .killed 9 :=
    (Option.some.inj hspawn).symm
  refine ⟨hforked, hends, hkilled, (hagree ?_).trans hkilled⟩
  rintro signal ⟨⟩
  decide

/-- A child that is ended by a signal without a name is a failed launch to one and not to the other. -/
theorem forkExec_ne_spawn :
    let life : Execution := { changes := [.killed 40], ends := ⟨.killed 40, by simp, rfl⟩ }
    let kernel : Kernel Unit := { fork := .ok 7, exec := fun _ _ _ => .ok life }
    (forkExec kernel () ["sleep", "5"]).launch.outcome = .failed (.system .invalidArgument) ∧
      (spawn kernel () ["sleep", "5"]).launch.outcome = .killed 40 := by
  decide

end LineShell
