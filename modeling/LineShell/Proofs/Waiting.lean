import LineShell.Proofs.Arguments
import LineShell.Proofs.Reaping
/-!
# What ends the waiting

The system is asked for a child until an answer settles what the launch comes to. A `Watch` is how far this has
come: after an answer that settles nothing the system is asked once more, and the first one that does ends the
watch. `awaitEnd` and the waits of a launch by fork and exec are watches over what a child reports.
-/

namespace LineShell

/-! ## Answers -/

namespace WaitReport

variable {report : WaitReport} {outcome : Outcome}

/-- The child is not at its end: it stopped, goes on or still runs, or the request was interrupted. -/
inductive Unsettled : WaitReport → Prop
  | stopped : Unsettled .stopped
  | continued : Unsettled .continued
  | stillAlive : Unsettled .stillAlive
  | interrupted : Unsettled (.failed .interrupted)

/-- The child came to its end, or the system cannot tell of it. -/
inductive Settles : WaitReport → Outcome → Prop
  | exited (code : Int) : Settles (.exited code) (.exited code)
  | signaled (signal : Int) : Settles (.signaled signal) (.killed signal)
  | failed {errno : Errno} (h : errno ≠ .interrupted) : Settles (.failed errno) (.failed (.system errno))

theorem unsettled_iff : report.Unsettled ↔ report.outcome? = none := by
  constructor
  · intro h
    cases h <;> simp [outcome?]
  · intro h
    cases report with
    | exited code => cases h
    | signaled signal => cases h
    | stopped => exact .stopped
    | continued => exact .continued
    | stillAlive => exact .stillAlive
    | failed errno =>
      have herrno : errno = .interrupted := by simpa [outcome?] using h
      exact herrno ▸ .interrupted

theorem settles_iff : report.Settles outcome ↔ report.outcome? = some outcome := by
  constructor
  · intro h
    cases h with
    | failed h => simp [outcome?, h]
    | _ => rfl
  · intro h
    cases report with
    | exited code => cases h; exact .exited code
    | signaled signal => cases h; exact .signaled signal
    | failed errno =>
      by_cases herrno : errno = .interrupted
      · simp [outcome?, herrno] at h
      · simp only [outcome?, herrno, if_false, Option.some.injEq] at h
        exact h ▸ .failed herrno
    | _ => cases h

end WaitReport

/-! ## Watches -/

/-- How far the waiting for a child has come. -/
structure Watch where
  /-- The requests made of the system, in order. -/
  calls : List SystemCall := []
  /-- What the launch comes to, once an answer settled it. -/
  outcome? : Option Outcome := none
  deriving DecidableEq, Repr

namespace Watch

variable {child : Pid} {watch : Watch} {report last : WaitReport} {reports before : List WaitReport}
  {outcome : Outcome}

/-- One pass: the system is asked for the child and gives this report. Behind the outcome nothing is asked. -/
def pass (child : Pid) (watch : Watch) (report : WaitReport) : Watch :=
  match watch.outcome? with
  | some _ => watch
  | none => ⟨watch.calls ++ [.wait child], report.outcome?⟩

/-- The watch over a child for which the system has these answers, one for each request. -/
def answered (child : Pid) (reports : List WaitReport) : Watch := reports.foldl (pass child) {}

theorem pass_of_settled (h : watch.outcome? = some outcome) (report : WaitReport) :
    watch.pass child report = watch := by
  simp only [pass, h]

theorem pass_of_unsettled (calls : List SystemCall) :
    pass child ⟨calls, none⟩ report = ⟨calls ++ [.wait child], report.outcome?⟩ := rfl

/-- Behind the outcome nothing is asked, so nothing changes any more. -/
theorem foldl_pass_of_settled (h : watch.outcome? = some outcome) (reports : List WaitReport) :
    reports.foldl (pass child) watch = watch := by
  induction reports with
  | nil => rfl
  | cons report reports ih => rw [List.foldl_cons, pass_of_settled h, ih]

/-- Answers that settle nothing take one request each, and the watch goes on. -/
theorem foldl_pass_of_unsettled (h : ∀ report ∈ reports, report.Unsettled) (calls : List SystemCall) :
    reports.foldl (pass child) ⟨calls, none⟩
      = ⟨calls ++ List.replicate reports.length (.wait child), none⟩ := by
  induction reports generalizing calls with
  | nil => simp
  | cons report reports ih =>
    rw [List.forall_mem_cons] at h
    rw [List.foldl_cons, pass_of_unsettled, WaitReport.unsettled_iff.1 h.1, ih h.2, List.append_assoc,
      List.length_cons, List.replicate_succ, List.singleton_append]

theorem answered_of_unsettled (h : ∀ report ∈ reports, report.Unsettled) :
    answered child reports = ⟨List.replicate reports.length (.wait child), none⟩ :=
  foldl_pass_of_unsettled h []

/-- A watch ends with the first answer that settles the outcome, whatever the answers behind it would be. -/
theorem answered_append_cons (hbefore : ∀ report ∈ before, report.Unsettled) (hlast : last.Settles outcome)
    (after : List WaitReport) :
    answered child (before ++ last :: after)
      = ⟨List.replicate (before.length + 1) (.wait child), some outcome⟩ := by
  have hends : pass child (answered child before) last
      = ⟨List.replicate (before.length + 1) (.wait child), some outcome⟩ := by
    rw [answered_of_unsettled hbefore, pass_of_unsettled, WaitReport.settles_iff.1 hlast, List.replicate_succ']
  rw [answered, List.foldl_append, List.foldl_cons]
  exact (congrArg (after.foldl (pass child)) hends).trans (foldl_pass_of_settled rfl after)

end Watch

/-- Where some report is final, there is a first one. -/
theorem exists_first_final {reports : List WaitReport} (h : ∃ report ∈ reports, report.isFinal) :
    ∃ before last after outcome, reports = before ++ last :: after ∧
      (∀ report ∈ before, report.Unsettled) ∧ last.Settles outcome := by
  obtain ⟨outcome, houtcome⟩ := Option.isSome_iff_exists.1 (List.findSome?_isSome_iff.2 h)
  obtain ⟨before, last, after, hreports, hlast, hbefore⟩ := List.findSome?_eq_some_iff.1 houtcome
  exact ⟨before, last, after, outcome, hreports,
    fun report hmem => WaitReport.unsettled_iff.2 (hbefore report hmem), WaitReport.settles_iff.2 hlast⟩

theorem awaitEnd_of_settles {before after : List WaitReport} {last : WaitReport} {outcome : Outcome}
    (hbefore : ∀ report ∈ before, report.Unsettled) (hlast : last.Settles outcome)
    (h : ∃ report ∈ before ++ last :: after, report.isFinal) :
    awaitEnd (before ++ last :: after) h = (outcome, before.length + 1) :=
  awaitEnd_append (fun report hmem => WaitReport.unsettled_iff.1 (hbefore report hmem))
    (WaitReport.settles_iff.1 hlast) h

/-- Waiting is watching, with one request for each report up to the final one. -/
theorem Watch.answered_eq_awaitEnd (child : Pid) {reports : List WaitReport}
    (h : ∃ report ∈ reports, report.isFinal) :
    answered child reports
      = ⟨List.replicate (awaitEnd reports h).2 (.wait child), some (awaitEnd reports h).1⟩ := by
  obtain ⟨before, last, after, outcome, rfl, hbefore, hlast⟩ := exists_first_final h
  rw [answered_append_cons hbefore hlast, awaitEnd_of_settles hbefore hlast]

/-! ## The child of a launch -/

/-- Whether a request is to wait for a child. -/
def SystemCall.isWait : SystemCall → Bool
  | .wait _ => true
  | .fork | .exec _ | .exit _ | .spawn _ => false

/-- The life of a child that is to run these arguments. If it cannot become the program, it ends by itself. -/
def Kernel.lifeOf {Dir : Type} (kernel : Kernel Dir) (dir : Dir) (argv : List Bytes) : Execution :=
  match kernel.exec .forked dir argv with
  | .ok life => life
  | .error errno => .stillborn errno

/-- Reports that settle nothing are of changes that are no end. -/
theorem exists_changes_of_reports {changes : List Change} {before after : List WaitReport} {last : WaitReport}
    (hbefore : ∀ report ∈ before, report.Unsettled) (h : changes.map Change.report = before ++ last :: after) :
    ∃ idle ahead, changes = idle ++ ahead ∧ idle.length = before.length ∧
      ∀ change ∈ idle, change.isEnd = false := by
  obtain ⟨idle, ahead, hchanges, hidle, -⟩ := List.map_eq_append_iff.1 h
  refine ⟨idle, ahead, hchanges, by rw [← hidle, List.length_map], fun change hmem => ?_⟩
  have hunsettled := hbefore change.report (hidle ▸ List.mem_map_of_mem hmem)
  exact Change.outcome?_report_eq_none_iff.1 (WaitReport.unsettled_iff.1 hunsettled)

section
variable {start asked waits later : List SystemCall} {child pid : Pid} {n : Nat}

/-- Among waits for one child, each is for that child and has such waits before it. -/
theorem eq_replicate_of_split
    (h : List.replicate (n + 1) (SystemCall.wait child) = waits ++ .wait pid :: later) :
    pid = child ∧ ∃ m ≤ n, waits = List.replicate m (.wait child) := by
  obtain ⟨hlength, hbefore, hbehind⟩ := List.append_eq_replicate_iff.1 h.symm
  have hmem : SystemCall.wait pid ∈ SystemCall.wait pid :: later := List.mem_cons_self
  rw [hbehind] at hmem
  rw [List.length_cons] at hlength
  exact ⟨SystemCall.wait.inj (List.eq_of_mem_replicate hmem), waits.length, by omega, hbefore⟩

/-- Where requests end with waits for one child and begin with none, each wait is one of those. -/
theorem exists_waits_of_split (hstart : ∀ call ∈ start, call.isWait = false)
    (h : start ++ List.replicate (n + 1) (.wait child) = asked ++ .wait pid :: later) :
    pid = child ∧ ∃ m ≤ n, asked = start ++ List.replicate m (.wait child) := by
  rcases List.append_eq_append_iff.1 h with ⟨waits, rfl, hsplit⟩ | ⟨rest, rfl, hsplit⟩
  · obtain ⟨hpid, m, hm, rfl⟩ := eq_replicate_of_split hsplit
    exact ⟨hpid, m, hm, rfl⟩
  · cases rest with
    | nil =>
      obtain ⟨hpid, m, hm, hnil⟩ := @eq_replicate_of_split [] _ _ _ _ hsplit.symm
      exact ⟨hpid, m, hm, by rw [← hnil, List.append_nil, List.append_nil]⟩
    | cons call rest =>
      obtain ⟨rfl, -⟩ := List.cons.inj hsplit
      have hmem : SystemCall.wait pid ∈ asked ++ .wait pid :: rest := by simp
      exact absurd (hstart _ hmem) (by simp [SystemCall.isWait])

end

section
variable {Dir : Type} {kernel : Kernel Dir} {args : List String} {child : Pid}

/-- A launch makes a child, and all that it asks of the system from then on is the watch over that child. -/
theorem forkExec_watches (hfit : ¬ Unfit args) (hfork : kernel.fork = .ok child) (dir : Dir) :
    let life := kernel.lifeOf dir (args.map Utf8.encode)
    let watch := Watch.answered child (life.changes.map Change.report)
    watch.outcome? = some (forkExec kernel dir args).launch.outcome ∧
      ∃ start, (forkExec kernel dir args).calls = start ++ watch.calls ∧
        (∀ call ∈ start, call.isWait = false) ∧ kernel.keptAfter dir start = [⟨child, life.changes⟩] := by
  obtain ⟨hne, hpassed⟩ := not_unfit_iff.1 hfit
  obtain ⟨name, rest, rfl⟩ := List.exists_cons_of_ne_nil hne
  have hvector := argumentVector_of_forall hpassed
  rw [List.map_cons] at hvector ⊢
  cases hexec : kernel.exec .forked dir (Utf8.encode name :: rest.map Utf8.encode) with
  | ok life =>
    simp only [Kernel.lifeOf, forkExec, hvector, hfork, hexec]
    rw [Watch.answered_eq_awaitEnd child (exists_isFinal_of_exists_isEnd life.ends)]
    refine ⟨rfl, [.fork, .exec _], rfl, by simp [SystemCall.isWait], ?_⟩
    simp only [Kernel.keptAfter, List.foldl_cons, List.foldl_nil, Kernel.keep, hfork, hexec]
  | error errno =>
    simp only [Kernel.lifeOf, forkExec, hvector, hfork, hexec]
    rw [Watch.answered_eq_awaitEnd child (exists_isFinal_of_exists_isEnd (Execution.stillborn errno).ends)]
    refine ⟨rfl, [.fork, .exec _, .exit execFailure], rfl, by simp [SystemCall.isWait], ?_⟩
    simp only [Kernel.keptAfter, List.foldl_cons, List.foldl_nil, Kernel.keep, hfork, hexec,
      Execution.stillborn]

/-- Whenever a launch waits, it waits for its child, and the system has not told of the child's end yet. -/
theorem kept_of_wait (hfit : ¬ Unfit args) (hfork : kernel.fork = .ok child) {dir : Dir}
    {asked later : List SystemCall} {pid : Pid}
    (h : (forkExec kernel dir args).calls = asked ++ .wait pid :: later) :
    pid = child ∧ ∃ ahead, kernel.keptAfter dir asked = [⟨child, ahead⟩] := by
  obtain ⟨-, start, hcalls, hstart, hkept⟩ := forkExec_watches hfit hfork dir
  obtain ⟨before, last, after, outcome, hreports, hbefore, hlast⟩ :=
    exists_first_final (exists_isFinal_of_exists_isEnd (kernel.lifeOf dir (args.map Utf8.encode)).ends)
  rw [hreports, Watch.answered_append_cons hbefore hlast, h] at hcalls
  obtain ⟨hpid, m, hm, rfl⟩ := exists_waits_of_split hstart hcalls.symm
  obtain ⟨idle, ahead, hchanges, hlength, hidle⟩ := exists_changes_of_reports hbefore hreports
  -- The waits made so far went over the first changes, and none of these is an end.
  have htaken : ∀ change ∈ idle.take m, change.isEnd = false :=
    fun change hmem => hidle change (List.mem_of_mem_take hmem)
  have hwaited := kernel.foldl_keep_of_not_end dir child htaken (idle.drop m ++ ahead)
  rw [List.length_take_of_le (hlength ▸ hm), ← List.append_assoc, List.take_append_drop] at hwaited
  refine ⟨hpid, idle.drop m ++ ahead, ?_⟩
  rw [Kernel.keptAfter, List.foldl_append, ← Kernel.keptAfter, hkept, hchanges, hwaited]

end

/-! ## The first answer that settles the outcome -/

/-- Waiting ends with the first answer that settles the outcome, and with no other. Until then the launch has
not come out and the child is asked for again, whether it stops, goes on or still runs or the waiting is
interrupted. The outcome is the status, the signal or the failure which that answer tells of. There is one
request for each answer up to it, always for the child of the launch, and none once its end was told. -/
theorem waits_until_settled {child : Pid} {before after : List WaitReport} {last : WaitReport}
    {outcome : Outcome} (hbefore : ∀ report ∈ before, report.Unsettled) (hlast : last.Settles outcome) :
    (∀ heard, heard <+: before →
      Watch.answered child heard = ⟨List.replicate heard.length (.wait child), none⟩) ∧
    Watch.answered child (before ++ last :: after)
      = ⟨List.replicate (before.length + 1) (.wait child), some outcome⟩ ∧
    (∃ h, awaitEnd (before ++ last :: after) h = (outcome, before.length + 1)) ∧
    ∀ {Dir : Type} (kernel : Kernel Dir) (dir : Dir) (args : List String),
      let attempt := forkExec kernel dir args
      ¬ Unfit args → kernel.fork = .ok child →
      (kernel.lifeOf dir (args.map Utf8.encode)).changes.map Change.report = before ++ last :: after →
        attempt.launch.outcome = outcome ∧
        attempt.calls.filter SystemCall.isWait = List.replicate (before.length + 1) (.wait child) ∧
        (∀ asked pid later, attempt.calls = asked ++ .wait pid :: later →
          pid = child ∧ ∃ ahead, kernel.keptAfter dir asked = [⟨child, ahead⟩]) ∧
        kernel.keptAfter dir attempt.calls = [] := by
  refine ⟨fun heard hheard => ?_, Watch.answered_append_cons hbefore hlast after, ?_, ?_⟩
  · exact Watch.answered_of_unsettled fun report hmem => hbefore report (hheard.subset hmem)
  · have hfinal : last.isFinal := by rw [WaitReport.isFinal, WaitReport.settles_iff.1 hlast, Option.isSome_some]
    exact ⟨⟨last, by simp, hfinal⟩, awaitEnd_of_settles hbefore hlast _⟩
  · intro Dir kernel dir args attempt hfit hfork hreports
    obtain ⟨houtcome, start, hcalls, hstart, -⟩ := forkExec_watches hfit hfork dir
    rw [hreports, Watch.answered_append_cons hbefore hlast] at houtcome hcalls
    have hnone : start.filter SystemCall.isWait = [] :=
      List.filter_eq_nil_iff.2 fun call hmem => by simp [hstart call hmem]
    have hwaits : attempt.calls.filter SystemCall.isWait
        = List.replicate (before.length + 1) (.wait child) := by
      rw [hcalls, List.filter_append, hnone, List.nil_append, List.filter_replicate_of_pos rfl]
    exact ⟨(Option.some.inj houtcome).symm, hwaits, fun asked pid later => kept_of_wait hfit hfork,
      kernel.keptAfter_forkExec dir args⟩

/-- A child that stops and goes on before it exits, and one that the system knows nothing of any more. -/
theorem waits_until_settled_stopped :
    let changes : List Change := [.stopped, .interrupted, .continued, .exited 5]
    let life : Execution := { changes, ends := ⟨.exited 5, by simp [changes], rfl⟩ }
    let kernel : Kernel Unit := { fork := .ok 7, exec := fun _ _ _ => .ok life }
    let attempt := forkExec kernel () ["sleep", "5"]
    (Watch.answered 7 [.stopped, .failed .interrupted] = ⟨[.wait 7, .wait 7], none⟩ ∧
      attempt.launch.outcome = .exited 5 ∧
      attempt.calls.filter SystemCall.isWait = [.wait 7, .wait 7, .wait 7, .wait 7] ∧
      kernel.keptAfter () attempt.calls = []) ∧
    Watch.answered 7 [.stillAlive, .failed ⟨10⟩, .exited 0]
      = ⟨[.wait 7, .wait 7], some (.failed (.system ⟨10⟩))⟩ := by
  intro changes life kernel attempt
  have hidle : ∀ report ∈ [WaitReport.stopped, .failed .interrupted, .continued], report.Unsettled := by
    simp [WaitReport.unsettled_iff, WaitReport.outcome?]
  obtain ⟨hunsettled, -, -, hlaunch⟩ := @waits_until_settled 7 _ [] _ _ hidle (.exited 5)
  obtain ⟨houtcome, hwaits, -, hkept⟩ := hlaunch kernel () ["sleep", "5"] (by decide) rfl rfl
  have halive : ∀ report ∈ [WaitReport.stillAlive], report.Unsettled := by
    simp [WaitReport.unsettled_iff, WaitReport.outcome?]
  have hlost : WaitReport.Settles (.failed ⟨10⟩) (.failed (.system ⟨10⟩)) := .failed (by decide)
  obtain ⟨-, hfailed, -, -⟩ := @waits_until_settled 7 _ [.exited 0] _ _ halive hlost
  exact ⟨⟨hunsettled _ ⟨[.continued], rfl⟩, houtcome, hwaits, hkept⟩, hfailed⟩

end LineShell
