import LineShell.Proofs.FailedStarts
import LineShell.Proofs.Spacing
import LineShell.Proofs.Transcript
/-!
# What a session launches

Whatever a shell reads, it launches the words of a line: at least one, none of them empty and none with a
delimiter in it, and the first of them is the name of no builtin. So there always is a program to launch, and
no launch fails for want of one (`launches_run_words`).
-/

namespace LineShell

variable {Dir State : Type}

/-! ## The faults of launches -/

/-- Waiting comes to the first outcome that a report settles. -/
theorem findSome?_outcome?_awaitEnd {reports : List WaitReport} (h : ∃ report ∈ reports, report.isFinal) :
    reports.findSome? WaitReport.outcome? = some (awaitEnd reports h).1 := by
  induction reports with
  | nil => simp at h
  | cons report reports ih =>
    cases houtcome : report.outcome? with
    | some outcome => rw [List.findSome?_cons, houtcome, awaitEnd_cons_of_some houtcome h]
    | none =>
      have hrest : ∃ report ∈ reports, report.isFinal := by
        simpa [WaitReport.isFinal, houtcome] using h
      rw [List.findSome?_cons, houtcome, awaitEnd_cons_of_none houtcome h hrest]
      exact ih hrest

/-- A child ends by the first of its changes that is an end. -/
theorem findSome?_outcome?_endOf {changes : List Change} (h : ∃ change ∈ changes, change.isEnd) :
    changes.findSome? Change.outcome? = some (endOf changes h) := by
  induction changes with
  | nil => simp at h
  | cons change changes ih =>
    cases houtcome : change.outcome? with
    | some outcome => rw [List.findSome?_cons, houtcome, endOf_cons_of_some houtcome h]
    | none =>
      have hrest : ∃ change ∈ changes, change.isEnd := by simpa [Change.isEnd, houtcome] using h
      rw [List.findSome?_cons, houtcome, endOf_cons_of_none houtcome h hrest]
      exact ih hrest

theorem WaitReport.exists_errno_of_failed {report : WaitReport} {fault : Fault}
    (h : report.outcome? = some (.failed fault)) : ∃ errno, fault = .system errno := by
  cases report with
  | failed errno =>
    by_cases hinterrupted : errno = .interrupted
    · simp [outcome?, hinterrupted] at h
    · exact ⟨errno, by simpa [outcome?, hinterrupted, eq_comm] using h⟩
  | _ => cases h

theorem Change.outcome?_ne_failed (change : Change) (fault : Fault) :
    change.outcome? ≠ some (.failed fault) := by
  cases change <;> simp [outcome?]

section
variable {kernel : Kernel Dir} {dir : Dir} {name : String} {rest : List String} {fault : Fault}

/-- With a program to start, a launch by fork and exec fails by a zero byte or as the system says. -/
theorem fault_of_forkExec (h : (forkExec kernel dir (name :: rest)).launch.outcome = .failed fault) :
    (∃ offset, fault = .nulAt offset) ∨ ∃ errno, fault = .system errno := by
  cases hobstacle : kernel.obstacle? .forked dir (name :: rest) with
  | none =>
    obtain ⟨child, life, hstarts⟩ := obstacle?_eq_none_iff.1 hobstacle
    have hfirst := findSome?_outcome?_awaitEnd (exists_isFinal_of_exists_isEnd life.ends)
    rw [← forkExec_of_starts hstarts, h] at hfirst
    obtain ⟨report, -, hreport⟩ := List.exists_of_findSome?_eq_some hfirst
    exact .inr (WaitReport.exists_errno_of_failed hreport)
  | some obstacle =>
    have hleads := leadsTo_forkExec hobstacle
    generalize (forkExec kernel dir (name :: rest)).launch = launch at h hleads
    cases hleads with
    | unfit offset =>
      cases h
      exact .inl ⟨offset, rfl⟩
    | noProcess errno =>
      cases h
      exact .inr ⟨errno, rfl⟩
    | noProgram errno => cases h

/-- Spawning it fails by whatever stands in the way. -/
theorem fault_of_spawn (h : (spawn kernel dir (name :: rest)).launch.outcome = .failed fault) :
    ∃ obstacle : Obstacle, fault = obstacle.fault := by
  cases hobstacle : kernel.obstacle? .spawned dir (name :: rest) with
  | none =>
    obtain ⟨child, life, hstarts⟩ := obstacle?_eq_none_iff.1 hobstacle
    have hfirst := findSome?_outcome?_endOf life.ends
    rw [← spawn_of_starts hstarts, h] at hfirst
    obtain ⟨change, -, hchange⟩ := List.exists_of_findSome?_eq_some hfirst
    exact absurd hchange (change.outcome?_ne_failed fault)
  | some obstacle =>
    rw [launch_spawn_of_obstacle? hobstacle] at h
    cases h
    exact ⟨obstacle, rfl⟩

/-- A launch by fork and exec notes at most that a child was made, under the name of the program. -/
theorem notes_forkExec (kernel : Kernel Dir) (dir : Dir) (name : String) (rest : List String) :
    ∀ note ∈ (forkExec kernel dir (name :: rest)).launch.notes, note = .spawnedChild name := by
  unfold forkExec
  split
  · simp [Attempt.refused]
  · simp [Attempt.refused]
  · split <;> simp

theorem notes_spawn (kernel : Kernel Dir) (dir : Dir) (args : List String) :
    (spawn kernel dir args).launch.notes = [] := by
  unfold spawn
  split
  · rfl
  · split
    · rfl
    · dsimp only
      split <;> rfl

end

/-! ## Launches and what is noted of them -/

theorem outcomeNote_eq_launchFailed_iff {name program : String} {outcome : Outcome} {fault : Fault} :
    outcomeNote name outcome = .launchFailed program fault ↔ name = program ∧ outcome = .failed fault := by
  cases outcome <;> simp [outcomeNote]

section
variable {host : Host Dir State} {program : String} {fault : Fault}

/-- The launcher leaves it to the shell to note that a launch failed. -/
def Host.LeavesFailures (host : Host Dir State) : Prop :=
  ∀ dir args launcher program fault, .launchFailed program fault ∉ (host.launch dir args launcher).1.notes

/-- Around a launch, no other note than the one on its outcome can say that it failed. -/
theorem of_note_mem_launch {console : Console} {launch : Launch} {name : String} {args : List String}
    {dir : Dir} (hleaves : .launchFailed program fault ∉ launch.notes)
    (hmem : .note (.launchFailed program fault) ∈ (console.flush : Shown Dir).trace
      ++ unflushedNotes .unflushedBeforeLaunch (console.flush : Shown Dir).fault?
      ++ .launch args dir :: launch.notes.map .note
      ++ [.childOut launch.out, .childErr launch.err, .note (outcomeNote name launch.outcome)]) :
    name = program ∧ launch.outcome = .failed fault := by
  have hunflushed : Event.note (.launchFailed program fault) ∉
      (unflushedNotes .unflushedBeforeLaunch (console.flush : Shown Dir).fault? : Trace Dir) := by
    cases (console.flush : Shown Dir).fault? <;> simp [unflushedNotes]
  have hflush : Event.note (.launchFailed program fault) ∉ (console.flush : Shown Dir).trace := by
    simp [Console.flush]
  rw [← outcomeNote_eq_launchFailed_iff, eq_comm]
  simp only [List.mem_append, List.mem_cons, List.mem_map, List.not_mem_nil, or_false, hflush, hunflushed,
    false_or, reduceCtorEq, Event.note.injEq, exists_eq_right] at hmem
  exact hmem.resolve_left hleaves

/-- A launch that is noted as failed has failed, and was a launch of the program that the note names. -/
theorem Effect.exists_launch_of_note {history : History} {bench : Bench Dir} {launcher : State}
    {args : List String} {done : Dispatched Dir State} (h : Effect host history bench launcher args done)
    (hnotes : host.LeavesFailures) (hmem : .note (.launchFailed program fault) ∈ done.trace) :
    ∃ rest, args = program :: rest ∧ (args, bench.dir) ∈ done.trace.launches ∧
      (host.launch bench.dir args launcher).1.outcome = .failed fault := by
  have hlaunches := h.launches_eq
  cases h with
  | blank | exit | moved => simp at hmem
  | notMoved _ _ _ _ _ hreport =>
    subst hreport
    simp [Console.report] at hmem
  | printed _ _ _ _ _ _ hprint =>
    subst hprint
    simp [Console.print] at hmem
  | notPrinted _ _ _ _ _ _ _ _ hprint _ hreport =>
    subst hprint hreport
    simp [Console.print, Console.report] at hmem
  | launched name rest flushed launch _ hl houtcome hflush hlaunch =>
    subst hflush
    have hleaves := hnotes bench.dir (name :: rest) launcher program fault
    rw [hlaunch] at hleaves
    obtain ⟨-, hfailed⟩ := of_note_mem_launch hleaves (List.mem_of_ne_of_mem (by simp) hmem)
    exact absurd hfailed (houtcome fault)
  | notLaunched name rest flushed launch _ failure reported hl houtcome hflush hlaunch hreport =>
    subst hflush hreport
    have hleaves := hnotes bench.dir (name :: rest) launcher program fault
    rw [hlaunch] at hleaves
    have hbefore := List.mem_of_ne_of_mem (by simp) hmem
    rw [List.mem_append] at hbefore
    obtain ⟨rfl, hfailed⟩ := of_note_mem_launch hleaves (hbefore.resolve_right (by simp [Console.report]))
    rw [if_pos hl] at hlaunches
    exact ⟨rest, rfl, hlaunches ▸ List.mem_singleton_self _, by rw [hlaunch, hfailed]⟩

/-- The prompt is shown without a note. -/
theorem Head.note_not_mem_shown (head : Head Dir State) (note : Note) : .note note ∉ head.shown.trace := by
  obtain ⟨bytes, h | ⟨worked, h⟩⟩ := @Console.prompt_trace Dir head.console head.shell.prompt
  all_goals
    unfold Head.shown
    simp [h]

theorem Shell.mem_of_note_mem_finish {shell : Shell Dir State} {trace : Trace Dir} {console : Console}
    (h : .note (.launchFailed program fault) ∈ (shell.finish trace console).trace) :
    .note (.launchFailed program fault) ∈ trace := by
  rw [Shell.trace_finish_eq] at h
  cases hflush : console.out.flush.1 <;> simpa [hflush, unflushedNotes] using h

/-- In a line, only its command notes anything. -/
theorem Head.note_mem_line {head : Head Dir State} {line : String} {note : Note}
    (h : .note note ∈ head.shown.trace ++ .read (.line line) :: (head.done host line).trace) :
    .note note ∈ (head.done host line).trace := by
  rw [List.mem_append] at h
  exact List.mem_of_ne_of_mem (by simp) (h.resolve_left (head.note_not_mem_shown note))

/-- Whatever a run notes to have failed as a launch, it did launch. -/
theorem exists_launch_of_note_run (hnotes : host.LeavesFailures) (head : Head Dir State) :
    .note (.launchFailed program fault) ∈ (head.run host).trace →
      ∃ rest dir launcher, (program :: rest, dir) ∈ (head.run host).trace.launches ∧
        (host.launch dir (program :: rest) launcher).1.outcome = .failed fault := by
  -- What the command of a line launches is launched in every trace that goes on from the line's.
  have hline {head : Head Dir State} {line : String}
      (hmem : .note (.launchFailed program fault) ∈ (head.done host line).trace) (later : Trace Dir) :
      ∃ rest dir launcher, (program :: rest, dir) ∈ Trace.launches
          (head.shown.trace ++ .read (.line line) :: (head.done host line).trace ++ later) ∧
        (host.launch dir (program :: rest) launcher).1.outcome = .failed fault := by
    obtain ⟨rest, hargs, hlaunch, hfailed⟩ := (head.effect host line).exists_launch_of_note hnotes hmem
    rw [hargs] at hlaunch hfailed
    exact ⟨rest, _, _, by simp [hlaunch], hfailed⟩
  refine run_induction host (fun head run => .note (.launchFailed program fault) ∈ run.trace →
    ∃ rest dir launcher, (program :: rest, dir) ∈ run.trace.launches ∧
      (host.launch dir (program :: rest) launcher).1.outcome = .failed fault) ?_ ?_ head
  · intro head run hlast hmem
    cases hlast with
    | unshown => exact absurd hmem (head.note_not_mem_shown _)
    | unread => exact absurd hmem (by simp [head.note_not_mem_shown])
    | ended => exact absurd (Shell.mem_of_note_mem_finish hmem) (by simp [head.note_not_mem_shown])
    | exited line =>
      rw [Shell.trace_finish_eq]
      exact hline (Head.note_mem_line (Shell.mem_of_note_mem_finish hmem)) _
  · intro head trace next run hturn ih hmem
    unfold Run.following at hmem ⊢
    rcases List.mem_append.1 hmem with hmem | hmem
    · cases hturn with
      | mk line => exact hline (Head.note_mem_line hmem) _
    · obtain ⟨rest, dir, launcher, hlaunch, hfailed⟩ := ih hmem
      exact ⟨rest, dir, launcher, by simp [hlaunch], hfailed⟩

end

/-! ## The words that are launched -/

theorem ne_nil_of_isLaunched {args : List String} (h : isLaunched args) : args ≠ [] := by
  rintro rfl
  cases h

/-- What a run launches are the words of a line, beginning with a name that no builtin has. -/
theorem words_of_mem_launches (host : Host Dir State) (head : Head Dir State) {launch : List String × Dir}
    (h : launch ∈ (head.run host).trace.launches) :
    ∃ name rest, launch.1 = name :: rest ∧ name ∉ Registry.standardNames ∧
      ∀ word ∈ launch.1, IsWord word := by
  have hcommand : launch.1 ∈ ((head.run host).trace.lines.map words).filter isLaunched := by
    rw [← Shell.map_fst_launchesOf, ← launches_run host head]
    exact List.mem_map_of_mem h
  obtain ⟨hline, hlaunched⟩ := List.mem_filter.1 hcommand
  obtain ⟨line, -, hwords⟩ := List.mem_map.1 hline
  obtain ⟨name, rest, hargs⟩ := List.exists_cons_of_ne_nil (ne_nil_of_isLaunched hlaunched)
  refine ⟨name, rest, hargs, ?_, fun word hword => isWord_of_mem_words (hwords ▸ hword)⟩
  rw [hargs] at hlaunched
  simpa [Registry.standardNames] using ne_of_isLaunched hlaunched

/-! ## What is reported of launches -/

theorem Bench.result_printThen_ne_launch (bench : Bench Dir) (pieces : List Bytes) (signal : Signal)
    (fault : Fault) : (bench.printThen pieces (.ok signal)).result ≠ .error (.launch fault) := by
  unfold printThen
  dsimp only
  split <;> simp

/-- A builtin does not fail as a launch does. -/
theorem Registry.result_run_ne_launch {name : String} {builtin : Builtin Dir}
    (h : standard.find? name = some builtin) (context : Context Dir) (args : List String) (bench : Bench Dir)
    (fault : Fault) : (builtin.run context args bench).result ≠ .error (.launch fault) := by
  rcases eq_of_find?_standard h with rfl | rfl | rfl | rfl
  · dsimp only [Builtin.cd]
    split
    · simp
    · split <;> simp
  · exact bench.result_printThen_ne_launch _ .proceed fault
  · simp [Builtin.exit]
  · exact bench.result_printThen_ne_launch _ .proceed fault

/-- A launch failure that is reported is one of the launcher, which was asked to launch at least one word. -/
theorem exists_outcome_of_raised? {host : Host Dir State} {history : History} {args : List String}
    {bench : Bench Dir} {launcher : State} {fault : Fault}
    (h : raised? host history args bench launcher = some (.launch fault)) :
    ∃ name rest, args = name :: rest ∧ (host.launch bench.dir args launcher).1.outcome = .failed fault := by
  unfold raised? at h
  cases args with
  | nil => cases h
  | cons name rest =>
    refine ⟨name, rest, rfl, ?_⟩
    cases hfind : (Registry.standard : Registry Dir).find? name with
    | some builtin =>
      simp only [hfind] at h
      split at h
      · rename_i error hresult
        cases h
        exact absurd hresult (Registry.result_run_ne_launch hfind _ _ _ fault)
      · cases h
    | none =>
      simp only [hfind] at h
      split at h
      · rename_i failure houtcome
        cases h
        exact houtcome
      · cases h
      · cases h

/-- On a host of either kind the shell notes what fails, and nothing fails for want of a program that is
there. -/
theorem forking_or_spawning {changeDir : ChangeDir Dir} {kernel : Kernel Dir} {host : Host Dir Unit}
    (h : host = .forking changeDir kernel ∨ host = .spawning changeDir kernel) :
    host.LeavesFailures ∧ ∀ dir name rest,
      (host.launch dir (name :: rest) ()).1.outcome ≠ .failed .emptyCommand := by
  rcases h with rfl | rfl
  · refine ⟨fun dir args _ program fault hmem => ?_, fun dir name rest h => ?_⟩
    · cases args with
      | nil => cases hmem
      | cons name rest => cases notes_forkExec kernel dir name rest _ hmem
    · rcases fault_of_forkExec h with ⟨_, h⟩ | ⟨_, h⟩ <;> cases h
  · refine ⟨fun dir args _ program fault hmem => ?_, fun dir name rest h => ?_⟩
    · exact absurd (notes_spawn kernel dir args ▸ hmem) List.not_mem_nil
    · obtain ⟨obstacle, hfault⟩ := fault_of_spawn h
      cases obstacle <;> cases hfault

/-- What a shell launches in a session, whatever it reads and however both streams and all launches come out: a
program whose name is no builtin's, and its arguments, all of them words. There always is a name for a launch by
fork and exec to note, and on a host of either kind no launch is noted or reported to fail for want of a
program. -/
theorem launches_run_words (host : Host Dir State) (shell : Shell Dir State) (source : Source)
    (console : Console) :
    (∀ launch ∈ (shell.run host source console).trace.launches, ∃ name rest, launch.1 = name :: rest ∧
      name ∉ Registry.standardNames ∧ (∀ word ∈ launch.1, IsWord word) ∧
      ∀ kernel : Kernel Dir, ∀ note ∈ (forkExec kernel launch.2 launch.1).launch.notes,
        note = .spawnedChild name) ∧
    ∀ (changeDir : ChangeDir Dir) (kernel : Kernel Dir) (system : Host Dir Unit) (shell : Shell Dir Unit),
      system = .forking changeDir kernel ∨ system = .spawning changeDir kernel →
        (∀ program,
          .note (.launchFailed program .emptyCommand) ∉ (shell.run system source console).trace) ∧
        ∀ history args bench, raised? system history args bench () ≠ some (.launch .emptyCommand) := by
  refine ⟨fun launch hlaunch => ?_, fun changeDir kernel system shell hsystem => ?_⟩
  · obtain ⟨name, rest, hargs, hname, hwords⟩ :=
      words_of_mem_launches host ⟨shell, source, console⟩ hlaunch
    refine ⟨name, rest, hargs, hname, hwords, fun kernel => ?_⟩
    rw [hargs]
    exact notes_forkExec kernel launch.2 name rest
  · obtain ⟨hleaves, hempty⟩ := forking_or_spawning hsystem
    constructor
    · intro program hmem
      obtain ⟨rest, dir, launcher, -, hfailed⟩ :=
        exists_launch_of_note_run hleaves ⟨shell, source, console⟩ hmem
      exact hempty dir program rest hfailed
    · intro history args bench hraised
      obtain ⟨name, rest, rfl, hfailed⟩ := exists_outcome_of_raised? hraised
      exact hempty bench.dir name rest hfailed

/-- Bells and other gaps around the words, a line of nothing else, and no process for the program. -/
theorem launches_run_words_bell :
    let kernel : Kernel Unit := { fork := .error ⟨11⟩, exec := fun _ _ _ => .error .noEntry }
    let host := Host.forking (fun _ _ => .error .nulInPath) kernel
    let shell : Shell Unit Unit := { dir := (), launcher := () }
    let run := shell.run host [.piece (Utf8.encode "\x07x\x07-l\r\n \t\x07\ncd x\n")] {}
    run.trace.launches = [(["x", "-l"], ())] ∧ IsWord "x" ∧ IsWord "-l" ∧
      .note (.launchFailed "x" .emptyCommand) ∉ run.trace := by
  intro kernel host shell run
  let bytes := Utf8.encode "\x07x\x07-l\r\n \t\x07\ncd x\n"
  let head : Head Unit Unit := ⟨shell, [.piece bytes], {}⟩
  obtain ⟨-, hlines, -⟩ := run_of_lines host _ head bytes rfl (Source.delivers_piece bytes)
    Device.neverFails_reliable Device.neverFails_reliable
  have hread : (upToExit ((linesOf bytes).map Utf8.decode)).map words = [["x", "-l"], [], ["cd", "x"]] := by
    decide
  have hlaunches : run.trace.launches = [(["x", "-l"], ())] := by
    have h := launches_run host head
    rw [hlines, hread] at h
    exact h
  obtain ⟨hwords, hnever⟩ := launches_run_words host shell [.piece bytes] {}
  obtain ⟨_, _, -, -, hword, -⟩ := hwords (["x", "-l"], ()) (hlaunches ▸ List.mem_singleton_self _)
  exact ⟨hlaunches, hword "x" (by simp), hword "-l" (by simp),
    (hnever _ kernel host shell (.inl rfl)).1 "x"⟩

end LineShell
