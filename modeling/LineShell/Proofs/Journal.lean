import LineShell.Proofs.Recording
import LineShell.Proofs.WorkingDirectory
/-!
# What is logged

A trace without the bytes that were written is its journal: the reads, commands, flushes and launches in
their order, and the notes on them. `commandJournal` says what the journal of a command is, from where it is
carried out and how the flush before its launch goes. The journal of a run is that of its lines, one behind
another, and an end; so each note stands behind what it tells of, and there are no others.
-/

namespace LineShell

variable {Dir State : Type}

/-- Whether an event is of bytes that were written. -/
def Event.isBytes : Event Dir → Bool
  | .out _ | .err _ | .childOut _ | .childErr _ => true
  | _ => false

namespace Trace

/-- All events but the bytes. -/
def journal (trace : Trace Dir) : Trace Dir := trace.filter fun event => !event.isBytes

section
variable (s t : Trace Dir) (event : Event Dir) (notes : List Note)

@[simp] theorem journal_nil : journal ([] : Trace Dir) = [] := rfl

@[simp] theorem journal_cons :
    journal (event :: t) = if event.isBytes then journal t else event :: journal t := by
  cases event <;> rfl

@[simp] theorem journal_append : journal (s ++ t) = journal s ++ journal t := List.filter_append ..

@[simp] theorem journal_notes : journal (notes.map .note : Trace Dir) = notes.map .note := by
  simp [journal, Event.isBytes]

end

/-- The journal holds all the notes. -/
theorem notes_journal (t : Trace Dir) : t.journal.notes = t.notes := by
  induction t with
  | nil => rfl
  | cons event t ih => cases event <;> simp_all [Trace.notes, Event.isBytes]

end Trace

/-! ## One command -/

section
variable (host : Host Dir State) (history : History) (dir : Dir) (launcher : State) (unflushed? : Option Fault)

/-- The notes of a builtin: its name, and where a `cd` moves to if it does. -/
def builtinNotes (name : String) (args : List String) : List Note :=
  .runningBuiltin name ::
    match target? args with
    | some target => if (host.changeDir dir target).isOk then [.changedDirectory target] else []
    | none => []

/-- The journal of a flush with this failure, if it failed: only a failure is noted. -/
def flushJournal (note : Fault → Note) : Option Fault → Trace Dir
  | none => [.flush true]
  | some fault => [.flush false, .note (note fault)]

/-- The journal of a command, where `unflushed?` is the failure of the flush that is made to launch. -/
def commandJournal (args : List String) : Trace Dir :=
  .dispatch args history ::
    match args with
    | [] => []
    | name :: _ =>
      if isLaunched args then
        let launch := (host.launch dir args launcher).1
        let ended : Note :=
          match launch.outcome with
          | .exited code => .childExited name code
          | .killed signal => .childKilled name signal
          | .failed fault => .launchFailed name fault
        flushJournal .unflushedBeforeLaunch unflushed?
          ++ .launch args dir :: (launch.notes ++ [ended]).map .note
      else (builtinNotes host dir name args).map .note

end

theorem flushJournal_eq (note : Fault → Note) (fault? : Option Fault) :
    (flushJournal note fault? : Trace Dir) = .flush fault?.isNone :: unflushedNotes note fault? := by
  cases fault? <;> rfl

theorem builtinNotes_of_failureOf {host : Host Dir State} {dir : Dir} {launcher : State} {rest : List String}
    {error : ShellError} (h : failureOf host dir launcher ("cd" :: rest) = some error) :
    builtinNotes host dir "cd" ("cd" :: rest) = [.runningBuiltin "cd"] := by
  cases rest with
  | nil => rfl
  | cons target rest =>
    cases hmoved : host.changeDir dir target with
    | ok there => simp [failureOf, hmoved] at h
    | error fault => simp [builtinNotes, target?, hmoved, Except.isOk, Except.toBool]

/-- However a command goes, its journal is as it should be. -/
theorem Effect.journal_eq {host : Host Dir State} {history : History} {bench : Bench Dir} {launcher : State}
    {args : List String} {done : Dispatched Dir State} (h : Effect host history bench launcher args done) :
    done.trace.journal
      = commandJournal host history bench.dir launcher bench.console.out.flush.1 args := by
  cases h with
  | blank | exit => rfl
  | moved target rest dir hmoved =>
    simp [commandJournal, builtinNotes, isLaunched, target?, hmoved, Event.isBytes, Except.isOk, Except.toBool]
  | notMoved rest error _ hfailure _ hreport =>
    subst hreport
    simp [commandJournal, isLaunched, builtinNotes_of_failureOf hfailure, Event.isBytes, Console.report]
  | printed _ _ _ _ hname _ hprint =>
    subst hprint
    rcases hname with rfl | rfl <;> rfl
  | notPrinted _ _ _ _ _ _ hname _ hprint _ hreport =>
    subst hprint hreport
    rcases hname with rfl | rfl <;> rfl
  | launched name rest _ launch _ hl _ hflush hlaunch =>
    subst hflush
    cases houtcome : launch.outcome <;>
      simp [commandJournal, flushJournal_eq, outcomeNote, hl, hlaunch, houtcome, Event.isBytes, Console.flush]
  | notLaunched name rest _ launch _ fault _ hl houtcome hflush hlaunch hreport =>
    subst hflush hreport
    simp [commandJournal, flushJournal_eq, outcomeNote, hl, hlaunch, houtcome, Event.isBytes, Console.flush,
      Console.report]

/-- The journals of commands that are carried out one after another, each where the ones before it lead. -/
def journalsOf (host : Host Dir State) (history : History) (bench : Bench Dir) (launcher : State) :
    List Order → List (Trace Dir)
  | [] => []
  | order :: orders =>
    let found := order.historyAfter history
    let done := dispatch host found order.args bench launcher
    commandJournal host found bench.dir launcher bench.console.out.flush.1 order.args
      :: journalsOf host found done.bench done.launcher orders

theorem map_journal_dispatchAll (host : Host Dir State) (history : History) (bench : Bench Dir)
    (launcher : State) (orders : List Order) :
    (dispatchAll host history bench launcher orders).map (·.trace.journal)
      = journalsOf host history bench launcher orders := by
  induction orders generalizing history bench launcher with
  | nil => rfl
  | cons order orders ih =>
    have heffect : Effect host (order.historyAfter history) bench launcher order.args _ :=
      effect_dispatch order.args
    simp only [dispatchAll, journalsOf, List.map_cons, heffect.journal_eq, ih]

/-! ## Runs -/

namespace Head

variable (host : Host Dir State) (head : Head Dir State)

/-- Where the shell is behind a line. -/
def next (line : String) : Head Dir State :=
  ⟨head.shell.after host (words line), head.source.readLine.2, (head.done host line).bench.console⟩

/-- The journal of a line: its prompt is flushed, it is read and carried out. -/
def lineJournal (line : String) : Trace Dir :=
  .flush true :: .read (.line line) :: commandJournal host (head.shell.history.record (words line))
    head.shell.dir head.shell.launcher head.shown.console.out.flush.1 (words line)

/-- The journal of lines, each from where the ones before it lead. -/
def linesJournal (head : Head Dir State) : List String → Trace Dir
  | [] => []
  | line :: lines => head.lineJournal host line ++ (head.next host line).linesJournal lines

/-- The journal behind the last line of a run that succeeds. The end of the input is met behind one more
prompt; behind an `exit` there is only the last flush. -/
def endJournal (ended : Bool) : Trace Dir :=
  if ended then
    [.flush true, .read .endOfInput, .note .endOfInput]
      ++ flushJournal .unflushedOnExit head.shown.console.out.flush.1
  else flushJournal .unflushedOnExit head.console.out.flush.1

theorem journal_line {line : String} (h : head.shown.fault? = none) :
    (head.shown.trace ++ .read (.line line) :: (head.done host line).trace).journal
      = head.lineJournal host line := by
  rw [shown_of_none h, lineJournal, ← (head.effect host line).journal_eq]
  simp [Event.isBytes]

end Head

theorem Shell.journal_finish (shell : Shell Dir State) (trace : Trace Dir) (console : Console) :
    (shell.finish trace console).trace.journal
      = trace.journal ++ flushJournal .unflushedOnExit console.out.flush.1 := by
  simp [trace_finish_eq, flushJournal_eq, Event.isBytes]

/-- The journal of a run is that of its lines, and behind it an end: one without notes if the run fails. -/
structure Run.Journaled (host : Host Dir State) (head : Head Dir State) (run : Run Dir State) : Prop where
  failed : ∀ error, run.result = .error error → ∃ closing,
    run.trace.journal = head.linesJournal host run.trace.lines ++ closing ∧ closing.notes = []
  finished : run.result = .ok () → run.trace.journal = head.linesJournal host run.trace.lines
    ++ (run.trace.lines.foldl (Head.next host) head).endJournal (decide (.endOfInput ∈ run.trace.readings))

/-- The ways to end: the two failures are met before anything is logged, and the two ends in success log the
flush, one of them behind the end of the input. -/
theorem Last.journaled {host : Host Dir State} {head : Head Dir State} {run : Run Dir State}
    (h : Last host head run) : run.Journaled host head := by
  cases h with
  | unshown fault hfault =>
    constructor
    · intro _ _
      refine ⟨head.shown.trace.journal, ?_, ?_⟩
      · rw [← Trace.lines_steps, Head.shown, Console.steps_prompt]
        rfl
      · obtain ⟨bytes, h | ⟨worked, h⟩⟩ := @Console.prompt_trace Dir head.console head.shell.prompt <;>
        · rw [Trace.notes_journal, Head.shown, h]
          rfl
    · intro hok
      cases hok
  | unread fault rest hshown hread =>
    constructor
    · intro _ _
      refine ⟨[.flush true, .read (.failed fault)], ?_, rfl⟩
      simp [Head.shown_of_none hshown, Head.linesJournal, Event.isBytes]
    · intro hok
      cases hok
  | ended rest hshown hread =>
    constructor
    · intro _ herror
      cases herror
    · intro _
      have hsteps : (head.shell.finish (head.shown.trace ++ [.read .endOfInput, .note .endOfInput])
          head.shown.console).trace.steps = [.read .endOfInput] := by
        rw [Shell.steps_finish]
        simp [Head.shown, Event.isStep]
      rw [← Trace.lines_steps, ← Trace.readings_steps, hsteps, Shell.journal_finish,
        Head.shown_of_none hshown]
      simp [Head.linesJournal, Head.endJournal, Event.isBytes]
  | exited line rest hshown hread hends =>
    constructor
    · intro _ herror
      cases herror
    · intro _
      rw [← Trace.lines_steps, ← Trace.readings_steps, Shell.steps_finish, Trace.lines_steps,
        Trace.readings_steps, head.lines_line, head.readings_line, Shell.journal_finish,
        head.journal_line host hshown]
      simp [Head.linesJournal, Head.endJournal, Head.next]

theorem Turn.journaled {host : Host Dir State} {head next : Head Dir State} {trace : Trace Dir}
    {run : Run Dir State} (hturn : Turn host head trace next) (h : run.Journaled host next) :
    (run.following trace).Journaled host head := by
  cases hturn with
  | mk line rest hshown hread hends =>
    -- `Head.next` asks the source again, and gets the line of this turn.
    have hnext : head.next host line
        = ⟨head.shell.after host (words line), rest, (head.done host line).bench.console⟩ := by
      rw [Head.next, hread]
    rw [← hnext] at h
    unfold Run.following
    constructor
    · intro error herror
      obtain ⟨closing, hjournal, hnotes⟩ := h.failed error herror
      refine ⟨closing, ?_, hnotes⟩
      rw [Trace.journal_append, head.journal_line host hshown, hjournal, Trace.lines_append,
        head.lines_line, List.singleton_append, Head.linesJournal, List.append_assoc]
    · intro hok
      rw [Trace.journal_append, head.journal_line host hshown, h.finished hok, Trace.lines_append,
        Trace.readings_append, head.lines_line, head.readings_line, List.singleton_append,
        Head.linesJournal, List.append_assoc]
      simp

theorem journaled_run (host : Host Dir State) (head : Head Dir State) :
    (head.run host).Journaled host head :=
  run_induction host (fun head run => run.Journaled host head) (fun _ _ hlast => hlast.journaled)
    (fun _ _ _ _ hturn h => hturn.journaled h) head

/-- A script logs nothing of its own. -/
theorem Host.notes_scripted (changeDir : ChangeDir Dir) (dir : Dir) (args : List String)
    (outcomes : List Outcome) : ((scripted changeDir).launch dir args outcomes).1.notes = [] := by
  cases outcomes <;> rfl

/-- What is logged, and when. Of a blank line nothing is; of a builtin its name, and behind it where a `cd`
has moved to; of a launch the failure of the flush before it, if that failed, what the launcher has to say,
which is nothing for a script, and how the program ended. This is so of commands one after another, and of
the lines of a run. Behind its last line a run logs the end of its input, if it has come to that, and the
failure of its last flush, if that failed; a run that fails logs nothing more. -/
theorem run_journal (host : Host Dir State) :
    (∀ (history : History) (bench : Bench Dir) (launcher : State) (orders : List Order),
      (dispatchAll host history bench launcher orders).map (·.trace.journal)
        = journalsOf host history bench launcher orders) ∧
    (∀ (shell : Shell Dir State) (source : Source) (console : Console),
      let head : Head Dir State := ⟨shell, source, console⟩
      let run := shell.run host source console
      let lines := run.trace.lines
      let last := lines.foldl (Head.next host) head
      (∀ error, run.result = .error error → ∃ closing,
        run.trace.journal = head.linesJournal host lines ++ closing ∧ closing.notes = []) ∧
      (run.result = .ok () → run.trace.journal
        = head.linesJournal host lines ++ last.endJournal (decide (.endOfInput ∈ run.trace.readings)))) ∧
    ∀ (changeDir : ChangeDir Dir) (dir : Dir) (args : List String) (outcomes : List Outcome),
      ((Host.scripted changeDir).launch dir args outcomes).1.notes = [] := by
  refine ⟨map_journal_dispatchAll host, ?_, Host.notes_scripted⟩
  intro shell source console head run lines last
  have hrun := journaled_run host head
  exact ⟨hrun.failed, hrun.finished⟩

/-- A run with every outcome of a launch up to the end of its input, and one that cannot read; launches of
which only the first finds a flush that works; and two runs whose last flush fails, at the end of the input
and behind an `exit`. -/
theorem run_journal_outcomes_and_flushes :
    let missing : Fault := .plain .notFound
    let full : Fault := .system .noSpace
    let host : Host (List String) (List Outcome) :=
      Host.scripted fun dir target => if target = "a" then .ok (dir ++ [target]) else .error missing
    let outcomes : List Outcome := [.killed 9, .exited 3, .failed missing]
    let shell : Shell (List String) (List Outcome) := { prompt := "> ", dir := [], launcher := outcomes }
    let source : Source := [.piece (Utf8.encode "cd a\n\ncd b\nls\ncc -c\nrm\n")]
    let run := shell.run host source {}
    let dead := shell.run host [.fault (.plain .other)] {}
    let head : Head (List String) (List Outcome) := ⟨shell, source, {}⟩
    let lines := ["cd a\n", "\n", "cd b\n", "ls\n", "cc -c\n", "rm\n"]
    let stalling : Console := { out := { device := Device.reliable.flushing 1 full } }
    let orders : List Order := [⟨["ls"], false⟩, ⟨["cc"], false⟩, ⟨["rm"], false⟩]
    let bare : Shell (List String) (List Outcome) := { prompt := "", dir := [], launcher := [] }
    let closed := bare.run host [] stalling
    let left := bare.run host [.piece (Utf8.encode "exit\n")] stalling
    run.trace.journal = head.linesJournal host lines ++ (lines.foldl (Head.next host) head).endJournal true ∧
      run.trace.notes.map Note.text =
        ["DEBUG running builtin builtin=cd", "DEBUG changed directory target=a",
          "DEBUG running builtin builtin=cd", "DEBUG child killed by signal program=ls signal=9",
          "DEBUG child exited program=cc code=3", "DEBUG launch failed program=rm error=entity not found",
          "DEBUG end of input"] ∧
      dead.trace.notes = [] ∧
      (dispatchAll host {} ⟨stalling, []⟩ outcomes orders).map (·.trace.journal) =
        [[.dispatch ["ls"] {}, .flush true, .launch ["ls"] [], .note (.childKilled "ls" 9)],
          [.dispatch ["cc"] {}, .flush false, .note (.unflushedBeforeLaunch full), .launch ["cc"] [],
            .note (.childExited "cc" 3)],
          [.dispatch ["rm"] {}, .flush false, .note (.unflushedBeforeLaunch full), .launch ["rm"] [],
            .note (.launchFailed "rm" missing)]] ∧
      closed.trace.journal =
        [.flush true, .read .endOfInput, .note .endOfInput, .flush false, .note (.unflushedOnExit full)] ∧
      left.trace.journal =
        [.flush true, .read (.line "exit\n"), .dispatch ["exit"] ⟨["exit"]⟩, .note (.runningBuiltin "exit"),
          .flush false, .note (.unflushedOnExit full)] ∧
      [Note.unflushedBeforeLaunch full, .unflushedOnExit full].map Note.text =
        ["DEBUG failed to flush output before launch error=No space left on device (os error 28)",
          "DEBUG failed to flush output on exit error=No space left on device (os error 28)"] := by
  intro missing full host outcomes shell source run dead head lines stalling orders bare closed left
  obtain ⟨hdispatches, hrun, -⟩ := run_journal host
  have hfinished (head : Head (List String) (List Outcome)) (lines : List String) (ended : Bool)
      (hok : (head.run host).result = .ok ()) (hlines : (head.run host).trace.lines = lines)
      (hended : decide (.endOfInput ∈ (head.run host).trace.readings) = ended) :
      (head.run host).trace.journal
        = head.linesJournal host lines ++ (lines.foldl (Head.next host) head).endJournal ended := by
    subst hlines hended
    exact (hrun head.shell head.source head.console).2 hok
  have hreliable : ({} : Console).NeverFails := ⟨Device.neverFails_reliable, Device.neverFails_reliable⟩
  have hwhole : head.run host = _ := run_eq_of_delivers host shell (Source.delivers_piece _)
    (.inr (by decide)) hreliable (by decide)
  have hfault : dead = _ := run_of_fault host ⟨shell, [.fault (.plain .other)], {}⟩ hreliable rfl
  obtain ⟨closing, hdead, hnotes⟩ :=
    (hrun shell [.fault (.plain .other)] {}).1 (.read (.plain .other)) (congrArg Run.result hfault)
  have hnone : dead.trace.lines = [] := by rw [hfault]; rfl
  have hend : dead.trace.journal = closing := hdead.trans (by rw [show Trace.lines _ = _ from hnone]; rfl)
  -- An empty prompt asks for nothing to be written, and its flush is the one that works.
  let stalled : Console := { out := { device := stalling.out.device, past := Past.flushed {} } }
  have hprompt : (stalling.prompt "" : Shown (List String)) = ⟨[.out [], .flush true], none, stalled⟩ := by
    simp [Console.prompt, Console.print, Console.flush, Sink.flush, Sink.putAll, stalling, stalled,
      Device.flushing]
  let one : Head (List String) (List Outcome) := ⟨bare, [], stalling⟩
  let other : Head (List String) (List Outcome) := ⟨bare, [.piece (Utf8.encode "exit\n")], stalling⟩
  have hone : one.shown = _ := hprompt
  have hother : other.shown = _ := hprompt
  have hended : Last host one _ := .ended [] (congrArg Shown.fault? hone) rfl
  have hexited : Last host other _ :=
    .exited "exit\n" [.piece []] (congrArg Shown.fault? hother) (by decide) (by decide)
  have hclosed := run_of_last hended
  have hleft := run_of_last hexited
  rw [hone] at hclosed
  rw [Head.done, hother] at hleft
  refine ⟨?_, by rw [show run = _ from hwhole]; decide, ?_, ?_, ?_, ?_, by decide⟩
  · exact hfinished head lines true (by rw [hwhole]) (by rw [hwhole]; decide) (by rw [hwhole]; decide)
  · rw [← Trace.notes_journal, hend, hnotes]
  · exact (hdispatches {} ⟨stalling, []⟩ outcomes orders).trans (by decide)
  · have hjournal := hfinished one [] true (by rw [hclosed]; rfl) (by rw [hclosed]; decide)
      (by rw [hclosed]; decide)
    rw [List.foldl_nil, Head.endJournal, hone] at hjournal
    exact hjournal
  · have hjournal := hfinished other ["exit\n"] false (by rw [hleft]; rfl) (by rw [hleft]; decide)
      (by rw [hleft]; decide)
    have hnext : (other.next host "exit\n").console = stalled := by
      rw [Head.next, Head.done, hother]
      rfl
    rw [List.foldl_cons, List.foldl_nil, Head.endJournal, hnext] at hjournal
    exact hjournal.trans (by decide)

end LineShell
