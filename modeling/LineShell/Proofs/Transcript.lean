import LineShell.Proofs.Lines
import LineShell.Proofs.Turns
/-!
# What a run prints

On a source without read failures and on outputs that never fail, the bytes of the input alone say
what a run does: which lines are carried out, what is launched where, and every byte on both
outputs. The definitions say it by the position of a line, counted among all the lines; their lemmas
say the same line by line, which is how a run goes.
-/

namespace LineShell

variable {Dir State : Type}

/-- The lines up to the first that ends the shell, itself included. -/
def upToExit (lines : List String) : List String :=
  lines.take (lines.findIdx (fun line => endsShell (words line)) + 1)

@[simp] theorem upToExit_nil : upToExit [] = [] := rfl

theorem upToExit_cons (line : String) (lines : List String) :
    upToExit (line :: lines)
      = line :: if endsShell (words line) then [] else upToExit lines := by
  cases h : endsShell (words line) <;> simp [upToExit, List.findIdx_cons, h]

namespace Shell

/-- What is printed for these commands: the prompt and what the command prints, for each of them,
and one more prompt if none of them ends the shell. -/
def transcript (shell : Shell Dir State) (commands : List (List String)) : String :=
  String.join (commands.mapIdx fun i args =>
      shell.prompt ++
        printed (shell.history.entries ++ (commands.take (i + 1)).map History.summary) args)
    ++ if commands.any endsShell then "" else shell.prompt

/-- What is reported for these commands: a diagnostic for each that fails where the commands before
it lead. -/
def complaints (host : Host Dir State) (shell : Shell Dir State) (commands : List (List String)) :
    String :=
  String.join (commands.mapIdx fun i args =>
    let found := (commands.take i).foldl (Shell.after host) shell
    (failureOf host found.dir found.launcher args).elim "" Console.diagnostic)

/-- The launches among these commands, each where the commands before it lead. -/
def launchesOf (host : Host Dir State) (shell : Shell Dir State) (commands : List (List String)) :
    List (List String × Dir) :=
  (commands.mapIdx fun i args =>
    (args, ((commands.take i).foldl (Shell.after host) shell).dir)).filter fun launch =>
      isLaunched launch.1

variable (host : Host Dir State) (shell : Shell Dir State)

@[simp] theorem transcript_nil : shell.transcript [] = shell.prompt := by simp [transcript]
@[simp] theorem complaints_nil : shell.complaints host [] = "" := rfl
@[simp] theorem launchesOf_nil : shell.launchesOf host [] = [] := rfl

theorem transcript_cons (args : List String) (commands : List (List String))
    (hends : endsShell args = false) :
    shell.transcript (args :: commands)
      = shell.prompt ++ printed (shell.after host args).history.entries args
        ++ (shell.after host args).transcript commands := by
  simp [transcript, Shell.after, List.mapIdx_cons, String.append_assoc, hends]

theorem transcript_exit (args : List String) (hends : endsShell args = true) :
    shell.transcript [args] = shell.prompt ++ printed (shell.after host args).history.entries args := by
  simp [transcript, Shell.after, hends]

theorem complaints_cons (args : List String) (commands : List (List String)) :
    shell.complaints host (args :: commands)
      = (failureOf host shell.dir shell.launcher args).elim "" Console.diagnostic
        ++ (shell.after host args).complaints host commands := by
  simp [complaints, List.mapIdx_cons]

theorem launchesOf_cons (args : List String) (commands : List (List String)) :
    shell.launchesOf host (args :: commands)
      = (if isLaunched args then [(args, shell.dir)] else [])
        ++ (shell.after host args).launchesOf host commands := by
  cases h : isLaunched args <;> simp [launchesOf, List.mapIdx_cons, h]

theorem map_fst_launchesOf (commands : List (List String)) :
    (shell.launchesOf host commands).map Prod.fst = commands.filter isLaunched := by
  induction commands generalizing shell with
  | nil => rfl
  | cons args commands ih =>
    rw [launchesOf_cons, List.map_append, ih, List.filter_cons]
    cases isLaunched args <;> rfl

theorem launches_stepsOf (lines : List String) :
    (shell.stepsOf host lines).launches = shell.launchesOf host (lines.map words) := by
  induction lines generalizing shell with
  | nil => rfl
  | cons line lines ih =>
    rw [List.map_cons, launchesOf_cons, ← ih]
    cases h : isLaunched (words line) <;> simp [stepsOf, h]

end Shell

variable {host : Host Dir State}

/-- The launches of a run are those of its lines. -/
theorem launches_run (host : Host Dir State) (head : Head Dir State) :
    (head.run host).trace.launches
      = head.shell.launchesOf host ((head.run host).trace.lines.map words) := by
  obtain ⟨lines, closing, hclosing, hsteps, -⟩ := steps_run host head
  rw [← Trace.launches_steps, ← Trace.lines_steps, hsteps, Trace.launches_append,
    Trace.lines_append, hclosing.launches_eq, hclosing.lines_eq, List.append_nil, List.append_nil,
    Shell.lines_stepsOf, Shell.launches_stepsOf]

/-- What a line shows, from the prompt before it to the end of its command. -/
theorem Head.line_of_neverFails (host : Host Dir State) (head : Head Dir State) (line : String)
    (hout : head.console.out.device.NeverFails) (herr : head.console.err.device.NeverFails) :
    head.shown.fault? = none ∧
      (head.shown.trace ++ .read (.line line) :: (head.done host line).trace).out
        = Utf8.encode (head.shell.prompt ++
            printed (head.shell.after host (words line)).history.entries (words line)) ∧
      (head.shown.trace ++ .read (.line line) :: (head.done host line).trace).err
        = Utf8.encode ((failureOf host head.shell.dir head.shell.launcher (words line)).elim ""
            Console.diagnostic) ∧
      (head.done host line).bench.console.out.device.NeverFails ∧
      (head.done host line).bench.console.err.device.NeverFails := by
  obtain ⟨out, hshownOut, hshown⟩ :=
    @Console.prompt_of_neverFails Dir head.console hout head.shell.prompt
  have heffect := head.effect host line
  unfold Head.shown at *
  rw [hshown] at heffect ⊢
  obtain ⟨hprinted, hafterOut⟩ := heffect.out_of_neverFails hshownOut
  obtain ⟨hreported, hafterErr⟩ := heffect.err_of_neverFails hshownOut herr
  refine ⟨rfl, ?_, ?_, hafterOut, hafterErr⟩
  · simp only [Trace.out_append, Trace.out_cons, Trace.out_nil, hprinted, Utf8.encode_append,
      Shell.after, List.append_nil, List.nil_append]
  · simp only [Trace.err_append, Trace.err_cons, Trace.err_nil, hreported, List.nil_append]
    cases failureOf host head.shell.dir head.shell.launcher (words line) <;> rfl

/-- The run from any head, by induction on the lines that its source still holds. -/
theorem run_of_lines (host : Host Dir State) (lines : List Bytes) (head : Head Dir State)
    (bytes : Bytes) (hlines : linesOf bytes = lines) (hsource : head.source.Delivers bytes)
    (hout : head.console.out.device.NeverFails) (herr : head.console.err.device.NeverFails) :
    (head.run host).result = .ok () ∧
      (head.run host).trace.lines = upToExit (lines.map Utf8.decode) ∧
      (head.run host).trace.out
        = Utf8.encode (head.shell.transcript ((upToExit (lines.map Utf8.decode)).map words)) ∧
      (head.run host).trace.err
        = Utf8.encode (head.shell.complaints host ((upToExit (lines.map Utf8.decode)).map words)) := by
  induction lines generalizing head bytes with
  | nil =>
    obtain ⟨-, hread⟩ | ⟨line, rest, bytes', hcut, -⟩ := Source.readLine_of_delivers hsource
    · obtain ⟨out, -, hshown⟩ :=
        @Console.prompt_of_neverFails Dir head.console hout head.shell.prompt
      have hfault : head.shown.fault? = none := by rw [Head.shown, hshown]
      rw [run_of_last (.ended _ hfault hread)]
      refine ⟨rfl, ?_, ?_, ?_⟩
      · rw [← Trace.lines_steps, Shell.steps_finish]
        simp [Head.shown, Event.isStep]
      · simp [Head.shown, hshown]
      · simp [Head.shown, hshown, Utf8.encode]
    · rw [hlines] at hcut
      cases hcut
  | cons first lines ih =>
    obtain ⟨hcut, -⟩ | ⟨line, rest, bytes', hcut, hread, hrest⟩ := Source.readLine_of_delivers hsource
    · rw [hlines] at hcut
      cases hcut
    · obtain ⟨rfl, hlines'⟩ := List.cons.inj (hlines.symm.trans hcut)
      -- This line is one turn, or the end; what it shows is the first part of the transcript.
      obtain ⟨hfault, hprinted, hreported, hafterOut, hafterErr⟩ :=
        head.line_of_neverFails host (Utf8.decode first) hout herr
      rw [List.map_cons, upToExit_cons]
      cases hends : endsShell (words (Utf8.decode first)) with
      | true =>
        rw [run_of_last (.exited _ rest hfault hread hends)]
        refine ⟨rfl, ?_, ?_, ?_⟩
        · rw [← Trace.lines_steps, Shell.steps_finish, Trace.lines_steps, head.lines_line]
          rfl
        · rw [Shell.out_finish, hprinted]
          simp [Shell.transcript_exit host head.shell _ hends]
        · rw [Shell.err_finish, hreported]
          simp [Shell.complaints_cons]
      | false =>
        rw [run_of_turn (.mk _ rest hfault hread hends)]
        obtain ⟨hresult, hread', hout', herr'⟩ :=
          ih ⟨_, rest, (head.done host (Utf8.decode first)).bench.console⟩ bytes' hlines'.symm hrest
            hafterOut hafterErr
        refine ⟨hresult, ?_, ?_, ?_⟩
        · unfold Run.following
          rw [Trace.lines_append, head.lines_line, hread']
          rfl
        · unfold Run.following
          rw [Trace.out_append, hprinted, hout', ← Utf8.encode_append]
          simp [Shell.transcript_cons host head.shell _ _ hends]
        · unfold Run.following
          rw [Trace.err_append, hreported, herr', ← Utf8.encode_append]
          simp [Shell.complaints_cons]

/-- A whole run, told from the bytes of its input: it succeeds, carries out exactly the lines up to
the first `exit`, launches what is no builtin, records every line, and prints and reports just what
these lines should. -/
theorem run_of_delivers (host : Host Dir State) (shell : Shell Dir State) (source : Source)
    (bytes : Bytes) (console : Console) (hsource : source.Delivers bytes)
    (hout : console.out.device.NeverFails) (herr : console.err.device.NeverFails) :
    let lines := upToExit ((linesOf bytes).map Utf8.decode)
    let commands := lines.map words
    let run := shell.run host source console
    run.result = .ok () ∧
      run.trace.lines = lines ∧
      run.trace.dispatches.map Prod.fst = commands ∧
      run.trace.launches.map Prod.fst = commands.filter isLaunched ∧
      run.trace.launches = shell.launchesOf host commands ∧
      run.shell = commands.foldl (Shell.after host) shell ∧
      run.shell.history.entries = shell.history.entries ++ commands.map History.summary ∧
      run.trace.out = Utf8.encode (shell.transcript commands) ∧
      run.trace.err = Utf8.encode (shell.complaints host commands) := by
  intro lines commands run
  let head : Head Dir State := ⟨shell, source, console⟩
  obtain ⟨hresult, hlines, hprinted, hreported⟩ :=
    run_of_lines host _ head bytes rfl hsource hout herr
  have hlaunches : run.trace.launches = shell.launchesOf host commands := by
    have h := launches_run host head
    rwa [hlines] at h
  have hshell : run.shell = commands.foldl (Shell.after host) shell := by
    have h := shell_run host head
    rwa [hlines] at h
  refine ⟨hresult, hlines, ?_, ?_, hlaunches, hshell, ?_, hprinted, hreported⟩
  · have h := dispatches_run host head
    rwa [hlines] at h
  · rw [hlaunches, Shell.map_fst_launchesOf]
  · rw [hshell, Shell.entries_foldl_after]

/-- A session with a failed launch, a blank line, a listing and an `exit` before the last line. -/
theorem run_of_delivers_session :
    let bytes := Utf8.encode "ls -l\n\nhistory\nexit now\nhelp\n"
    let shell : Shell Unit (List Outcome) :=
      { prompt := "> ", dir := (), launcher := [.failed (.plain .notFound)] }
    let host := Host.scripted fun _ _ => .error (.plain .notFound)
    let run := shell.run host [.piece bytes] {}
    Source.Delivers [.piece bytes] bytes ∧ Device.NeverFails {} ∧
      run.result = .ok () ∧ run.trace.launches = [(["ls", "-l"], ())] ∧
      run.shell.history.entries = ["ls -l", "", "history", "exit now"] ∧
      run.trace.out = Utf8.encode "> > >  1 ls -l\n 2 \n 3 history\n> " ∧
      run.trace.err = Utf8.encode "shell: entity not found\n" := by
  intro bytes shell host run
  obtain ⟨hresult, hlines, -, -, hlaunches, -, hentries, hout, herr⟩ :=
    run_of_delivers host shell [.piece bytes] bytes {} (Source.delivers_piece bytes)
      Device.neverFails_reliable Device.neverFails_reliable
  have hread : (upToExit ((linesOf bytes).map Utf8.decode)).map words
      = [["ls", "-l"], [], ["history"], ["exit", "now"]] := by decide
  rw [hread] at hlaunches hentries hout herr
  refine ⟨Source.delivers_piece bytes, Device.neverFails_reliable, hresult, hlaunches, hentries, ?_, ?_⟩
  · exact hout.trans (congrArg Utf8.encode (by decide))
  · exact herr.trans (congrArg Utf8.encode (by decide))

end LineShell
