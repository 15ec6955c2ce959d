import LineShell.Proofs.Transcript
/-!
# What is recorded

Every line that is read is recorded once, before it is carried out, and nothing else is. A run only
adds to the history, and so do several runs of one shell, however each of them ends.
-/

namespace LineShell

variable {Dir State : Type} {host : Host Dir State}

/-! ## The reads of a run -/

/-- What asking for a line over and over gives, up to the first time that it gives none. -/
def Source.readings (source : Source) : List (Reading String) :=
  match _h : source.readLine with
  | (.line line, rest) => .line line :: rest.readings
  | (.endOfInput, _) => [.endOfInput]
  | (.failed fault, _) => [.failed fault]
termination_by source.weight
decreasing_by exact Source.readLine_weight _h

theorem Source.readings_eq (source : Source) :
    source.readings = match source.readLine with
      | (.line line, rest) => .line line :: rest.readings
      | (reading, _) => [reading] := by
  rw [readings]
  split <;> rename_i h <;> rw [h]

theorem Head.readings_line (host : Host Dir State) (head : Head Dir State) (line : String) :
    (head.shown.trace ++ .read (.line line) :: (head.done host line).trace).readings
      = [.line line] := by
  rw [← Trace.readings_steps, head.steps_line]
  cases h : isLaunched (words line) <;> simp [Shell.stepsOf, h]

/-- A run asks its source for lines one after another, and for nothing else. -/
theorem readings_run_prefix (host : Host Dir State) (head : Head Dir State) :
    (head.run host).trace.readings <+: head.source.readings := by
  refine run_induction host (fun head run => run.trace.readings <+: head.source.readings)
    ?_ ?_ head
  · intro head run hlast
    cases hlast with
    | unshown =>
      rw [← Trace.readings_steps, Head.shown, Console.steps_prompt]
      exact List.nil_prefix
    | unread fault rest _ hread =>
      rw [← Trace.readings_steps, head.source.readings_eq, hread]
      simp [Head.shown, Event.isStep]
    | ended rest _ hread =>
      rw [← Trace.readings_steps, head.source.readings_eq, hread]
      simp [Head.shown, Event.isStep]
    | exited line rest _ hread =>
      rw [← Trace.readings_steps, Shell.steps_finish, Trace.readings_steps, head.readings_line,
        head.source.readings_eq, hread]
      exact List.prefix_append [_] _
  · intro head trace next run hturn ih
    cases hturn with
    | mk line rest _ hread =>
      unfold Run.following
      rw [Trace.readings_append, head.readings_line, head.source.readings_eq, hread]
      exact (List.prefix_cons_inj _).2 ih

/-! ## The moment of a dispatch -/

/-- Among the steps of lines, a dispatch sees a history that holds just the lines read before it, and
is of the last of these. -/
theorem dispatch_stepsOf {lines : List String} {closing t : Trace Dir} {args : List String}
    {history : History} (hclosing : Closing closing) (shell : Shell Dir State) (s : Trace Dir)
    (h : shell.stepsOf host lines ++ closing = s ++ .dispatch args history :: t) :
    history.entries = shell.history.entries ++ s.lines.map (History.summary ∘ words) ∧
      s.lines.getLast?.map words = some args := by
  induction lines generalizing shell s with
  | nil =>
    have hnone := hclosing.dispatches_eq
    rw [show closing = _ from h, Trace.dispatches_append] at hnone
    simp at hnone
  | cons line lines ih =>
    -- Nothing, the read, or the read and the dispatch of the first line stand before the dispatch.
    rcases s with _ | ⟨first, _ | ⟨second, s⟩⟩
    · simp [Shell.stepsOf] at h
    · simp only [Shell.stepsOf, List.cons_append, List.nil_append, List.cons.injEq,
        Event.dispatch.injEq] at h
      obtain ⟨rfl, ⟨rfl, rfl⟩, -⟩ := h
      exact ⟨by simp, by simp⟩
    · simp only [Shell.stepsOf, List.cons_append, List.append_assoc, List.cons.injEq] at h
      obtain ⟨rfl, rfl, h⟩ := h
      -- The launch of the line, if there is one, stands between its dispatch and the later lines.
      have hlater : ∃ launch later : Trace Dir, launch.lines = [] ∧ s = launch ++ later ∧
          (shell.after host (words line)).stepsOf host lines ++ closing
            = later ++ .dispatch args history :: t := by
        cases hl : isLaunched (words line) with
        | false => exact ⟨[], s, rfl, rfl, by simpa [hl] using h⟩
        | true =>
          rcases s with _ | ⟨launch, s⟩
          · simp [hl] at h
          · simp only [hl, if_true, List.cons_append, List.nil_append, List.cons.injEq] at h
            obtain ⟨rfl, h⟩ := h
            exact ⟨[_], s, rfl, rfl, h⟩
      obtain ⟨launch, later, hlines, rfl, hlater⟩ := hlater
      obtain ⟨hentries, hlast⟩ := ih _ later hlater
      obtain ⟨last, hgets, rfl⟩ := Option.map_eq_some_iff.1 hlast
      refine ⟨?_, ?_⟩
      · simp [hentries, hlines, Shell.after]
      · simp [hlines, List.getLast?_cons, hgets]

/-- Wherever a run dispatches a command, the history that it sees is the one before the run with the
lines read so far, and the last of these is the command's own. -/
theorem dispatch_run (host : Host Dir State) (head : Head Dir State) {s t : Trace Dir}
    {args : List String} {history : History}
    (h : (head.run host).trace = s ++ .dispatch args history :: t) :
    history.entries = head.shell.history.entries ++ s.lines.map (History.summary ∘ words) ∧
      s.lines.getLast?.map words = some args := by
  obtain ⟨lines, closing, hclosing, hsteps, -⟩ := steps_run host head
  have hsplit : s.steps ++ .dispatch args history :: t.steps
      = head.shell.stepsOf host lines ++ closing := by
    rw [← hsteps, h, Trace.steps_append, Trace.steps_cons]
    rfl
  rw [← Trace.lines_steps s]
  exact dispatch_stepsOf hclosing head.shell s.steps hsplit.symm

/-! ## Several runs -/

/-- The shell after runs on these inputs. -/
def Shell.afterRuns (host : Host Dir State) (shell : Shell Dir State)
    (inputs : List (Source × Console)) : Shell Dir State :=
  inputs.foldl (fun shell input => (shell.run host input.1 input.2).shell) shell

/-- The entries that runs add: one for each line read. -/
def entriesOf (runs : List (Run Dir State)) : List String :=
  runs.flatMap fun run => run.trace.lines.map (History.summary ∘ words)

theorem Shell.runAll_append (host : Host Dir State) (shell : Shell Dir State)
    (inputs inputs' : List (Source × Console)) :
    shell.runAll host (inputs ++ inputs')
      = shell.runAll host inputs ++ (shell.afterRuns host inputs).runAll host inputs' := by
  induction inputs generalizing shell with
  | nil => rfl
  | cons input inputs ih => simp only [List.cons_append, runAll, ih, afterRuns, List.foldl_cons]

theorem entries_run (host : Host Dir State) (head : Head Dir State) :
    (head.run host).shell.history.entries
      = head.shell.history.entries
        ++ (head.run host).trace.lines.map (History.summary ∘ words) := by
  rw [shell_run, Shell.entries_foldl_after, List.map_map]

theorem entries_afterRuns (host : Host Dir State) (shell : Shell Dir State)
    (inputs : List (Source × Console)) :
    (shell.afterRuns host inputs).history.entries
      = shell.history.entries ++ entriesOf (shell.runAll host inputs) := by
  induction inputs generalizing shell with
  | nil => simp [Shell.afterRuns, Shell.runAll, entriesOf]
  | cons input inputs ih =>
    have hrun := entries_run host ⟨shell, input.1, input.2⟩
    have hlater := ih (shell.run host input.1 input.2).shell
    unfold Head.run at hrun
    rw [hrun, List.append_assoc] at hlater
    exact hlater

/-- The history over a whole session, wherever one looks into it. What runs leave behind is what
they found and one entry for each line that they got from their sources, in order; and a command is
carried out when its own entry is the last one there is. -/
theorem history_runAll (host : Host Dir State) (shell : Shell Dir State)
    (before after : List (Source × Console)) (source : Source) (console : Console) :
    let found := shell.afterRuns host before
    let run := found.run host source console
    shell.runAll host (before ++ (source, console) :: after)
        = shell.runAll host before ++ run :: run.shell.runAll host after ∧
      found.history.entries = shell.history.entries ++ entriesOf (shell.runAll host before) ∧
      run.shell.history.entries
        = found.history.entries ++ run.trace.lines.map (History.summary ∘ words) ∧
      run.trace.readings <+: source.readings ∧
      run.trace.dispatches.map Prod.fst = run.trace.lines.map words ∧
      ∀ (s t : Trace Dir) args history, run.trace = s ++ .dispatch args history :: t →
        history.entries = found.history.entries ++ s.lines.map (History.summary ∘ words) ∧
          s.lines.getLast?.map words = some args := by
  intro found run
  let head : Head Dir State := ⟨found, source, console⟩
  exact ⟨shell.runAll_append host before _, entries_afterRuns host shell before,
    entries_run host head, readings_run_prefix host head, dispatches_run host head,
    fun _ _ _ _ h => dispatch_run host head h⟩

/-- A run with a bare `cd`, and one with a launch that fails, a blank line, and an unfinished last
line. -/
theorem history_runAll_twice :
    let shell : Shell Unit (List Outcome) :=
      { dir := (), launcher := [.failed (.plain .notFound)] }
    let host := Host.scripted fun _ _ => .error (.plain .notFound)
    let first : Source × Console := ([.piece (Utf8.encode "cd\n")], {})
    let second : Source := [.piece (Utf8.encode "ls -l src\n\nhistory")]
    let run := (shell.afterRuns host [first]).run host second {}
    shell.runAll host [first, (second, {})]
        = shell.runAll host [first] ++ [run] ∧
      run.shell.history.entries = ["cd", "ls -l", "", "history"] := by
  intro shell host first second run
  obtain ⟨hruns, hfound, hentries, -⟩ := history_runAll host shell [first] [] second {}
  obtain ⟨-, hfirst, -⟩ := run_of_lines host _ ⟨shell, first.1, {}⟩ _ rfl
    (Source.delivers_piece _) Device.neverFails_reliable Device.neverFails_reliable
  obtain ⟨-, hsecond, -⟩ := run_of_lines host _ ⟨shell.afterRuns host [first], second, {}⟩ _ rfl
    (Source.delivers_piece _) Device.neverFails_reliable Device.neverFails_reliable
  refine ⟨hruns, ?_⟩
  have hread : run.trace.lines = _ := hsecond
  have hread' : (shell.run host first.1 {}).trace.lines = _ := hfirst
  rw [show run.shell.history.entries = _ from hentries, hfound, hread]
  simp only [Shell.runAll, entriesOf, List.flatMap_cons, List.flatMap_nil]
  rw [hread']
  decide

end LineShell
