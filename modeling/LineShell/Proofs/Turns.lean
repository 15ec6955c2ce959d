import LineShell.Proofs.Effects
/-!
# Runs by turns

A run is a number of turns and an end. In a `Turn` the prompt is shown, a line is read, and the line
is carried out without ending the shell; `Last` lists the four ways to end. `run_of_turn` and
`run_of_last` say what a run is in these terms, `run_induction` that there is nothing else to it, and
`Reaches` is some turns after one another.
-/

namespace LineShell

variable {Dir State : Type}

/-- A shell about to show its prompt, with what is left of its source, and its console. -/
structure Head (Dir State : Type) where
  shell : Shell Dir State
  source : Source
  console : Console

namespace Head

/-- The run from here. -/
def run (host : Host Dir State) (head : Head Dir State) : Run Dir State :=
  head.shell.run host head.source head.console

/-- What comes of showing the prompt. -/
def shown (head : Head Dir State) : Shown Dir := head.console.prompt head.shell.prompt

end Head

/-- A run with events put before its own. -/
def Run.following (run : Run Dir State) (trace : Trace Dir) : Run Dir State :=
  { run with trace := trace ++ run.trace }

@[simp] theorem Run.following_following (run : Run Dir State) (s t : Trace Dir) :
    (run.following t).following s = run.following (s ++ t) := by
  simp [following]

namespace Head

/-- What carrying out a line comes to, once the prompt is shown. -/
def done (host : Host Dir State) (head : Head Dir State) (line : String) : Dispatched Dir State :=
  dispatch host (head.shell.history.record (words line)) (words line)
    ⟨head.shown.console, head.shell.dir⟩ head.shell.launcher

/-- A line goes in one of the ways of its words, on a history that holds the line. -/
theorem effect (host : Host Dir State) (head : Head Dir State) (line : String) :
    Effect host (head.shell.history.record (words line)) ⟨head.shown.console, head.shell.dir⟩
      head.shell.launcher (words line) (head.done host line) :=
  effect_dispatch (words line)

theorem execute_eq (host : Host Dir State) (head : Head Dir State) (line : String) :
    head.shell.execute host head.shown.console line
      = ((head.done host line).trace, head.shell.after host (words line),
          (head.done host line).bench.console,
          if endsShell (words line) then .stop else .proceed) := by
  have heffect := head.effect host line
  rw [← heffect.signal_eq, Shell.after, ← heffect.dir_eq, ← heffect.launcher_eq]
  rfl

end Head

section
variable (host : Host Dir State)

/-- A turn that does not end the shell: what was observed, and where the shell is then. -/
inductive Turn (head : Head Dir State) : Trace Dir → Head Dir State → Prop
  | mk (line : String) (rest : Source) :
      head.shown.fault? = none → head.source.readLine = (.line line, rest) →
      endsShell (words line) = false →
      Turn head (head.shown.trace ++ .read (.line line) :: (head.done host line).trace)
        ⟨head.shell.after host (words line), rest, (head.done host line).bench.console⟩

/-- The ways in which a run ends. -/
inductive Last (head : Head Dir State) : Run Dir State → Prop
  | unshown (fault : Fault) :
      head.shown.fault? = some fault →
      Last head ⟨head.shown.trace, .error (.io fault), head.shell⟩
  | unread (fault : Fault) (rest : Source) :
      head.shown.fault? = none → head.source.readLine = (.failed fault, rest) →
      Last head
        ⟨head.shown.trace ++ [.read (.failed fault)], .error (.read fault), head.shell⟩
  | ended (rest : Source) :
      head.shown.fault? = none → head.source.readLine = (.endOfInput, rest) →
      Last head
        (head.shell.finish (head.shown.trace ++ [.read .endOfInput, .note .endOfInput])
          head.shown.console)
  | exited (line : String) (rest : Source) :
      head.shown.fault? = none → head.source.readLine = (.line line, rest) →
      endsShell (words line) = true →
      Last head
        ((head.shell.after host (words line)).finish
          (head.shown.trace ++ .read (.line line) :: (head.done host line).trace)
          (head.done host line).bench.console)

/-- Some turns after one another, with all that was observed in them. -/
inductive Reaches : Head Dir State → Trace Dir → Head Dir State → Prop
  | refl (head : Head Dir State) : Reaches head [] head
  | turn {head next mid : Head Dir State} {trace later : Trace Dir} :
      Turn host head trace next → Reaches next later mid → Reaches head (trace ++ later) mid

end

variable {host : Host Dir State} {head next mid : Head Dir State} {trace : Trace Dir}
  {run : Run Dir State}

theorem Turn.weight_lt (h : Turn host head trace next) : next.source.weight < head.source.weight := by
  cases h with
  | mk line rest hshown hread => exact Source.readLine_weight hread

theorem run_of_turn (h : Turn host head trace next) :
    head.run host = (next.run host).following trace := by
  cases h with
  | mk line rest hshown hread hends =>
    have hexecute := head.execute_eq host line
    unfold Head.run
    rw [Shell.run]
    unfold Head.shown at hshown hexecute
    simp only [hshown]
    -- The match on the reading carries its equation, for the weight, so `hread` cannot be rewritten in.
    split
    · rename_i hread'
      cases hread.symm.trans hread'
    · rename_i hread'
      cases hread.symm.trans hread'
    · rename_i hread'
      cases hread.symm.trans hread'
      simp only [hexecute, hends]
      rfl

theorem run_of_last (h : Last host head run) : head.run host = run := by
  unfold Head.run
  rw [Shell.run]
  cases h with
  | unshown fault hshown =>
    unfold Head.shown at *
    simp only [hshown]
  | unread fault rest hshown hread =>
    unfold Head.shown at *
    simp only [hshown]
    split <;> rename_i hread' <;> cases hread.symm.trans hread'
    rfl
  | ended rest hshown hread =>
    unfold Head.shown at *
    simp only [hshown]
    split <;> rename_i hread' <;> cases hread.symm.trans hread'
    rfl
  | exited line rest hshown hread hends =>
    have hexecute := head.execute_eq host line
    unfold Head.shown at *
    simp only [hshown]
    split <;> rename_i hread' <;> cases hread.symm.trans hread'
    simp only [hexecute, hends, if_true]

/-- Wherever a shell shows its prompt, either a turn follows or the run ends. -/
theorem turn_or_last (host : Host Dir State) (head : Head Dir State) :
    (∃ trace next, Turn host head trace next) ∨ ∃ run, Last host head run := by
  cases hshown : head.shown.fault? with
  | some fault => exact .inr ⟨_, .unshown fault hshown⟩
  | none =>
    rcases hread : head.source.readLine with ⟨reading, rest⟩
    cases reading with
    | failed fault => exact .inr ⟨_, .unread fault rest hshown hread⟩
    | endOfInput => exact .inr ⟨_, .ended rest hshown hread⟩
    | line line =>
      cases hends : endsShell (words line) with
      | true => exact .inr ⟨_, .exited line rest hshown hread hends⟩
      | false => exact .inl ⟨_, _, .mk line rest hshown hread hends⟩

/-- Turns do not go on forever: every one of them makes the source smaller. -/
theorem turn_induction (host : Host Dir State) (motive : Head Dir State → Prop)
    (step : ∀ head, (∀ trace next, Turn host head trace next → motive next) → motive head)
    (head : Head Dir State) : motive head := by
  induction hweight : head.source.weight using Nat.strongRecOn generalizing head with
  | ind weight ih =>
    refine step head fun trace next hturn => ih _ ?_ next rfl
    exact hweight ▸ hturn.weight_lt

/-- What holds of every end, and of a turn and a run when it holds of the run, holds of every run. -/
theorem run_induction (host : Host Dir State) (motive : Head Dir State → Run Dir State → Prop)
    (last : ∀ head run, Last host head run → motive head run)
    (turn : ∀ head trace next run, Turn host head trace next → motive next run →
      motive head (run.following trace))
    (head : Head Dir State) : motive head (head.run host) := by
  refine turn_induction host (fun head => motive head (head.run host)) ?_ head
  intro head ih
  rcases turn_or_last host head with ⟨trace, next, hturn⟩ | ⟨run, hlast⟩
  · rw [run_of_turn hturn]
    exact turn _ _ _ _ hturn (ih _ _ hturn)
  · rw [run_of_last hlast]
    exact last _ _ hlast

/-! ## The prompt of a run -/

/-- A prompt that is shown is written as a whole and flushed. -/
theorem Head.shown_of_none (h : head.shown.fault? = none) :
    head.shown.trace = [.out (Utf8.encode head.shell.prompt), .flush true] := by
  obtain ⟨-, htrace⟩ | ⟨fault, hfault, -⟩ := @Console.prompt_cases Dir head.console head.shell.prompt
  · exact htrace
  · cases h.symm.trans hfault

/-- Behind a prompt that is shown something is read. -/
theorem Head.exists_run_trace (host : Host Dir State) (h : head.shown.fault? = none) :
    ∃ reading later, (head.run host).trace
      = [.out (Utf8.encode head.shell.prompt), .flush true] ++ .read reading :: later := by
  rw [← Head.shown_of_none h]
  rcases turn_or_last host head with ⟨trace, next, hturn⟩ | ⟨run, hlast⟩
  · rw [run_of_turn hturn]
    cases hturn with
    | mk line rest => exact ⟨_, _, List.append_assoc _ _ _⟩
  · rw [run_of_last hlast]
    cases hlast with
    | unshown fault hfault => cases h.symm.trans hfault
    | unread => exact ⟨_, _, rfl⟩
    | ended => exact ⟨_, _, by simp only [Shell.finish, List.append_assoc]; rfl⟩
    | exited => exact ⟨_, _, by simp only [Shell.finish, List.append_assoc]; rfl⟩

/-! ## Several turns -/

theorem run_of_reaches (h : Reaches host head trace mid) :
    head.run host = (mid.run host).following trace := by
  induction h with
  | refl => rfl
  | turn hturn _ ih => rw [run_of_turn hturn, ih, Run.following_following]

/-- Every run is some turns and an end. -/
theorem exists_reaches_last (host : Host Dir State) (head : Head Dir State) :
    ∃ trace mid run, Reaches host head trace mid ∧ Last host mid run ∧
      head.run host = run.following trace := by
  refine run_induction host
    (fun head whole => ∃ trace mid run, Reaches host head trace mid ∧ Last host mid run ∧
      whole = run.following trace) ?_ ?_ head
  · intro head run hlast
    exact ⟨[], head, run, .refl head, hlast, rfl⟩
  · rintro head trace next _ hturn ⟨later, mid, run, hreaches, hlast, rfl⟩
    exact ⟨trace ++ later, mid, run, .turn hturn hreaches, hlast, Run.following_following run _ _⟩

/-! ## The final flush -/

namespace Shell

variable (shell : Shell Dir State) (trace : Trace Dir) (console : Console)

theorem trace_finish_eq : (shell.finish trace console).trace
    = trace ++ .flush console.out.flush.1.isNone
        :: unflushedNotes .unflushedOnExit console.out.flush.1 := by
  simp [finish, Console.flush]

/-- The final flush is only seen as a flush, and in the log. -/
theorem trace_finish : ∃ (worked : Bool) (notes : List Note),
    (shell.finish trace console).trace = trace ++ .flush worked :: notes.map .note :=
  ⟨_, _, (shell.trace_finish_eq trace console).trans (by rw [unflushedNotes_eq])⟩

@[simp] theorem out_finish : (shell.finish trace console).trace.out = trace.out := by
  obtain ⟨worked, notes, h⟩ := shell.trace_finish trace console
  simp [h]

@[simp] theorem err_finish : (shell.finish trace console).trace.err = trace.err := by
  obtain ⟨worked, notes, h⟩ := shell.trace_finish trace console
  simp [h]

@[simp] theorem steps_finish : (shell.finish trace console).trace.steps = trace.steps := by
  obtain ⟨worked, notes, h⟩ := shell.trace_finish trace console
  simp [h, Event.isStep]

end Shell

/-! ## What every run leaves -/

theorem Shell.entries_foldl_after (commands : List (List String)) (shell : Shell Dir State) :
    (commands.foldl (Shell.after host) shell).history.entries
      = shell.history.entries ++ commands.map History.summary := by
  induction commands generalizing shell with
  | nil => simp
  | cons args commands ih => simp [ih, Shell.after, History.record]

theorem Shell.prompt_foldl_after (host : Host Dir State) (commands : List (List String))
    (shell : Shell Dir State) :
    (commands.foldl (Shell.after host) shell).prompt = shell.prompt := by
  induction commands generalizing shell with
  | nil => rfl
  | cons args commands ih => exact ih (shell.after host args)

/-- The steps that lines lead to: each is read, dispatched on a history that holds it, and perhaps
launched, by the shell that the lines before it leave. -/
def Shell.stepsOf (host : Host Dir State) (shell : Shell Dir State) : List String → Trace Dir
  | [] => []
  | line :: lines =>
    .read (.line line) :: .dispatch (words line) (shell.history.record (words line))
      :: (if isLaunched (words line) then [.launch (words line) shell.dir] else [])
      ++ (shell.after host (words line)).stepsOf host lines

@[simp] theorem Shell.lines_stepsOf (shell : Shell Dir State) (lines : List String) :
    (shell.stepsOf host lines).lines = lines := by
  induction lines generalizing shell with
  | nil => rfl
  | cons line lines ih => cases h : isLaunched (words line) <;> simp [stepsOf, ih, h]

theorem Shell.map_fst_dispatches_stepsOf (shell : Shell Dir State) (lines : List String) :
    (shell.stepsOf host lines).dispatches.map Prod.fst = lines.map words := by
  induction lines generalizing shell with
  | nil => rfl
  | cons line lines ih => cases h : isLaunched (words line) <;> simp [stepsOf, ih, h]

/-- What the steps of a run end with, behind those of its lines: nothing, or a read that gave no
line. -/
inductive Closing : Trace Dir → Prop
  | nil : Closing []
  | endOfInput : Closing [.read .endOfInput]
  | failed (fault : Fault) : Closing [.read (.failed fault)]

theorem Closing.lines_eq {closing : Trace Dir} (h : Closing closing) : closing.lines = [] := by
  cases h <;> rfl

theorem Closing.dispatches_eq {closing : Trace Dir} (h : Closing closing) :
    closing.dispatches = [] := by
  cases h <;> rfl

theorem Closing.launches_eq {closing : Trace Dir} (h : Closing closing) :
    closing.launches = [] := by
  cases h <;> rfl

theorem Head.steps_line (host : Host Dir State) (head : Head Dir State) (line : String) :
    (head.shown.trace ++ .read (.line line) :: (head.done host line).trace).steps
      = head.shell.stepsOf host [line] := by
  simp [Head.shown, Event.isStep, Shell.stepsOf, (head.effect host line).steps_eq]

theorem Head.lines_line (host : Host Dir State) (head : Head Dir State) (line : String) :
    (head.shown.trace ++ .read (.line line) :: (head.done host line).trace).lines = [line] := by
  rw [← Trace.lines_steps, head.steps_line, Shell.lines_stepsOf]

/-- The steps of a run are those of its lines, and the lines leave the shell as the run does. -/
theorem steps_run (host : Host Dir State) (head : Head Dir State) :
    ∃ lines closing, Closing closing ∧
      (head.run host).trace.steps = head.shell.stepsOf host lines ++ closing ∧
      (head.run host).shell = (lines.map words).foldl (Shell.after host) head.shell := by
  refine run_induction host (fun head run => ∃ lines closing, Closing closing ∧
    run.trace.steps = head.shell.stepsOf host lines ++ closing ∧
    run.shell = (lines.map words).foldl (Shell.after host) head.shell) ?_ ?_ head
  · intro head run hlast
    cases hlast with
    | unshown => exact ⟨[], [], .nil, by simp [Head.shown, Shell.stepsOf], rfl⟩
    | unread fault =>
      exact ⟨[], _, .failed fault, by simp [Head.shown, Shell.stepsOf, Event.isStep], rfl⟩
    | ended =>
      exact ⟨[], _, .endOfInput, by simp [Head.shown, Shell.stepsOf, Event.isStep], rfl⟩
    | exited line =>
      refine ⟨[line], [], .nil, ?_, rfl⟩
      rw [Shell.steps_finish, head.steps_line, List.append_nil]
  · rintro head trace next run hturn ⟨lines, closing, hclosing, hsteps, hshell⟩
    cases hturn with
    | mk line rest hshown hread hends =>
      refine ⟨line :: lines, closing, hclosing, ?_, hshell⟩
      unfold Run.following
      rw [Trace.steps_append, head.steps_line, hsteps]
      simp [Shell.stepsOf]

/-- The shell is left as the lines that were read leave it, one after another. -/
theorem shell_run (host : Host Dir State) (head : Head Dir State) :
    (head.run host).shell
      = ((head.run host).trace.lines.map words).foldl (Shell.after host) head.shell := by
  obtain ⟨lines, closing, hclosing, hsteps, hshell⟩ := steps_run host head
  rw [← Trace.lines_steps, hsteps, Trace.lines_append, hclosing.lines_eq, List.append_nil,
    Shell.lines_stepsOf, hshell]

/-- Every line that is read is carried out. -/
theorem dispatches_run (host : Host Dir State) (head : Head Dir State) :
    (head.run host).trace.dispatches.map Prod.fst = (head.run host).trace.lines.map words := by
  obtain ⟨lines, closing, hclosing, hsteps, -⟩ := steps_run host head
  rw [← Trace.lines_steps, ← Trace.dispatches_steps, hsteps, Trace.lines_append,
    Trace.dispatches_append, hclosing.lines_eq, hclosing.dispatches_eq, List.append_nil,
    List.append_nil, Shell.lines_stepsOf, Shell.map_fst_dispatches_stepsOf]

end LineShell
