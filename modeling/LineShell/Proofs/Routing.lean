import LineShell.Proofs.Effects
/-!
# Where a command goes

The first word of a command says where it goes, and it has to be just the name of a builtin to go there: what
differs from one by a letter, a case or a character behind it is launched. `dispatch_routes` says what each
way may do to the shell, the launcher and the two streams, which may fail as they like: nothing but `exit`
ends the shell, no failure does.
-/

namespace LineShell

variable {Dir State : Type}

section
variable (host : Host Dir State) (history : History) (args : List String) (bench : Bench Dir)
  (launcher : State)

/-- The error that a command is to report: the one that its builtin replies with, or the one of its launch.
There is none to a program that ran, however it ended. -/
def raised? : Option ShellError :=
  match args with
  | [] => none
  | name :: _ =>
    match Registry.standard.find? name with
    | some builtin =>
      match (builtin.run ⟨history, Registry.standardNames, host.changeDir⟩ args bench).result with
      | .error error => some error
      | .ok _ => none
    | none =>
      match (host.launch bench.dir args launcher).1.outcome with
      | .failed fault => some (.launch fault)
      | .exited _ | .killed _ => none

end

/-! ## Standard error -/

/-- A builtin leaves standard error to the shell. -/
theorem Registry.err_run_of_find? {name : String} {builtin : Builtin Dir}
    (h : standard.find? name = some builtin) (context : Context Dir) (args : List String) (bench : Bench Dir) :
    let reply := builtin.run context args bench
    reply.trace.err = [] ∧ reply.bench.console.err = bench.console.err := by
  rcases eq_of_find?_standard h with rfl | rfl | rfl | rfl
  · dsimp only [Builtin.cd]
    split
    · exact ⟨rfl, rfl⟩
    · split <;> exact ⟨rfl, rfl⟩
  all_goals exact ⟨rfl, rfl⟩

theorem Console.err_report_congr {console console' : Console} (h : console'.err = console.err)
    (error : ShellError) :
    (console'.report error : Trace Dir × Console).1.err
      = (console.report error : Trace Dir × Console).1.err := by
  unfold report
  rw [h]

/-- A command reports the error that is raised, once, and leaves standard error alone if none is. -/
theorem err_dispatch (host : Host Dir State) (history : History) (args : List String) (bench : Bench Dir)
    (launcher : State) :
    let done := dispatch host history args bench launcher
    (raised? host history args bench launcher = none →
      done.trace.err = [] ∧ done.bench.console.err = bench.console.err) ∧
    ∀ error, raised? host history args bench launcher = some error →
      done.signal = .proceed ∧ done.trace.err = (bench.console.report error : Trace Dir × Console).1.err := by
  cases args with
  | nil => exact ⟨fun _ => ⟨rfl, rfl⟩, fun _ h => by cases h⟩
  | cons name rest =>
    unfold raised? dispatch carryOut
    cases hfind : (Registry.standard : Registry Dir).find? name with
    | some builtin =>
      obtain ⟨htrace, hconsole⟩ := Registry.err_run_of_find? hfind
        ⟨history, Registry.standardNames, host.changeDir⟩ (name :: rest) bench
      unfold runBuiltin
      cases hresult : (builtin.run ⟨history, Registry.standardNames, host.changeDir⟩
          (name :: rest) bench).result with
      | ok signal => simp [hfind, hresult, htrace, hconsole]
      | error error =>
        simp [hfind, hresult, htrace, Console.err_report_congr hconsole]
    | none =>
      rcases hlaunch : host.launch bench.dir (name :: rest) launcher with ⟨launch, state⟩
      unfold launchProgram
      cases houtcome : launch.outcome with
      | failed fault =>
        -- The flush before the launch is no business of standard error.
        have hreport :
            ((bench.console.flush : Shown Dir).console.report (.launch fault) : Trace Dir × Console).1.err
              = (bench.console.report (.launch fault) : Trace Dir × Console).1.err :=
          Console.err_report_congr rfl _
        simpa [hfind, hlaunch, houtcome, Console.flush] using hreport
      | exited | killed => simp [hfind, hlaunch, houtcome, Console.flush]

/-! ## Standard output -/

/-- What is neither `help` nor `history` writes nothing to standard output, and flushes it only to launch. -/
theorem Effect.out_eq_nil {host : Host Dir State} {history : History} {bench : Bench Dir} {launcher : State}
    {args : List String} {done : Dispatched Dir State} (h : Effect host history bench launcher args done)
    (hhelp : args.head? ≠ some "help") (hhistory : args.head? ≠ some "history") :
    done.trace.out = [] ∧ done.bench.console.out
      = if isLaunched args then bench.console.out.flush.2 else bench.console.out := by
  cases h with
  | blank | exit | moved => exact ⟨rfl, rfl⟩
  | notMoved _ _ _ _ _ hreport =>
    subst hreport
    exact ⟨rfl, rfl⟩
  | printed _ _ _ _ hname | notPrinted _ _ _ _ _ _ hname =>
    rcases hname with rfl | rfl
    · exact absurd rfl hhelp
    · exact absurd rfl hhistory
  | launched _ _ _ _ _ hl _ hflush =>
    subst hflush
    simp [Console.flush, hl]
  | notLaunched _ _ _ _ _ _ _ hl _ hflush _ hreport =>
    subst hflush hreport
    simp [Console.flush, Console.report, hl]

/-! ## The ways of a command -/

/-- Where a command goes, whatever its words are and however the two streams fail. The shell ends exactly if
the first word is `exit`. The launcher is called once, with these words, exactly if there is a first word and
it is no name of a builtin, and is left alone otherwise. Nothing but `help` and `history` writes to standard
output. The error that a builtin or a launch ends with is reported on standard error in one line, as a whole
if standard error takes all, and the shell goes on; without one, standard error is left alone. -/
theorem dispatch_routes (host : Host Dir State) (history : History) (args : List String) (console : Console)
    (dir : Dir) (launcher : State) :
    let done := dispatch host history args ⟨console, dir⟩ launcher
    let error? := raised? host history args ⟨console, dir⟩ launcher
    (done.signal = .stop ↔ args.head? = some "exit") ∧
    (isLaunched args ↔ ∃ name rest, args = name :: rest ∧
      name ≠ "cd" ∧ name ≠ "help" ∧ name ≠ "exit" ∧ name ≠ "history") ∧
    (isLaunched args → done.trace.launches = [(args, dir)] ∧
      done.launcher = (host.launch dir args launcher).2) ∧
    (isLaunched args = false → done.trace.launches = [] ∧ done.launcher = launcher) ∧
    (args.head? ≠ some "help" → args.head? ≠ some "history" → done.trace.out = [] ∧
      done.bench.console.out = if isLaunched args then console.out.flush.2 else console.out) ∧
    (error? = none → done.trace.err = [] ∧ done.bench.console.err = console.err) ∧
    ∀ error, error? = some error → done.signal = .proceed ∧
      (console.err.device.TakesAll → done.trace.err = Utf8.encode ("shell: " ++ error.message ++ "\n")) := by
  intro done error?
  have heffect : Effect host history ⟨console, dir⟩ launcher args done := effect_dispatch args
  obtain ⟨hsilent, hreported⟩ := err_dispatch host history args ⟨console, dir⟩ launcher
  refine ⟨?_, ?_, ?_, ?_, heffect.out_eq_nil, hsilent, ?_⟩
  · rw [heffect.signal_eq]
    cases hends : endsShell args <;> simpa [endsShell] using hends
  · cases args with
    | nil => simp [isLaunched]
    | cons name rest => simp [isLaunched]
  · intro hl
    rw [heffect.launches_eq, heffect.launcher_eq, launcherAfter, if_pos hl, if_pos hl]
    exact ⟨rfl, rfl⟩
  · intro hl
    rw [heffect.launches_eq, heffect.launcher_eq, launcherAfter]
    simp [hl]
  · intro error herror
    obtain ⟨hsignal, herr⟩ := hreported error herror
    refine ⟨hsignal, fun hall => herr.trans ?_⟩
    rw [Console.report_of_takesAll error hall]
    exact List.append_nil _

/-- A name with one character too many is launched, and its signal is not reported; a `cd` to nowhere is. -/
theorem dispatch_routes_near_miss :
    let host : Host Unit (List Outcome) := Host.scripted fun _ _ => .error .nulInPath
    let near := dispatch host {} ["exit\x00", "a b"] ⟨{}, ()⟩ [.killed 9]
    let lost := dispatch host {} ["cd"] ⟨{}, ()⟩ [.killed 9]
    near.signal ≠ .stop ∧ near.trace.launches = [(["exit\x00", "a b"], ())] ∧ near.launcher = [] ∧
      near.trace.out = [] ∧ near.trace.err = [] ∧
      lost.trace.launches = [] ∧ lost.launcher = [.killed 9] ∧ lost.signal = .proceed ∧
      lost.trace.err = Utf8.encode "shell: expected argument to \"cd\"\n" := by
  intro host near lost
  obtain ⟨hstop, -, hlaunched, -, hout, hsilent, -⟩ :=
    dispatch_routes host {} ["exit\x00", "a b"] {} () [.killed 9]
  obtain ⟨hlaunches, hlauncher⟩ := hlaunched rfl
  obtain ⟨-, -, -, hkept, -, -, hreported⟩ := dispatch_routes host {} ["cd"] {} () [.killed 9]
  obtain ⟨hnone, hsame⟩ := hkept rfl
  obtain ⟨hproceed, herr⟩ := hreported (.missingArgument "cd") rfl
  exact ⟨fun h => absurd (hstop.1 h) (by decide), hlaunches, hlauncher,
    (hout (by decide) (by decide)).1, (hsilent rfl).1, hnone, hsame, hproceed,
    herr Device.neverFails_reliable.takesAll⟩

end LineShell
