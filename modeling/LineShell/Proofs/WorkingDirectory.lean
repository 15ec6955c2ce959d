import LineShell.Proofs.Composition
/-!
# The working directory

A session is any number of runs and commands one after another, of shells that differ in all but the
directory they are in (`Passage`). Only a `cd` moves it: the directory is always the one that the targets of
the `cd`s so far lead to, and each launch stands where the ones before it led (`Trace.Follows`). What a
trace says of directories is said by its steps, so no stream, no failure and no end of a run has a part in
it.
-/

namespace LineShell

variable {Dir State : Type}

/-! ## Where commands lead -/

/-- Where a command asks to go: the second word of a `cd`. -/
def target? (args : List String) : Option String :=
  if args.head? = some "cd" then args[1]? else none

/-- The directory behind a move, or the same one if the move fails. -/
def enter (changeDir : ChangeDir Dir) (dir : Dir) (target : String) : Dir :=
  match changeDir dir target with
  | .ok there => there
  | .error _ => dir

/-- The targets of the `cd`s that were carried out. -/
def Trace.targets (trace : Trace Dir) : List String :=
  trace.dispatches.filterMap fun command => target? command.1

/-- The directory that the `cd`s of a trace lead to. -/
def Trace.leadsTo (changeDir : ChangeDir Dir) (dir : Dir) (trace : Trace Dir) : Dir :=
  trace.targets.foldl (enter changeDir) dir

theorem dirAfter_eq (host : Host Dir State) (dir : Dir) (args : List String) :
    dirAfter host dir args = (target? args).elim dir (enter host.changeDir dir) := by
  unfold dirAfter target? enter
  split
  · cases args[1]? <;> rfl
  · rfl

theorem target?_of_isLaunched {args : List String} (h : isLaunched args) : target? args = none := by
  cases args with
  | nil => rfl
  | cons name rest => simp [target?, ne_of_isLaunched h]

namespace Trace

variable {changeDir : ChangeDir Dir} {dir mid dir' : Dir} {s t : Trace Dir}

/-- The trace begins in the one directory and ends in the other: each `cd` on the way moves as it can, and
each launch is where they have led by then. -/
def Follows (changeDir : ChangeDir Dir) : Dir → Trace Dir → Dir → Prop
  | dir, [], dir' => dir' = dir
  | dir, .dispatch args _ :: t, dir' =>
    Follows changeDir ((target? args).elim dir (enter changeDir dir)) t dir'
  | dir, .launch _ place :: t, dir' => place = dir ∧ Follows changeDir dir t dir'
  | dir, _ :: t, dir' => Follows changeDir dir t dir'

theorem Follows.append (h : Follows changeDir dir s mid) (h' : Follows changeDir mid t dir') :
    Follows changeDir dir (s ++ t) dir' := by
  fun_induction Follows changeDir dir s mid with
  | case1 => exact h ▸ h'
  | case2 dir args history s mid ih => exact ih h h'
  | case3 dir args place s mid ih => exact ⟨h.1, ih h.2 h'⟩
  | case4 dir event s mid hdispatch hlaunch ih =>
    cases event with
    | dispatch args history => exact absurd rfl (hdispatch args history)
    | launch args place => exact absurd rfl (hlaunch args place)
    | _ => exact ih h h'

/-- Only the steps count. -/
theorem follows_steps_iff : Follows changeDir dir t.steps dir' ↔ Follows changeDir dir t dir' := by
  induction t generalizing dir with
  | nil => exact Iff.rfl
  | cons event t ih =>
    cases event with
    | launch args place => exact and_congr_right fun _ => ih
    | _ => exact ih

/-- The directory behind a trace. -/
theorem Follows.dir_eq (h : Follows changeDir dir t dir') : dir' = t.leadsTo changeDir dir := by
  unfold leadsTo targets
  fun_induction Follows changeDir dir t dir' with
  | case1 => exact h
  | case2 dir args history t dir' ih =>
    rw [ih h]
    cases htarget : target? args <;> simp [htarget]
  | case3 dir args place t dir' ih => exact ih h.2
  | case4 dir event t dir' hdispatch hlaunch ih =>
    cases event with
    | dispatch args history => exact absurd rfl (hdispatch args history)
    | launch args place => exact absurd rfl (hlaunch args place)
    | _ => exact ih h

/-- What comes first of a trace leads somewhere too. -/
theorem Follows.of_append (h : Follows changeDir dir (s ++ t) dir') :
    ∃ mid, Follows changeDir dir s mid ∧ Follows changeDir mid t dir' := by
  induction s generalizing dir with
  | nil => exact ⟨dir, rfl, h⟩
  | cons event s ih =>
    cases event with
    | launch args place =>
      obtain ⟨mid, hs, ht⟩ := ih h.2
      exact ⟨mid, ⟨h.1, hs⟩, ht⟩
    | _ => exact ih h

/-- The directory of a launch. -/
theorem Follows.launch_at {args : List String} {place : Dir}
    (h : Follows changeDir dir (s ++ .launch args place :: t) dir') :
    place = s.leadsTo changeDir dir := by
  obtain ⟨mid, hs, rfl, -⟩ := h.of_append
  exact hs.dir_eq

end Trace

/-! ## One command -/

section
variable {host : Host Dir State} {history : History} {bench : Bench Dir} {launcher : State}
  {args : List String} {done : Dispatched Dir State}

theorem Effect.follows (h : Effect host history bench launcher args done) :
    done.trace.Follows host.changeDir bench.dir done.bench.dir := by
  rw [← Trace.follows_steps_iff, h.steps_eq, h.dir_eq, dirAfter_eq]
  cases hl : isLaunched args with
  | true =>
    rw [target?_of_isLaunched hl]
    exact ⟨by rw [target?_of_isLaunched hl]; rfl, by rw [target?_of_isLaunched hl]; rfl⟩
  | false => rfl

/-- A `cd` writes to standard error alone, and only what it fails with. -/
theorem Effect.of_cd (h : Effect host history bench launcher args done) (hcd : args.head? = some "cd") :
    done.trace.out = [] ∧ done.trace.flushes = [] ∧ done.trace.launches = [] ∧
      done.bench.console.out = bench.console.out ∧
      (bench.console.err.device.TakesAll →
        done.trace.err = ((failureOf host bench.dir launcher args).map
          (Utf8.encode ∘ Console.diagnostic)).getD []) := by
  cases h with
  | blank => cases hcd
  | exit => simp at hcd
  | moved target rest dir hmoved =>
    exact ⟨rfl, rfl, rfl, rfl, fun _ => by simp [failureOf, hmoved]⟩
  | notMoved rest error reported hfailure _ hreport =>
    subst hreport
    refine ⟨rfl, rfl, rfl, rfl, fun herr => ?_⟩
    simp [Console.report_of_takesAll error herr, hfailure]
  | printed _ _ _ _ hname | notPrinted _ _ _ _ _ _ hname =>
    rcases hname with rfl | rfl <;> simp at hcd
  | launched _ _ _ _ _ hl | notLaunched _ _ _ _ _ _ _ hl =>
    exact absurd (Option.some.inj hcd) (ne_of_isLaunched hl).1

end

/-! ## Runs -/

theorem Shell.follows_stepsOf (host : Host Dir State) (shell : Shell Dir State) (lines : List String) :
    (shell.stepsOf host lines).Follows host.changeDir shell.dir
      ((lines.map words).foldl (Shell.after host) shell).dir := by
  induction lines generalizing shell with
  | nil => rfl
  | cons line lines ih =>
    have hlater := ih (shell.after host (words line))
    rw [show (shell.after host (words line)).dir = dirAfter host shell.dir (words line) from rfl,
      dirAfter_eq] at hlater
    cases hl : isLaunched (words line) with
    | true =>
      rw [target?_of_isLaunched hl] at hlater
      simp only [stepsOf, hl, if_true, List.cons_append, List.nil_append, Trace.Follows,
        target?_of_isLaunched hl]
      exact ⟨rfl, hlater⟩
    | false =>
      simp only [stepsOf, hl]
      exact hlater

theorem follows_run (host : Host Dir State) (head : Head Dir State) :
    (head.run host).trace.Follows host.changeDir head.shell.dir (head.run host).shell.dir := by
  obtain ⟨lines, closing, hclosing, hsteps, hshell⟩ := steps_run host head
  rw [← Trace.follows_steps_iff, hsteps, hshell]
  refine (head.shell.follows_stepsOf host lines).append ?_
  cases hclosing <;> rfl

/-- So it is in the middle of a run. -/
theorem Reaches.follows {host : Host Dir State} {head mid : Head Dir State} {trace : Trace Dir}
    (h : Reaches host head trace mid) :
    trace.Follows host.changeDir head.shell.dir mid.shell.dir := by
  induction h with
  | refl => rfl
  | turn hturn _ ih =>
    refine Trace.Follows.append ?_ ih
    cases hturn with
    | mk line =>
      rw [← Trace.follows_steps_iff, Head.steps_line]
      exact Shell.follows_stepsOf host _ [line]

/-! ## Sessions -/

/-- Runs and commands one after another, from one directory to another: what was observed of them all. Each
run is one of some shell, and each command one on some history, in the directory that the session has come
to, on any input, any console and any launcher. -/
inductive Passage (changeDir : ChangeDir Dir) (start : Dir) : Trace Dir → Dir → Prop
  | start : Passage changeDir start [] start
  | run {State : Type} {trace : Trace Dir} (host : Host Dir State) (shell : Shell Dir State)
      (source : Source) (console : Console) :
      host.changeDir = changeDir → Passage changeDir start trace shell.dir →
      Passage changeDir start (trace ++ (shell.run host source console).trace)
        (shell.run host source console).shell.dir
  | dispatch {State : Type} {trace : Trace Dir} {dir : Dir} (host : Host Dir State) (history : History)
      (args : List String) (console : Console) (launcher : State) :
      host.changeDir = changeDir → Passage changeDir start trace dir →
      Passage changeDir start (trace ++ (dispatch host history args ⟨console, dir⟩ launcher).trace)
        (dispatch host history args ⟨console, dir⟩ launcher).bench.dir

theorem Passage.follows {changeDir : ChangeDir Dir} {start dir : Dir} {trace : Trace Dir}
    (h : Passage changeDir start trace dir) : trace.Follows changeDir start dir := by
  induction h with
  | start => rfl
  | run host shell source console hhost _ ih =>
    exact ih.append (hhost ▸ follows_run host ⟨shell, source, console⟩)
  | @dispatch State trace dir host history args console launcher hhost _ ih =>
    have heffect : Effect host history ⟨console, dir⟩ launcher args _ := effect_dispatch args
    exact ih.append (hhost ▸ heffect.follows)

/-- Words behind the second do not matter to a `cd`. -/
theorem dispatch_cd_congr (host : Host Dir State) (history : History) (target : String)
    (more more' : List String) (bench : Bench Dir) (launcher : State) :
    let done := dispatch host history ("cd" :: target :: more) bench launcher
    dispatch host history ("cd" :: target :: more') bench launcher
      = { done with trace := .dispatch ("cd" :: target :: more') history :: done.trace.tail } := rfl

/-- The working directory. After any runs and commands, and at every prompt of a run behind them, the shell
is where the `cd`s that were carried out lead, one after another: the second word of each, from where the
ones before it led, and nowhere else if that fails. Each launch is where the `cd`s before it led. No other
command moves the shell. A `cd` without a second word fails, and further words do not matter to it. It does
not touch standard output, and on a standard error that takes it, it writes nothing if it moves and one
diagnostic if it does not. -/
theorem dir_of_passage (changeDir : ChangeDir Dir) :
    (∀ (start : Dir) (trace : Trace Dir) (dir : Dir), Passage changeDir start trace dir →
      dir = trace.leadsTo changeDir start ∧
      (∀ s args place t, trace = s ++ .launch args place :: t →
        place = Trace.leadsTo changeDir start s) ∧
      ∀ {State : Type} (host : Host Dir State) (head mid : Head Dir State) (later : Trace Dir),
        host.changeDir = changeDir → head.shell.dir = dir → Reaches host head later mid →
          mid.shell.dir = Trace.leadsTo changeDir start (trace ++ later)) ∧
    ∀ {State : Type} (host : Host Dir State) (history : History) (console : Console) (dir : Dir)
      (launcher : State), host.changeDir = changeDir →
      let carriedOut := fun args => dispatch host history args ⟨console, dir⟩ launcher
      (∀ args, args.head? ≠ some "cd" → (carriedOut args).bench.dir = dir) ∧
      (∀ rest,
        let done := carriedOut ("cd" :: rest)
        done.trace.out = [] ∧ done.trace.flushes = [] ∧ done.trace.launches = [] ∧
          done.bench.console.out = console.out) ∧
      ((carriedOut ["cd"]).bench.dir = dir ∧ (console.err.device.TakesAll →
        (carriedOut ["cd"]).trace.err
          = Utf8.encode ("shell: " ++ (ShellError.missingArgument "cd").message ++ "\n"))) ∧
      ∀ target more,
        let done := carriedOut ("cd" :: target :: more)
        (∀ there, changeDir dir target = .ok there → done.bench.dir = there ∧
          (console.err.device.TakesAll → done.trace.err = [])) ∧
        (∀ fault, changeDir dir target = .error fault → done.bench.dir = dir ∧
          (console.err.device.TakesAll →
            done.trace.err = Utf8.encode ("shell: " ++ fault.message ++ "\n"))) ∧
        ∀ more', carriedOut ("cd" :: target :: more')
          = { done with trace := .dispatch ("cd" :: target :: more') history :: done.trace.tail } := by
  constructor
  · intro start trace dir h
    refine ⟨h.follows.dir_eq, ?_, ?_⟩
    · rintro s args place t rfl
      exact h.follows.launch_at
    · rintro State host head mid later hhost rfl hreaches
      exact (h.follows.append (hhost ▸ hreaches.follows)).dir_eq
  · rintro State host history console dir launcher rfl carriedOut
    have heffect (args : List String) :
        Effect host history ⟨console, dir⟩ launcher args (carriedOut args) := effect_dispatch args
    have hdir (args : List String) : (carriedOut args).bench.dir = dirAfter host dir args :=
      (heffect args).dir_eq
    refine ⟨?_, ?_, ?_, ?_⟩
    · intro args hname
      rw [hdir, dirAfter, if_neg hname]
    · intro rest done
      obtain ⟨hout, hflushes, hlaunches, hconsole, -⟩ := (heffect ("cd" :: rest)).of_cd rfl
      exact ⟨hout, hflushes, hlaunches, hconsole⟩
    · obtain ⟨-, -, -, -, herr⟩ := (heffect ["cd"]).of_cd rfl
      exact ⟨hdir ["cd"], herr⟩
    · intro target more done
      obtain ⟨-, -, -, -, herr⟩ := (heffect ("cd" :: target :: more)).of_cd rfl
      refine ⟨?_, ?_, fun more' => dispatch_cd_congr host history target more more' _ launcher⟩
      · intro there hmoved
        have hfailure : failureOf host dir launcher ("cd" :: target :: more) = none := by
          simp [failureOf, hmoved]
        rw [hfailure] at herr
        exact ⟨(hdir _).trans (by simp [dirAfter, hmoved]), herr⟩
      · intro fault hfault
        have hfailure : failureOf host dir launcher ("cd" :: target :: more)
            = some (.changeDir fault) := by simp [failureOf, hfault]
        rw [hfailure] at herr
        exact ⟨(hdir _).trans (by simp [dirAfter, hfault]), herr⟩

/-- A run that moves once, fails to move once and launches a program, and behind it a command that moves on
a standard error that is soon full. -/
theorem dir_of_passage_lost :
    let changeDir : ChangeDir (List String) := fun dir target =>
      if target = "lost" then .error (.plain .notFound) else .ok (dir ++ [target])
    let host := Host.scripted changeDir
    let shell : Shell (List String) (List Outcome) := { prompt := "> ", dir := [], launcher := [] }
    let run := shell.run host [.piece (Utf8.encode "cd a b\ncd lost\nls\n")] {}
    let full : Console := { err := { device := Device.reliable.limited 3 .takesNothing } }
    let done := dispatch host {} ["cd", "c"] ⟨full, run.shell.dir⟩ []
    Passage changeDir [] ([] ++ run.trace ++ done.trace) done.bench.dir ∧
      run.shell.dir = ["a"] ∧ done.bench.dir = ["a", "c"] ∧
      run.trace.launches = [(["ls"], ["a"])] := by
  intro changeDir host shell run full done
  have hrun : Passage changeDir [] ([] ++ run.trace) run.shell.dir := .run host shell _ {} rfl .start
  have hdone : Passage changeDir [] ([] ++ run.trace ++ done.trace) done.bench.dir :=
    .dispatch host {} ["cd", "c"] full [] rfl hrun
  obtain ⟨hpassage, hcommand⟩ := dir_of_passage changeDir
  obtain ⟨hdir, -⟩ := hpassage [] _ _ hrun
  obtain ⟨-, -, -, hcd⟩ := hcommand host {} full run.shell.dir [] rfl
  have hreliable := Device.neverFails_reliable
  have hwhole : run = _ := run_eq_of_delivers host shell (Source.delivers_piece _) (.inr (by decide))
    ⟨hreliable, hreliable⟩ (by decide)
  have hplace : run.shell.dir = ["a"] := by
    rw [hdir, hwhole]
    decide
  obtain ⟨hmoved, -⟩ := (hcd "c" []).1 (run.shell.dir ++ ["c"]) rfl
  refine ⟨hdone, hplace, ?_, ?_⟩
  · exact hmoved.trans (by rw [hplace]; rfl)
  · rw [hwhole]
    decide

end LineShell
