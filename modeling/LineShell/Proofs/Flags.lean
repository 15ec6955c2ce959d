import LineShell.Proofs.Composition
import LineShell.Invocation
/-!
# What the flags change

A command line that is not refused spells a prompt, or none, whether to log, and whether to show help
(`Spells`). Two invocations are compared that differ in the one or the other. What is logged is chosen when
a run is over, so a run goes the same way whatever the log (`run_congr_host` has the part of the
environment, which only launched programs could see). The prompt stands in front of each stretch of a run
and in no stretch (`Shell.exists_segments`).
-/

namespace LineShell

variable {Dir State : Type}

/-! ## Command lines that are in order -/

/-- A command line that is in order, with the prompt that it gives, whether it asks for the log, and whether
it asks for help. The prompt is given at most once, no option follows a request for help, and nothing
follows two dashes. -/
inductive Spells : List String → Option String → Bool → Bool → Prop
  | nil : Spells [] none false false
  | dashes : Spells ["--"] none false false
  | verbose {rest : List String} {prompt? : Option String} {verbose help : Bool} (arg : String) :
      arg = "-v" ∨ arg = "--verbose" → Spells rest prompt? verbose help →
      Spells (arg :: rest) prompt? true help
  | prompt {rest : List String} {verbose help : Bool} (text : String) :
      Spells rest none verbose help → Spells ("--prompt" :: text :: rest) (some text) verbose help
  | help {rest : List String} {help : Bool} (arg : String) :
      arg = "--help" ∨ arg = "help" → Spells rest none false help → Spells (arg :: rest) none false true

namespace Wishes

variable {wishes : Wishes} {args : List String} {prompt? : Option String} {verbose help : Bool}
  {request : Request}

/-! What each option adds to the wishes. -/

theorem read_help (hopen : wishes.optionsEnded = false) {arg : String}
    (harg : arg = "--help" ∨ arg = "help") (rest : List String) :
    wishes.read (arg :: rest) = read { wishes with help := true } rest := by
  rw [read.eq_def]
  simp only [hopen, harg, if_true]
  rfl

theorem read_verbose (hopen : wishes.optionsEnded = false) (hhelp : wishes.help = false) {arg : String}
    (harg : arg = "-v" ∨ arg = "--verbose") (rest : List String) :
    wishes.read (arg :: rest) = read { wishes with verbose := true } rest := by
  rw [read.eq_def]
  rcases harg with rfl | rfl <;> simp [hopen, hhelp]

theorem read_prompt (hopen : wishes.optionsEnded = false) (hhelp : wishes.help = false)
    (hprompt : wishes.prompt = none) (text : String) (rest : List String) :
    wishes.read ("--prompt" :: text :: rest) = read { wishes with prompt := some text } rest := by
  rw [read.eq_def]
  simp [hopen, hhelp, hprompt]

theorem read_dashes (hopen : wishes.optionsEnded = false) :
    wishes.read ["--"] = .ok wishes.request := by
  simp [read, hopen, Wishes.request]

/-- Wishes that a command line in order can go on from: it gives no second prompt, and no option behind a
request for help. -/
structure Admits (wishes : Wishes) (prompt? : Option String) (verbose : Bool) : Prop where
  optionsEnded : wishes.optionsEnded = false
  prompt : wishes.prompt = none ∨ prompt? = none
  help : wishes.help = false ∨ prompt? = none ∧ verbose = false

/-- The wishes with those of a command line in order. -/
def adding (wishes : Wishes) (prompt? : Option String) (verbose help : Bool) : Wishes :=
  { wishes with
    prompt := prompt?.or wishes.prompt
    verbose := wishes.verbose || verbose
    help := wishes.help || help }

theorem read_of_spells (h : Spells args prompt? verbose help) (hadmits : wishes.Admits prompt? verbose) :
    wishes.read args = .ok (wishes.adding prompt? verbose help).request := by
  obtain ⟨hopen, hprompt, hhelp⟩ := hadmits
  induction h generalizing wishes with
  | nil => simp [read, adding]
  | dashes => simp [read_dashes hopen, adding]
  | verbose arg harg _ ih =>
    have hnone : wishes.help = false := by simpa using hhelp
    have hrest := @ih { wishes with verbose := true } hopen hprompt (.inl hnone)
    rw [read_verbose hopen hnone harg, hrest]
    simp [adding]
  | prompt text _ ih =>
    have hnone : wishes.help = false := by simpa using hhelp
    have hfirst : wishes.prompt = none := by simpa using hprompt
    have hrest := @ih { wishes with prompt := some text } hopen (.inr rfl) (.inl hnone)
    rw [read_prompt hopen hnone hfirst, hrest]
    simp [adding]
  | help arg harg _ ih =>
    have hrest := @ih { wishes with help := true } hopen (.inr rfl) (.inr ⟨rfl, rfl⟩)
    rw [read_help hopen harg, hrest]
    simp [adding]

theorem eq_nil_of_read (hended : wishes.optionsEnded = true) (h : wishes.read args = .ok request) :
    args = [] := by
  cases args with
  | nil => rfl
  | cons arg rest =>
    rw [read.eq_def] at h
    simp [hended] at h

theorem exists_spells_of_read (hopen : wishes.optionsEnded = false) (h : wishes.read args = .ok request) :
    ∃ prompt? verbose help, Spells args prompt? verbose help ∧ wishes.Admits prompt? verbose := by
  fun_induction read wishes args with
  | case1 wishes => exact ⟨none, false, false, .nil, hopen, .inr rfl, .inr ⟨rfl, rfl⟩⟩
  | case3 wishes arg rest _ harg ih =>
    obtain ⟨prompt?, verbose, help, hspells, -, -, hhelp⟩ := ih hopen h
    obtain ⟨rfl, rfl⟩ : prompt? = none ∧ verbose = false := by simpa using hhelp
    exact ⟨none, false, true, .help arg harg hspells, hopen, .inr rfl, .inr ⟨rfl, rfl⟩⟩
  | case4 wishes rest _ _ ih =>
    obtain rfl := eq_nil_of_read rfl h
    exact ⟨none, false, false, .dashes, hopen, .inr rfl, .inr ⟨rfl, rfl⟩⟩
  | case7 wishes arg rest _ _ _ _ hhelp harg ih =>
    obtain ⟨prompt?, verbose, help, hspells, -, hprompt, -⟩ := ih hopen h
    exact ⟨prompt?, true, help, .verbose arg harg hspells, hopen, hprompt, .inl (by simpa using hhelp)⟩
  | case10 wishes _ hhelp text rest hprompt _ _ _ _ ih =>
    obtain ⟨prompt?, verbose, help, hspells, -, hsecond, -⟩ := ih hopen h
    obtain rfl : prompt? = none := by simpa using hsecond
    exact ⟨some text, verbose, help, .prompt text hspells, hopen, .inl (by simpa using hprompt),
      .inl (by simpa using hhelp)⟩
  | case2 | case5 | case6 | case8 | case9 | case11 => cases h

end Wishes

/-- The command lines that are in order are those that are not refused. -/
theorem Request.ofArguments_eq_ok_iff (args : List String) :
    (∃ request, Request.ofArguments args = .ok request) ↔
      ∃ prompt? verbose help, Spells args prompt? verbose help := by
  constructor
  · rintro ⟨request, h⟩
    obtain ⟨prompt?, verbose, help, hspells, -⟩ := Wishes.exists_spells_of_read rfl h
    exact ⟨prompt?, verbose, help, hspells⟩
  · rintro ⟨prompt?, verbose, help, h⟩
    exact ⟨_, Wishes.read_of_spells h ⟨rfl, .inl rfl, .inl rfl⟩⟩

theorem Request.ofArguments_of_spells {args : List String} {prompt? : Option String}
    {verbose help : Bool} (h : Spells args prompt? verbose help) :
    Request.ofArguments args
      = .ok (if help then .help else .run { prompt := prompt?.getD defaultPrompt, verbose }) := by
  rw [ofArguments, Wishes.read_of_spells h ⟨rfl, .inl rfl, .inl rfl⟩]
  simp [Wishes.adding, Wishes.request]

/-! ## What a run does not depend on -/

/-- Of a host a command sees where a `cd` leads, and how the one launch comes out that it makes. -/
theorem dispatch_congr_host {host host' : Host Dir State} (hdirs : host'.changeDir = host.changeDir)
    (history : History) {args : List String} (bench : Bench Dir) (launcher : State)
    (h : isLaunched args → host'.launch bench.dir args launcher = host.launch bench.dir args launcher) :
    dispatch host' history args bench launcher = dispatch host history args bench launcher := by
  unfold dispatch carryOut
  cases args with
  | nil => rfl
  | cons name rest =>
    cases hfind : (Registry.standard : Registry Dir).find? name with
    | some builtin => simp only [hfind, hdirs]
    | none =>
      have hlaunched := (find?_eq_none_iff_isLaunched name rest).1 hfind
      simp only [hfind, launchProgram, h hlaunched]

/-- Two hosts on which the same directories are found, and on which the launches that a run makes come out
alike, are alike to this run. -/
theorem run_congr_host {host host' : Host Dir State} (hdirs : host'.changeDir = host.changeDir)
    (head : Head Dir State)
    (h : ∀ words place, (words, place) ∈ (head.run host).trace.launches →
      ∀ launcher, host'.launch place words launcher = host.launch place words launcher) :
    head.run host' = head.run host := by
  refine turn_induction host (fun head => (∀ words place,
    (words, place) ∈ (head.run host).trace.launches →
      ∀ launcher, host'.launch place words launcher = host.launch place words launcher) →
    head.run host' = head.run host) ?_ head h
  intro head ih h
  -- A line goes alike if its launch does, and leaves the same shell.
  have hline (line : String) (hlaunch : isLaunched (words line) → ∀ launcher,
      host'.launch head.shell.dir (words line) launcher
        = host.launch head.shell.dir (words line) launcher) :
      head.done host' line = head.done host line ∧
        head.shell.after host' (words line) = head.shell.after host (words line) := by
    have hdone : head.done host' line = head.done host line :=
      dispatch_congr_host hdirs _ _ _ fun hl => hlaunch hl _
    refine ⟨hdone, ?_⟩
    have hdir := (head.effect host' line).dir_eq
    have hlauncher := (head.effect host' line).launcher_eq
    rw [hdone] at hdir hlauncher
    unfold Shell.after
    rw [← hdir, ← hlauncher, (head.effect host line).dir_eq, (head.effect host line).launcher_eq]
  rcases turn_or_last host head with ⟨trace, next, hturn⟩ | ⟨run, hlast⟩
  · rw [run_of_turn hturn] at h ⊢
    cases hturn with
    | mk line rest hshown hread hends =>
      have hturn : Turn host head _ _ := .mk line rest hshown hread hends
      obtain ⟨hdone, hafter⟩ := hline line fun hl => h _ _ (by
        simp [Run.following, Head.shown, (head.effect host line).launches_eq, hl])
      have hnext := ih _ _ hturn fun words place hmem => h words place (by
        rw [Run.following, Trace.launches_append]
        exact List.mem_append_right _ hmem)
      rw [run_of_turn (.mk line rest hshown hread hends), hdone, hafter, hnext]
  · rw [run_of_last hlast]
    cases hlast with
    | unshown fault hshown => exact run_of_last (.unshown fault hshown)
    | unread fault rest hshown hread => exact run_of_last (.unread fault rest hshown hread)
    | ended rest hshown hread => exact run_of_last (.ended rest hshown hread)
    | exited line rest hshown hread hends =>
      obtain ⟨hdone, hafter⟩ := hline line fun hl => by
        rw [endsShell_of_isLaunched hl] at hends
        cases hends
      rw [run_of_last (.exited line rest hshown hread hends), hdone, hafter]

/-! ## What the prompt is to a run -/

/-- Some stretches of events, with the prompt before each. -/
def prompted (prompt : String) (segments : List (Trace Dir)) : Trace Dir :=
  segments.flatMap (.out (Utf8.encode prompt) :: ·)

/-- On outputs that never fail, a run is a number of stretches, each behind a prompt. The prompt has no part
in them, nor in what the run comes to. -/
theorem Shell.exists_segments (host : Host Dir State) (shell : Shell Dir State) (source : Source) :
    ∃ (segments : List (Trace Dir)) (result : Except ShellError Unit) (after : Shell Dir State),
      ∀ (prompt : String) (console : Console), console.NeverFails →
        ({ shell with prompt } : Shell Dir State).run host source console
          = ⟨prompted prompt segments, result, { after with prompt }⟩ := by
  induction hweight : source.weight using Nat.strongRecOn generalizing shell source with
  | ind weight ih =>
    let start (prompt : String) (console : Console) : Head Dir State :=
      ⟨{ shell with prompt }, source, console⟩
    rcases hread : source.readLine with ⟨reading, rest⟩
    cases reading with
    | failed fault =>
      refine ⟨[[.flush true, .read (.failed fault)]], .error (.read fault), shell, ?_⟩
      intro prompt console h
      exact run_of_fault host (start prompt console) h hread
    | endOfInput =>
      refine ⟨[[.flush true, .read .endOfInput, .note .endOfInput, .flush true]], .ok (), shell, ?_⟩
      intro prompt console h
      exact run_of_endOfInput host (start prompt console) h hread
    | line line =>
      let command := commandTrace host (shell.history.record (words line)) shell.dir shell.launcher
        (words line)
      cases hends : endsShell (words line) with
      | true =>
        refine ⟨[.flush true :: .read (.line line) :: command ++ [.flush true]], .ok (),
          shell.after host (words line), ?_⟩
        intro prompt console h
        rw [show ({ shell with prompt } : Shell Dir State).run host source console = _ from
          run_of_exit host (start prompt console) h hread hends]
        simp [start, lineTrace, prompted, command, Shell.after]
      | false =>
        obtain ⟨segments, result, after, hrun⟩ := ih rest.weight
          (hweight ▸ Source.readLine_weight hread) (shell.after host (words line)) rest rfl
        refine ⟨(.flush true :: .read (.line line) :: command) :: segments, result, after, ?_⟩
        intro prompt console h
        obtain ⟨next, hnext, hturn⟩ := run_of_line host (start prompt console) h hread hends
        have hlater : ((start prompt console).shell.after host (words line)).run host rest next = _ :=
          hrun prompt next hnext
        rw [hlater] at hturn
        exact hturn

section
variable (prompt : String) (segments : List (Trace Dir))

theorem out_prompted :
    (prompted prompt segments).out = segments.flatMap (Utf8.encode prompt ++ ·.out) :=
  List.flatMap_assoc

theorem allOut_prompted :
    (prompted prompt segments).allOut = segments.flatMap (Utf8.encode prompt ++ ·.allOut) :=
  List.flatMap_assoc

theorem allErr_prompted : (prompted prompt segments).allErr = segments.flatMap Trace.allErr :=
  List.flatMap_assoc

theorem notes_prompted : (prompted prompt segments).notes = segments.flatMap Trace.notes :=
  List.filterMap_flatMap

theorem launches_prompted : (prompted prompt segments).launches = segments.flatMap Trace.launches :=
  List.filterMap_flatMap

end

/-! ## The program -/

namespace Invocation

/-- Runs the program with a shell on any host, where launches may depend on what was launched before, and
on any standard output. -/
def runOn (invocation : Invocation) (host : Host Location State) (launcher : State) (out : Sink) :
    Completion :=
  match Request.ofArguments invocation.args with
  | .error error => { status := 1, err := Utf8.encode error.report }
  | .ok .help => invocation.showHelp
  | .ok (.run settings) =>
    invocation.completionOf settings ((Shell.start settings invocation.dir launcher).run host
      invocation.input { out })

/-- The program runs on the host that its machine is, and on the standard output that the machine has. -/
theorem run_eq_runOn (invocation : Invocation) :
    invocation.run = invocation.runOn invocation.host () invocation.console.out := by
  have hconsole : invocation.console = { out := invocation.console.out } := by
    unfold console
    split <;> rfl
  have hshell (settings : Settings) : invocation.runShell settings
      = (Shell.start settings invocation.dir ()).run invocation.host invocation.input
          { out := invocation.console.out } :=
    congrArg (Shell.run invocation.host (Shell.start settings invocation.dir ()) invocation.input) hconsole
  unfold run runOn
  cases Request.ofArguments invocation.args with
  | error error => rfl
  | ok request =>
    cases request with
    | help => rfl
    | run settings => exact congrArg (invocation.completionOf settings) (hshell settings)

/-- Variables in the environment do not move directories. -/
theorem changeDir_host (invocation : Invocation) :
    invocation.host.changeDir = invocation.machine.changeDir := by
  simp only [host, Machine.forkingHost, Host.forking]
  unfold Machine.changeDir
  rfl

section
variable {invocation : Invocation} {prompt? : Option String} {verbose : Bool}
  (host : Host Location State) (launcher : State) (out : Sink)

theorem runOn_of_help (h : Spells invocation.args prompt? verbose true) :
    invocation.runOn host launcher out = invocation.showHelp := by
  unfold runOn
  rw [Request.ofArguments_of_spells h]
  rfl

theorem runOn_of_spells (h : Spells invocation.args prompt? verbose false) :
    invocation.runOn host launcher out
      = invocation.completionOf { prompt := prompt?.getD defaultPrompt, verbose }
          (({ prompt := prompt?.getD defaultPrompt, dir := invocation.dir, launcher } :
            Shell Location State).run host invocation.input { out }) := by
  unfold runOn
  rw [Request.ofArguments_of_spells h]
  rfl

end

/-- Neither the verbosity nor the log filter shows outside the log. -/
theorem completionOf_congr (one two : Invocation) (hmachine : two.machine = one.machine)
    (settings settings' : Settings) (run : Run Location State) :
    (two.completionOf settings' run).status = (one.completionOf settings run).status ∧
      (two.completionOf settings' run).out = (one.completionOf settings run).out ∧
      (two.completionOf settings' run).err = (one.completionOf settings run).err := by
  unfold completionOf
  rw [hmachine]
  cases run.result <;> exact ⟨rfl, rfl, rfl⟩

/-- A run in stretches comes to the same whatever the prompt is, but for what the shell wrote. -/
theorem completionOf_prompted (one two : Invocation) (hmachine : two.machine = one.machine)
    (hfilter : two.logFilter = one.logFilter) (p q : String) (verbose : Bool)
    (segments : List (Trace Location)) (result : Except ShellError Unit)
    (after after' : Shell Location State) :
    let completion := one.completionOf ⟨p, verbose⟩ ⟨prompted p segments, result, after⟩
    let completion' := two.completionOf ⟨q, verbose⟩ ⟨prompted q segments, result, after'⟩
    completion'.status = completion.status ∧ completion'.err = completion.err ∧
      completion'.log = completion.log := by
  unfold completionOf logged
  rw [hmachine, hfilter]
  simp only [allErr_prompted, notes_prompted]
  cases result <;> exact ⟨rfl, rfl, rfl⟩

theorem out_completionOf (invocation : Invocation) (h : invocation.machine.outIsFull = false)
    (settings : Settings) (run : Run Location State) :
    (invocation.completionOf settings run).out = run.trace.allOut := by
  unfold completionOf
  rw [h]
  cases run.result <;> rfl

theorem out_neverFails (invocation : Invocation) (h : invocation.machine.outIsFull = false) :
    invocation.console.out.device.NeverFails := by
  unfold console
  rw [h]
  exact Device.neverFails_reliable

section
variable {one two : Invocation} {prompt? prompt'? : Option String} {verbose verbose' help : Bool}
  {host host' : Host Location State} {launcher : State} {out : Sink}

/-- Two invocations whose runs are one come to the same, but for the log. -/
theorem runOn_congr (hmachine : two.machine = one.machine)
    (hone : Spells one.args prompt? verbose help) (htwo : Spells two.args prompt? verbose' help)
    (hrun : help = false →
      let shell : Invocation → Shell Location State := fun invocation =>
        { prompt := prompt?.getD defaultPrompt, dir := invocation.dir, launcher }
      (shell two).run host' two.input { out } = (shell one).run host one.input { out }) :
    (two.runOn host' launcher out).status = (one.runOn host launcher out).status ∧
      (two.runOn host' launcher out).out = (one.runOn host launcher out).out ∧
      (two.runOn host' launcher out).err = (one.runOn host launcher out).err := by
  cases help with
  | true =>
    rw [runOn_of_help host launcher out hone, runOn_of_help host' launcher out htwo]
    unfold showHelp
    rw [hmachine]
    exact ⟨rfl, rfl, rfl⟩
  | false =>
    rw [runOn_of_spells host launcher out hone, runOn_of_spells host' launcher out htwo, hrun rfl]
    exact completionOf_congr one two hmachine _ _ _

/-- Two invocations whose runs are the same stretches, each behind its own prompt, come to the same, but for
these prompts. -/
theorem runOn_prompted (hmachine : two.machine = one.machine) (hfilter : two.logFilter = one.logFilter)
    (hroom : one.machine.outIsFull = false)
    (hone : Spells one.args prompt? verbose help) (htwo : Spells two.args prompt'? verbose help)
    {segments : List (Trace Location)} {result : Except ShellError Unit}
    {after : String → Shell Location State}
    (hruns : ∀ (prompt : String) (invocation : Invocation), invocation = one ∨ invocation = two →
      ({ prompt, dir := invocation.dir, launcher } : Shell Location State).run host invocation.input
        { out } = ⟨prompted prompt segments, result, after prompt⟩) :
    let completion := one.runOn host launcher out
    let completion' := two.runOn host launcher out
    completion'.status = completion.status ∧ completion'.err = completion.err ∧
      completion'.log = completion.log ∧ (help = true → completion'.out = completion.out) ∧
      (help = false →
        completion.out = (prompted (prompt?.getD defaultPrompt) segments).allOut ∧
        completion'.out = (prompted (prompt'?.getD defaultPrompt) segments).allOut) := by
  intro completion completion'
  cases help with
  | true =>
    have hcompletion : completion' = completion := by
      unfold completion completion'
      rw [runOn_of_help host launcher out hone, runOn_of_help host launcher out htwo]
      unfold showHelp
      rw [hmachine]
    rw [hcompletion]
    exact ⟨rfl, rfl, rfl, fun _ => rfl, fun h => (nomatch h)⟩
  | false =>
    have hfirst : completion = one.completionOf _ _ := runOn_of_spells host launcher out hone
    have hsecond : completion' = two.completionOf _ _ := runOn_of_spells host launcher out htwo
    rw [hfirst, hsecond, hruns _ one (.inl rfl), hruns _ two (.inr rfl),
      out_completionOf one hroom, out_completionOf two (hmachine ▸ hroom)]
    obtain ⟨hstatus, herr, hlog⟩ := completionOf_prompted one two hmachine hfilter
      (prompt?.getD defaultPrompt) (prompt'?.getD defaultPrompt) verbose segments result _ _
    exact ⟨hstatus, herr, hlog, fun h => (nomatch h), fun _ => ⟨rfl, rfl⟩⟩

end

/-- What the flags change. A command line is in order just when it spells a prompt, or none, whether to log,
and whether to show help. Two invocations with one prompt, whatever else they log and by whatever filter,
have the same status and write the same to both outputs but for the log, if the programs that are launched
do not look at the filter. Two invocations that differ in their prompts alone, on a standard output that
never fails, have the same status, diagnostics and log, leave the same history and directory, and launch the
same; what they write are the same stretches, in the one with the one prompt before each and in the other
with the other. -/
theorem runOn_flags (input : Source) (machine : Machine) (dir : Location) (launcher : State) :
    let shell := fun prompt? : Option String =>
      ({ prompt := prompt?.getD defaultPrompt, dir, launcher } : Shell Location State)
    (∀ args, (∃ request, Request.ofArguments args = .ok request) ↔
      ∃ prompt? verbose help, Spells args prompt? verbose help) ∧
    (∀ (args args' : List String) (prompt? : Option String) (verbose verbose' help : Bool)
        (logFilter logFilter' : Option String) (host host' : Host Location State) (out : Sink),
      Spells args prompt? verbose help → Spells args' prompt? verbose' help →
      host'.changeDir = host.changeDir →
      (help = false → ∀ words place,
        (words, place) ∈ ((shell prompt?).run host input { out }).trace.launches →
          ∀ launcher, host'.launch place words launcher = host.launch place words launcher) →
      let one : Invocation := { args, logFilter, input, machine, dir }
      let two : Invocation := { args := args', logFilter := logFilter', input, machine, dir }
      (two.runOn host' launcher out).status = (one.runOn host launcher out).status ∧
        (two.runOn host' launcher out).out = (one.runOn host launcher out).out ∧
        (two.runOn host' launcher out).err = (one.runOn host launcher out).err) ∧
    (∀ (host : Host Location State) (out : Sink), machine.outIsFull = false → out.device.NeverFails →
      ∃ segments : List (Trace Location),
        ∀ (args args' : List String) (prompt? prompt'? : Option String) (verbose help : Bool)
          (logFilter : Option String),
        Spells args prompt? verbose help → Spells args' prompt'? verbose help →
        let one := ({ args, logFilter, input, machine, dir } : Invocation).runOn host launcher out
        let two :=
          ({ args := args', logFilter, input, machine, dir } : Invocation).runOn host launcher out
        let run := (shell prompt?).run host input { out }
        let run' := (shell prompt'?).run host input { out }
        let p := Utf8.encode (prompt?.getD defaultPrompt)
        let q := Utf8.encode (prompt'?.getD defaultPrompt)
        two.status = one.status ∧ two.err = one.err ∧ two.log = one.log ∧
          run'.result = run.result ∧ run'.shell.history = run.shell.history ∧
          run'.shell.dir = run.shell.dir ∧ run'.trace.launches = run.trace.launches ∧
          run.trace = segments.flatMap (.out p :: ·) ∧ run'.trace = segments.flatMap (.out q :: ·) ∧
          run.trace.out = segments.flatMap (p ++ ·.out) ∧
          run'.trace.out = segments.flatMap (q ++ ·.out) ∧
          (help = true → two.out = one.out) ∧
          (help = false →
            one.out = segments.flatMap (p ++ ·.allOut) ∧ two.out = segments.flatMap (q ++ ·.allOut))) ∧
    ∀ invocation : Invocation,
      invocation.run = invocation.runOn invocation.host () invocation.console.out ∧
      invocation.host.changeDir = invocation.machine.changeDir ∧
      (invocation.machine.outIsFull = false → invocation.console.out.device.NeverFails) := by
  intro shell
  refine ⟨Request.ofArguments_eq_ok_iff, ?_, ?_, fun invocation =>
    ⟨invocation.run_eq_runOn, invocation.changeDir_host, invocation.out_neverFails⟩⟩
  · intro args args' prompt? verbose verbose' help logFilter logFilter' host host' out hspells hspells'
      hdirs hlaunch one two
    refine runOn_congr rfl hspells hspells' fun hrun => ?_
    exact @run_congr_host _ _ host host' hdirs ⟨shell prompt?, input, { out }⟩ (hlaunch hrun)
  · intro host out hroom hout
    have hconsole : Console.NeverFails { out } := ⟨hout, Device.neverFails_reliable⟩
    obtain ⟨segments, result, after, hsegments⟩ := (shell none).exists_segments host input
    refine ⟨segments, ?_⟩
    intro args args' prompt? prompt'? verbose help logFilter hspells hspells' one two run run' p q
    let first : Invocation := { args, logFilter, input, machine, dir }
    let second : Invocation := { args := args', logFilter, input, machine, dir }
    have hruns (prompt : String) (invocation : Invocation) (h : invocation = first ∨ invocation = second) :
        ({ prompt, dir := invocation.dir, launcher } : Shell Location State).run host invocation.input
          { out } = ⟨prompted prompt segments, result, { after with prompt }⟩ := by
      rcases h with rfl | rfl <;> exact hsegments prompt _ hconsole
    obtain ⟨hstatus, herr, hlog, hhelp, hshown⟩ :=
      @runOn_prompted _ first second _ _ _ _ _ _ _ rfl rfl hroom hspells hspells' _ _ _ hruns
    have hrun : run = _ := hsegments (prompt?.getD defaultPrompt) _ hconsole
    have hrun' : run' = _ := hsegments (prompt'?.getD defaultPrompt) _ hconsole
    rw [hrun, hrun']
    refine ⟨hstatus, herr, hlog, rfl, rfl, rfl, ?_, rfl, rfl, out_prompted _ segments,
      out_prompted _ segments, hhelp, fun h => ⟨?_, ?_⟩⟩
    · exact (launches_prompted _ segments).trans (launches_prompted _ segments).symm
    · exact (hshown h).1.trans (allOut_prompted _ segments)
    · exact (hshown h).2.trans (allOut_prompted _ segments)

/-- A launch and a listing, logged by one filter or another, and behind no prompt or one of two lines. The
hosts differ on a program that is not launched. -/
theorem runOn_flags_launch_listing :
    let changeDir : ChangeDir Location := fun _ _ => .error (.plain .notFound)
    let host := Host.scripted changeDir
    let host' : Host Location (List Outcome) :=
      { host with
        launch := fun place words outcomes =>
          if words = ["env"] then ({ outcome := .exited 1 }, outcomes)
          else host.launch place words outcomes }
    let input : Source := [.piece (Utf8.encode "ls\nhistory\n")]
    let machine := Machine.standard [] false
    let invoke := fun args logFilter =>
      ({ args, logFilter, input, machine, dir := [] } : Invocation)
    let plain := (invoke [] none).runOn host [] {}
    let logged := (invoke ["-v"] (some "trace")).runOn host' [] {}
    let bare := (invoke ["--prompt", ""] none).runOn host [] {}
    let broken := (invoke ["--prompt", "a\nb"] none).runOn host [] {}
    plain.out = Utf8.encode "> >  1 ls\n 2 history\n> " ∧
      logged.status = plain.status ∧ logged.out = plain.out ∧ logged.err = plain.err ∧
      broken.status = bare.status ∧
      ∃ segments : List (Trace Location),
        bare.out = segments.flatMap ([] ++ ·.allOut) ∧
        broken.out = segments.flatMap (Utf8.encode "a\nb" ++ ·.allOut) := by
  intro changeDir host host' input machine invoke plain logged bare broken
  let shell : Shell Location (List Outcome) := { prompt := defaultPrompt, dir := [], launcher := [] }
  let run := shell.run host input {}
  have hreliable := Device.neverFails_reliable
  have hrun : run = _ := run_eq_of_delivers host shell (Source.delivers_piece _) (.inr (by decide))
    ⟨hreliable, hreliable⟩ (by decide)
  have hout : plain.out = Utf8.encode "> >  1 ls\n 2 history\n> " := by
    have hplain : plain = (invoke [] none).completionOf _ run :=
      (invoke [] none).runOn_of_spells host [] {} .nil
    rw [hplain, out_completionOf _ rfl, hrun]
    decide
  have hlaunch (words : List String) (place : Location) (h : (words, place) ∈ run.trace.launches)
      (launcher : List Outcome) :
      host'.launch place words launcher = host.launch place words launcher := by
    have hlaunches : run.trace.launches = [(["ls"], [])] := by
      rw [hrun]
      decide
    rw [hlaunches] at h
    obtain ⟨rfl, rfl⟩ : words = ["ls"] ∧ place = [] := by simpa using h
    rfl
  obtain ⟨-, hlogs, hprompts, -⟩ := runOn_flags input machine [] ([] : List Outcome)
  obtain ⟨hstatus, hsame, herr⟩ :=
    hlogs [] ["-v"] none false true false none (some "trace") host host' {} .nil
      (.verbose "-v" (.inl rfl) .nil) rfl fun _ => hlaunch
  obtain ⟨segments, hsegments⟩ := hprompts host {} rfl hreliable
  obtain ⟨hstatus', -, -, -, -, -, -, -, -, -, -, -, hbehind⟩ :=
    hsegments ["--prompt", ""] ["--prompt", "a\nb"] (some "") (some "a\nb") false false none
      (.prompt "" .nil) (.prompt "a\nb" .nil)
  obtain ⟨hbare, hbroken⟩ := hbehind rfl
  exact ⟨hout, hstatus, hsame, herr, hstatus', segments, hbare, hbroken⟩

end Invocation

end LineShell
