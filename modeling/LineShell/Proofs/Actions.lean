import LineShell.Proofs.Turns
/-!
# A command as a list of actions

What a command does is a list of actions: it logs notes, prints, launches and reports. Which actions
these are is settled by its words, the history, the directory and the launcher, and by no stream; the
streams only settle what comes of each action (`dispatch_eq`). So two shells that differ in their streams
alone go through the same actions, and can be compared action by action: what every action keeps, a
command keeps, and a line (`Console.Lockstep`). What a prompt and the last flush keep as well, a whole run
keeps (`Console.Tandem`).
-/

namespace LineShell

variable {Dir State : Type}

/-- One thing that a command does. -/
inductive Action (Dir : Type) where
  /-- It logs a note. -/
  | note (note : Note)
  /-- It prints pieces, and reports the failure if that fails. -/
  | print (pieces : List String)
  /-- It flushes standard output, however that goes, and launches these words in this directory. -/
  | launch (name : String) (rest : List String) (dir : Dir) (launch : Launch)
  /-- It reports an error. -/
  | report (error : ShellError)

/-- The actions of a command. The error that it ends with, if all output works, is reported last. -/
def actionsOf (host : Host Dir State) (history : History) (dir : Dir) (launcher : State)
    (args : List String) : List (Action Dir) :=
  let failure := failureOf host dir launcher args
  let actions : List (Action Dir) := match args with
    | [] => []
    | name :: rest =>
      if isLaunched args then [.launch name rest dir (host.launch dir args launcher).1]
      else .note (.runningBuiltin name) ::
        if name = "help" then [.print (Builtin.helpPieces Registry.standardNames)]
        else if name = "history" then [.print (Builtin.historyPieces history)]
        else if name = "cd" ∧ failure.isNone then rest.head?.toList.map (.note <| .changedDirectory ·)
        else []
  actions ++ failure.toList.map .report

namespace Console

/-- What comes of an action on a console. -/
def perform (console : Console) : Action Dir → Trace Dir × Console
  | .note note => ([.note note], console)
  | .print pieces =>
    let shown := console.print (pieces.map Utf8.encode)
    match shown.fault? with
    | none => (shown.trace, shown.console)
    | some fault =>
      let reported := shown.console.report (.io fault)
      (shown.trace ++ reported.1, reported.2)
  | .launch name rest dir launch =>
    let flushed := console.flush
    (flushed.trace ++ unflushedNotes .unflushedBeforeLaunch flushed.fault?
        ++ .launch (name :: rest) dir :: launch.notes.map .note
        ++ [.childOut launch.out, .childErr launch.err, .note (outcomeNote name launch.outcome)],
      flushed.console)
  | .report error => console.report error

/-- What comes of actions one after another. -/
def performAll (console : Console) : List (Action Dir) → Trace Dir × Console
  | [] => ([], console)
  | action :: actions =>
    let first := console.perform action
    let later := first.2.performAll actions
    (first.1 ++ later.1, later.2)

theorem performAll_cons (console : Console) (action : Action Dir) (actions : List (Action Dir)) :
    console.performAll (action :: actions)
      = ((console.perform action).1 ++ ((console.perform action).2.performAll actions).1,
          ((console.perform action).2.performAll actions).2) := rfl

theorem performAll_nil (console : Console) :
    console.performAll ([] : List (Action Dir)) = ([], console) := rfl

end Console

section
variable {host : Host Dir State} {history : History} {dir : Dir} {launcher : State} {name : String}
  {rest : List String}

theorem actionsOf_of_isLaunched (h : isLaunched (name :: rest)) :
    actionsOf host history dir launcher (name :: rest)
      = .launch name rest dir (host.launch dir (name :: rest) launcher).1
          :: (failureOf host dir launcher (name :: rest)).toList.map .report := by
  simp [actionsOf, h]

/-- The two builtins that print do nothing else. -/
theorem actionsOf_of_prints {pieces : List String}
    (h : name = "help" ∧ pieces = Builtin.helpPieces Registry.standardNames ∨
      name = "history" ∧ pieces = Builtin.historyPieces history) :
    actionsOf host history dir launcher (name :: rest) = [.note (.runningBuiltin name), .print pieces] := by
  rcases h with ⟨rfl, rfl⟩ | ⟨rfl, rfl⟩ <;> simp [actionsOf, failureOf, isLaunched]

theorem actionsOf_cd :
    actionsOf host history dir launcher ("cd" :: rest)
      = .note (.runningBuiltin "cd") :: match failureOf host dir launcher ("cd" :: rest) with
          | none => rest.head?.toList.map (.note <| .changedDirectory ·)
          | some error => [.report error] := by
  cases h : failureOf host dir launcher ("cd" :: rest) <;> simp [actionsOf, isLaunched, h]

end

section
variable (host : Host Dir State) (history : History) (launcher : State) (console : Console) (dir : Dir)

/-- A builtin that prints, told as actions. -/
theorem runBuiltin_of_printThen {builtin : Builtin Dir} {context : Context Dir}
    {args pieces : List String} {bench : Bench Dir}
    (h : builtin.run context args bench
      = bench.printThen (pieces.map Utf8.encode) (.ok .proceed)) :
    let actions : List (Action Dir) := [.note (.runningBuiltin builtin.name), .print pieces]
    (runBuiltin builtin context args bench).1 = (bench.console.performAll actions).1 ∧
      (runBuiltin builtin context args bench).2.1.console = (bench.console.performAll actions).2 := by
  simp only [runBuiltin, h, Bench.printThen, Console.performAll_cons, Console.performAll_nil,
    Console.perform]
  cases (bench.console.print (pieces.map Utf8.encode) : Shown Dir).fault? <;> simp

/-- A launch told as actions. -/
theorem launchProgram_eq_perform (name : String) (rest : List String)
    (h : isLaunched (name :: rest)) :
    let done := launchProgram host name (name :: rest) ⟨console, dir⟩ launcher
    let performed := console.performAll (actionsOf host history dir launcher (name :: rest))
    done.trace = performed.1 ∧ done.bench.console = performed.2 := by
  rw [actionsOf_of_isLaunched h, failureOf_of_isLaunched h]
  cases houtcome : (host.launch dir (name :: rest) launcher).1.outcome <;>
    simp [launchProgram, Console.performAll, Console.perform, houtcome]

theorem dispatch_eq_perform (args : List String) :
    let done := dispatch host history args ⟨console, dir⟩ launcher
    let performed := console.performAll (actionsOf host history dir launcher args)
    done.trace = .dispatch args history :: performed.1 ∧ done.bench.console = performed.2 := by
  suffices h : (carryOut host history args ⟨console, dir⟩ launcher).trace
        = (console.performAll (actionsOf host history dir launcher args)).1 ∧
      (carryOut host history args ⟨console, dir⟩ launcher).bench.console
        = (console.performAll (actionsOf host history dir launcher args)).2 from
    ⟨congrArg _ h.1, h.2⟩
  unfold carryOut
  cases args with
  | nil => exact ⟨rfl, rfl⟩
  | cons name rest =>
    simp only [Registry.find?_standard]
    by_cases hcd : name = "cd"
    · subst hcd
      rw [actionsOf_cd]
      cases rest with
      | nil => exact ⟨rfl, rfl⟩
      | cons target rest =>
        cases hdir : host.changeDir dir target <;>
          simp [runBuiltin, Builtin.cd, failureOf, hdir, Console.performAll, Console.perform]
    by_cases hhelp : name = "help"
    · subst hhelp
      rw [actionsOf_of_prints (.inl ⟨rfl, rfl⟩)]
      exact runBuiltin_of_printThen rfl
    by_cases hexit : name = "exit"
    · subst hexit
      exact ⟨rfl, rfl⟩
    by_cases hhistory : name = "history"
    · subst hhistory
      rw [actionsOf_of_prints (.inr ⟨rfl, rfl⟩)]
      exact runBuiltin_of_printThen rfl
    · simp only [hcd, hhelp, hexit, hhistory, if_false]
      exact launchProgram_eq_perform host history launcher console dir name rest
        (by simp [isLaunched, hcd, hhelp, hexit, hhistory])

/-- A command performs its actions. The streams have no part in anything else that it comes to. -/
theorem dispatch_eq (args : List String) :
    dispatch host history args ⟨console, dir⟩ launcher
      = let performed := console.performAll (actionsOf host history dir launcher args)
        ⟨.dispatch args history :: performed.1, ⟨performed.2, dirAfter host dir args⟩,
          launcherAfter host dir launcher args, if endsShell args then .stop else .proceed⟩ := by
  have heffect : Effect host history ⟨console, dir⟩ launcher args _ := effect_dispatch args
  obtain ⟨htrace, hconsole⟩ := dispatch_eq_perform host history launcher console dir args
  dsimp only
  rw [← heffect.signal_eq, ← heffect.launcher_eq, ← htrace, ← hconsole, ← heffect.dir_eq]

end

/-! ## Two consoles in step -/

/-- `InStep` relates what two consoles have come to, the traces and the consoles themselves. It is kept when
the same step of the shell is added to both traces, and when both consoles perform the same action. -/
structure Console.Lockstep (InStep : Trace Dir → Trace Dir → Console → Console → Prop) : Prop where
  step {s s' : Trace Dir} {first second : Console} (event : Event Dir) (hstep : event.isStep) :
    InStep s s' first second → InStep (s ++ [event]) (s' ++ [event]) first second
  perform {s s' : Trace Dir} {first second : Console} (action : Action Dir) :
    InStep s s' first second →
      InStep (s ++ (first.perform action).1) (s' ++ (second.perform action).1)
        (first.perform action).2 (second.perform action).2

namespace Console.Lockstep

variable {InStep : Trace Dir → Trace Dir → Console → Console → Prop} {s s' : Trace Dir}

theorem performAll (hkept : Lockstep InStep) {first second : Console} (h : InStep s s' first second)
    (actions : List (Action Dir)) :
    InStep (s ++ (first.performAll actions).1) (s' ++ (second.performAll actions).1)
      (first.performAll actions).2 (second.performAll actions).2 := by
  induction actions generalizing s s' first second with
  | nil => simpa only [performAll_nil, List.append_nil] using h
  | cons action actions ih =>
    simpa only [performAll_cons, List.append_assoc] using ih (hkept.perform action h)

theorem dispatch (hkept : Lockstep InStep) {first second : Console} (h : InStep s s' first second)
    (host : Host Dir State) (history : History) (dir : Dir) (launcher : State) (args : List String) :
    let done := dispatch host history args ⟨first, dir⟩ launcher
    let done' := dispatch host history args ⟨second, dir⟩ launcher
    InStep (s ++ done.trace) (s' ++ done'.trace) done.bench.console done'.bench.console := by
  have hactions := hkept.performAll (hkept.step (.dispatch args history) rfl h)
    (actionsOf host history dir launcher args)
  simpa only [dispatch_eq, List.append_assoc, List.singleton_append] using hactions

/-- Two shells that have shown their prompts in step carry out a line in step. -/
theorem line (hkept : Lockstep InStep) {first second : Head Dir State}
    (hshell : second.shell = first.shell)
    (h : InStep (s ++ first.shown.trace) (s' ++ second.shown.trace) first.shown.console
      second.shown.console)
    (host : Host Dir State) (line : String) :
    InStep (s ++ (first.shown.trace ++ .read (.line line) :: (first.done host line).trace))
      (s' ++ (second.shown.trace ++ .read (.line line) :: (second.done host line).trace))
      (first.done host line).bench.console (second.done host line).bench.console := by
  have hread := hkept.step (.read (.line line)) rfl h
  have hdone := hkept.dispatch hread host (first.shell.history.record (words line)) first.shell.dir
    first.shell.launcher (words line)
  unfold Head.done
  rw [hshell]
  simpa only [List.append_assoc, List.singleton_append] using hdone

end Console.Lockstep

/-- What is kept through whole runs: it is also kept when both consoles show a prompt, which is then shown on
both or fails alike, and when both are flushed for the last time. -/
structure Console.Tandem (InStep : Trace Dir → Trace Dir → Console → Console → Prop) : Prop where
  lockstep : Lockstep InStep
  prompt {s s' : Trace Dir} {first second : Console} (text : String) : InStep s s' first second →
    let shown : Shown Dir := first.prompt text
    let shown' : Shown Dir := second.prompt text
    shown'.fault? = shown.fault? ∧
      InStep (s ++ shown.trace) (s' ++ shown'.trace) shown.console shown'.console
  finish {s s' : Trace Dir} {first second : Console} : InStep s s' first second →
    let flushed : Shown Dir := first.flush
    let flushed' : Shown Dir := second.flush
    InStep (s ++ (flushed.trace ++ unflushedNotes .unflushedOnExit flushed.fault?))
      (s' ++ (flushed'.trace ++ unflushedNotes .unflushedOnExit flushed'.fault?))
      flushed.console flushed'.console

/-- Two runs that have come to the same, but for what is observed of the consoles. -/
def Run.Abreast (InStep : Trace Dir → Trace Dir → Console → Console → Prop) (s s' : Trace Dir)
    (first second : Run Dir State) : Prop :=
  ∃ trace, second = { first with trace } ∧
    ∃ console console', InStep (s ++ first.trace) (s' ++ trace) console console'

namespace Console.Tandem

variable {InStep : Trace Dir → Trace Dir → Console → Console → Prop} {s s' : Trace Dir}

theorem shell_finish (hkept : Tandem InStep) {t t' : Trace Dir} {first second : Console}
    (h : InStep (s ++ t) (s' ++ t') first second) (shell : Shell Dir State) :
    Run.Abreast InStep s s' (shell.finish t first) (shell.finish t' second) :=
  ⟨_, rfl, _, _, by simpa only [Shell.finish, List.append_assoc] using hkept.finish h⟩

/-- One shell runs in step on two consoles. -/
theorem run (hkept : Tandem InStep) {first second : Head Dir State}
    (hshell : second.shell = first.shell) (hsource : second.source = first.source)
    (h : InStep s s' first.console second.console) (host : Host Dir State) :
    Run.Abreast InStep s s' (first.run host) (second.run host) := by
  refine turn_induction host (fun first => ∀ (second : Head Dir State) (s s' : Trace Dir),
    second.shell = first.shell → second.source = first.source →
      InStep s s' first.console second.console →
        Run.Abreast InStep s s' (first.run host) (second.run host))
    ?_ first second s s' hshell hsource h
  rintro first ih ⟨_, _, console⟩ s s' rfl rfl h
  let second : Head Dir State := ⟨first.shell, first.source, console⟩
  obtain ⟨hfault, hshown⟩ : second.shown.fault? = first.shown.fault? ∧
      InStep (s ++ first.shown.trace) (s' ++ second.shown.trace) first.shown.console
        second.shown.console := hkept.prompt first.shell.prompt h
  have hshell : second.shell = first.shell := rfl
  have hline := hkept.lockstep.line hshell hshown host
  rcases turn_or_last host first with ⟨trace, next, hturn⟩ | ⟨run, hlast⟩
  · cases hturn with
    | mk line rest hfirst hread hends =>
      have hturn : Turn host first _ _ := .mk line rest hfirst hread hends
      have hturn' : Turn host second _ _ := .mk line rest (hfault.trans hfirst) hread hends
      let after : Head Dir State :=
        ⟨first.shell.after host (words line), rest, (second.done host line).bench.console⟩
      obtain ⟨later, hlater, hinStep⟩ := ih _ _ hturn after _ _ rfl rfl (hline line)
      rw [run_of_turn hturn, run_of_turn hturn', hlater]
      exact ⟨_, rfl, by simpa only [Run.following, List.append_assoc] using hinStep⟩
  · rw [run_of_last hlast]
    cases hlast with
    | unshown fault hfirst =>
      rw [run_of_last (.unshown fault (hfault.trans hfirst))]
      exact ⟨_, rfl, _, _, hshown⟩
    | unread fault rest hfirst hread =>
      rw [run_of_last (.unread fault rest (hfault.trans hfirst) hread)]
      have hlast := hkept.lockstep.step (.read (.failed fault)) rfl hshown
      exact ⟨_, rfl, _, _, by simpa only [List.append_assoc] using hlast⟩
    | ended rest hfirst hread =>
      rw [run_of_last (.ended rest (hfault.trans hfirst) hread)]
      have hlast := hkept.lockstep.perform (.note .endOfInput)
        (hkept.lockstep.step (.read .endOfInput) rfl hshown)
      refine hkept.shell_finish ?_ first.shell
      simpa only [perform, List.append_assoc, List.singleton_append] using hlast
    | exited line rest hfirst hread hends =>
      rw [run_of_last (.exited line rest (hfault.trans hfirst) hread hends)]
      exact hkept.shell_finish (hline line) (first.shell.after host (words line))

end Console.Tandem

end LineShell
