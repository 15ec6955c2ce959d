import LineShell.Session
import LineShell.Proofs.Consoles
/-!
# What a command does

The first part says what a command should come to, without looking at any stream: whether it ends
the shell, whether it is launched, what it prints, what it fails with, and where it leaves the
shell. `Effect` then lists the ways in which carrying out a command can go, and `effect_dispatch`
says that there are no others. The lemmas behind it are case analyses over `Effect`, so none of them
looks at the builtins again.
-/

namespace LineShell

variable {Dir State : Type}

/-! ## What a command should come to -/

/-- Whether a command ends the shell. -/
def endsShell (args : List String) : Bool := args.head? == some "exit"

/-- Whether a command is launched: it has a first word, and that is not the name of a builtin. -/
def isLaunched : List String → Bool
  | [] => false
  | name :: _ => name ∉ ["cd", "help", "exit", "history"]

/-- The text that `help` prints. -/
def helpText : String :=
  String.join ["Type program names and arguments, and hit enter.\n",
    "The following are built-in commands:\n", "  cd\n", "  help\n", "  exit\n", "  history\n",
    "Use the man command for information on other programs.\n"]

/-- The text that `history` prints: each entry on a line of its own, behind its number. -/
def listingText (entries : List String) : String :=
  String.join (entries.mapIdx fun i entry => " " ++ (i + 1).repr ++ " " ++ entry ++ "\n")

/-- What a command prints when these entries are in the history. -/
def printed (entries : List String) (args : List String) : String :=
  if args.head? = some "help" then helpText
  else if args.head? = some "history" then listingText entries
  else ""

/-- The error that a command ends with when all output works. -/
def failureOf (host : Host Dir State) (dir : Dir) (launcher : State) (args : List String) :
    Option ShellError :=
  if args.head? = some "cd" then
    match args[1]? with
    | none => some (.missingArgument "cd")
    | some target =>
      match host.changeDir dir target with
      | .ok _ => none
      | .error fault => some (.changeDir fault)
  else if isLaunched args then
    match (host.launch dir args launcher).1.outcome with
    | .failed fault => some (.launch fault)
    | _ => none
  else none

/-- The directory after a command. -/
def dirAfter (host : Host Dir State) (dir : Dir) (args : List String) : Dir :=
  if args.head? = some "cd" then
    match args[1]? with
    | none => dir
    | some target =>
      match host.changeDir dir target with
      | .ok there => there
      | .error _ => dir
  else dir

/-- The launcher's state after a command. -/
def launcherAfter (host : Host Dir State) (dir : Dir) (launcher : State) (args : List String) :
    State :=
  if isLaunched args then (host.launch dir args launcher).2 else launcher

/-- The shell after a line with these words. -/
def Shell.after (host : Host Dir State) (shell : Shell Dir State) (args : List String) :
    Shell Dir State :=
  { shell with
    history := shell.history.record args
    dir := dirAfter host shell.dir args
    launcher := launcherAfter host shell.dir shell.launcher args }

/-! ## The texts of the two builtins that print -/

theorem join_helpPieces : String.join (Builtin.helpPieces Registry.standardNames) = helpText := by
  simp [Builtin.helpPieces, Builtin.helpHeader, Builtin.helpFooter, Registry.standardNames, helpText]

/-- A listing is written line by line. -/
theorem join_historyPieces_eq_lines (history : History) :
    String.join (Builtin.historyPieces history) = String.join (history.listing.map (· ++ "\n")) := by
  unfold Builtin.historyPieces
  induction history.listing with
  | nil => rfl
  | cons line lines ih => simp [String.join_cons, ih, String.append_assoc]

theorem join_historyPieces (history : History) :
    String.join (Builtin.historyPieces history) = listingText history.entries := by
  unfold listingText
  rw [join_historyPieces_eq_lines, History.listing, List.mapIdx_eq_zipIdx_map,
    List.mapIdx_eq_zipIdx_map, List.map_map]
  rfl

/-! ## The ways a command can go -/

section
variable (host : Host Dir State) (history : History) (bench : Bench Dir) (launcher : State)

/-- The ways in which carrying out a command can go. -/
inductive Effect : List String → Dispatched Dir State → Prop
  | blank : Effect [] ⟨[.dispatch [] history], bench, launcher, .proceed⟩
  | exit (rest : List String) :
      Effect ("exit" :: rest)
        ⟨[.dispatch ("exit" :: rest) history, .note (.runningBuiltin "exit")], bench, launcher, .stop⟩
  | moved (target : String) (rest : List String) (dir : Dir) :
      host.changeDir bench.dir target = .ok dir →
      Effect ("cd" :: target :: rest)
        ⟨[.dispatch ("cd" :: target :: rest) history, .note (.runningBuiltin "cd"),
          .note (.changedDirectory target)], { bench with dir }, launcher, .proceed⟩
  | notMoved (rest : List String) (error : ShellError) (reported : Trace Dir × Console) :
      failureOf host bench.dir launcher ("cd" :: rest) = some error →
      dirAfter host bench.dir ("cd" :: rest) = bench.dir →
      bench.console.report error = reported →
      Effect ("cd" :: rest)
        ⟨.dispatch ("cd" :: rest) history :: .note (.runningBuiltin "cd") :: reported.1,
          { bench with console := reported.2 }, launcher, .proceed⟩
  | printed (name : String) (rest : List String) (pieces : List String) (shown : Shown Dir) :
      name = "help" ∨ name = "history" →
      String.join pieces = printed history.entries (name :: rest) →
      bench.console.print (pieces.map Utf8.encode) = shown → shown.fault? = none →
      Effect (name :: rest)
        ⟨.dispatch (name :: rest) history :: .note (.runningBuiltin name) :: shown.trace,
          { bench with console := shown.console }, launcher, .proceed⟩
  | notPrinted (name : String) (rest : List String) (pieces : List String) (shown : Shown Dir)
      (fault : Fault) (reported : Trace Dir × Console) :
      name = "help" ∨ name = "history" →
      String.join pieces = LineShell.printed history.entries (name :: rest) →
      bench.console.print (pieces.map Utf8.encode) = shown → shown.fault? = some fault →
      shown.console.report (.io fault) = reported →
      Effect (name :: rest)
        ⟨.dispatch (name :: rest) history :: .note (.runningBuiltin name) :: shown.trace
          ++ reported.1, { bench with console := reported.2 }, launcher, .proceed⟩
  | launched (name : String) (rest : List String) (flushed : Shown Dir) (launch : Launch)
      (state : State) :
      isLaunched (name :: rest) → (∀ fault, launch.outcome ≠ .failed fault) →
      bench.console.flush = flushed →
      host.launch bench.dir (name :: rest) launcher = (launch, state) →
      Effect (name :: rest)
        ⟨.dispatch (name :: rest) history :: (flushed.trace
            ++ unflushedNotes .unflushedBeforeLaunch flushed.fault?
            ++ .launch (name :: rest) bench.dir :: launch.notes.map .note
            ++ [.childOut launch.out, .childErr launch.err,
              .note (outcomeNote name launch.outcome)]),
          { bench with console := flushed.console }, state, .proceed⟩
  | notLaunched (name : String) (rest : List String) (flushed : Shown Dir) (launch : Launch)
      (state : State) (fault : Fault) (reported : Trace Dir × Console) :
      isLaunched (name :: rest) → launch.outcome = .failed fault →
      bench.console.flush = flushed →
      host.launch bench.dir (name :: rest) launcher = (launch, state) →
      flushed.console.report (.launch fault) = reported →
      Effect (name :: rest)
        ⟨.dispatch (name :: rest) history :: (flushed.trace
            ++ unflushedNotes .unflushedBeforeLaunch flushed.fault?
            ++ .launch (name :: rest) bench.dir :: launch.notes.map .note
            ++ [.childOut launch.out, .childErr launch.err,
              .note (outcomeNote name launch.outcome)]
            ++ reported.1),
          { bench with console := reported.2 }, state, .proceed⟩

end

variable {host : Host Dir State} {history : History} {bench : Bench Dir} {launcher : State}

theorem effect_cd (rest : List String) :
    Effect host history bench launcher ("cd" :: rest)
      (dispatch host history ("cd" :: rest) bench launcher) := by
  unfold dispatch carryOut
  cases rest with
  | nil => exact .notMoved [] (.missingArgument "cd") _ rfl rfl rfl
  | cons target rest =>
    cases h : host.changeDir bench.dir target with
    | ok dir =>
      have he : Effect host history bench launcher _ _ := .moved target rest dir h
      simpa [Registry.find?_standard, runBuiltin, Builtin.cd, h] using he
    | error fault =>
      have hfails : failureOf host bench.dir launcher ("cd" :: target :: rest)
          = some (.changeDir fault) := by simp [failureOf, h]
      have hdir : dirAfter host bench.dir ("cd" :: target :: rest) = bench.dir := by
        simp [dirAfter, h]
      have he : Effect host history bench launcher _ _ :=
        .notMoved (target :: rest) _ _ hfails hdir rfl
      simpa [Registry.find?_standard, runBuiltin, Builtin.cd, h] using he

/-- The two builtins that print, for the pieces each of them prints. -/
theorem effect_print {name : String} {rest pieces : List String}
    (hname : name = "help" ∨ name = "history")
    (hpieces : String.join pieces = printed history.entries (name :: rest))
    (hfind : ∃ builtin, Registry.standard.find? name = some builtin ∧ builtin.name = name ∧
      builtin.run ⟨history, Registry.standardNames, host.changeDir⟩ (name :: rest) bench
        = bench.printThen (pieces.map Utf8.encode) (.ok .proceed)) :
    Effect host history bench launcher (name :: rest)
      (dispatch host history (name :: rest) bench launcher) := by
  obtain ⟨builtin, hfind, hbuiltin, hrun⟩ := hfind
  unfold dispatch carryOut
  simp only [hfind, runBuiltin, hrun, hbuiltin, Bench.printThen]
  cases hfault : (bench.console.print (pieces.map Utf8.encode) : Shown Dir).fault? with
  | none => exact .printed name rest pieces _ hname hpieces rfl hfault
  | some fault => exact .notPrinted name rest pieces _ fault _ hname hpieces rfl hfault rfl

/-- What is launched is what no builtin has the name of. -/
theorem find?_eq_none_iff_isLaunched (name : String) (rest : List String) :
    (Registry.standard : Registry Dir).find? name = none ↔ isLaunched (name :: rest) := by
  rw [Registry.find?_eq_none_iff, Registry.names_standard]
  simp [isLaunched, Registry.standardNames]

theorem effect_launch {name : String} (rest : List String) (hname : isLaunched (name :: rest)) :
    Effect host history bench launcher (name :: rest)
      (dispatch host history (name :: rest) bench launcher) := by
  have hfind := (@find?_eq_none_iff_isLaunched Dir name rest).2 hname
  rcases hlaunch : host.launch bench.dir (name :: rest) launcher with ⟨launch, state⟩
  unfold dispatch carryOut
  simp only [hfind]
  unfold launchProgram
  rw [hlaunch]
  cases houtcome : launch.outcome with
  | failed fault =>
    have he : Effect host history bench launcher _ _ :=
      .notLaunched name rest _ launch state fault _ hname houtcome rfl hlaunch rfl
    simpa only [houtcome] using he
  | exited code =>
    have he : Effect host history bench launcher _ _ :=
      .launched name rest _ launch state hname (by simp [houtcome]) rfl hlaunch
    simpa only [houtcome] using he
  | killed signal =>
    have he : Effect host history bench launcher _ _ :=
      .launched name rest _ launch state hname (by simp [houtcome]) rfl hlaunch
    simpa only [houtcome] using he

/-- A command goes in one of these ways. -/
theorem effect_dispatch (args : List String) :
    Effect host history bench launcher args (dispatch host history args bench launcher) := by
  cases args with
  | nil => exact .blank
  | cons name rest =>
    by_cases hcd : name = "cd"
    · exact hcd ▸ effect_cd rest
    by_cases hhelp : name = "help"
    · subst hhelp
      exact effect_print (.inl rfl) join_helpPieces ⟨Builtin.help, rfl, rfl, rfl⟩
    by_cases hexit : name = "exit"
    · subst hexit
      exact .exit rest
    by_cases hhistory : name = "history"
    · subst hhistory
      exact effect_print (.inr rfl) (join_historyPieces history) ⟨Builtin.history, rfl, rfl, rfl⟩
    · exact effect_launch rest (by simp [isLaunched, hcd, hhelp, hexit, hhistory])

/-! ## What all the ways have in common -/

theorem ne_of_isLaunched {name : String} {rest : List String} (h : isLaunched (name :: rest)) :
    name ≠ "cd" ∧ name ≠ "help" ∧ name ≠ "exit" ∧ name ≠ "history" := by
  simpa [isLaunched] using h

theorem endsShell_of_isLaunched {args : List String} (h : isLaunched args) :
    endsShell args = false := by
  cases args with
  | nil => rfl
  | cons name rest => simp [endsShell, ne_of_isLaunched h]

theorem printed_of_endsShell {args : List String} (h : endsShell args) (entries : List String) :
    printed entries args = "" := by
  cases args with
  | nil => rfl
  | cons name rest =>
    obtain rfl : name = "exit" := by simpa [endsShell] using h
    rfl

theorem printed_of_isLaunched {args : List String} (h : isLaunched args) (entries : List String) :
    printed entries args = "" := by
  cases args with
  | nil => rfl
  | cons name rest => simp [printed, ne_of_isLaunched h]

theorem dirAfter_of_isLaunched {args : List String} (h : isLaunched args) (dir : Dir) :
    dirAfter host dir args = dir := by
  cases args with
  | nil => rfl
  | cons name rest => simp [dirAfter, ne_of_isLaunched h]

theorem failureOf_of_isLaunched {args : List String} (h : isLaunched args) (dir : Dir) :
    failureOf host dir launcher args
      = match (host.launch dir args launcher).1.outcome with
        | .failed fault => some (.launch fault)
        | _ => none := by
  cases args with
  | nil => cases h
  | cons name rest => simp [failureOf, ne_of_isLaunched h, h]

namespace Effect

variable {args : List String} {done : Dispatched Dir State}

theorem signal_eq (h : Effect host history bench launcher args done) :
    done.signal = if endsShell args then .stop else .proceed := by
  cases h with
  | blank | exit | moved | notMoved => rfl
  | printed name rest _ _ hname | notPrinted name rest _ _ _ _ hname =>
    rcases hname with rfl | rfl <;> rfl
  | launched _ _ _ _ _ hl | notLaunched _ _ _ _ _ _ _ hl => rw [endsShell_of_isLaunched hl]; rfl

theorem dir_eq (h : Effect host history bench launcher args done) :
    done.bench.dir = dirAfter host bench.dir args := by
  cases h with
  | blank | exit => rfl
  | moved target rest dir hdir => simp [dirAfter, hdir]
  | notMoved _ _ _ _ hdir => exact hdir.symm
  | printed name rest _ _ hname | notPrinted name rest _ _ _ _ hname =>
    rcases hname with rfl | rfl <;> rfl
  | launched _ _ _ _ _ hl | notLaunched _ _ _ _ _ _ _ hl => rw [dirAfter_of_isLaunched hl]

theorem launcher_eq (h : Effect host history bench launcher args done) :
    done.launcher = launcherAfter host bench.dir launcher args := by
  cases h with
  | blank | exit | moved | notMoved => rfl
  | printed name rest _ _ hname | notPrinted name rest _ _ _ _ hname =>
    rcases hname with rfl | rfl <;> rfl
  | launched _ _ _ _ _ hl _ _ hlaunch | notLaunched _ _ _ _ _ _ _ hl _ _ hlaunch =>
    rw [launcherAfter, if_pos hl, hlaunch]

/-- The streams and the history have no part in what a command leads to. -/
theorem agree {history' : History} {bench' : Bench Dir} {done' : Dispatched Dir State}
    (h : Effect host history bench launcher args done)
    (h' : Effect host history' bench' launcher args done') (hdir : bench'.dir = bench.dir) :
    done'.signal = done.signal ∧ done'.bench.dir = done.bench.dir ∧ done'.launcher = done.launcher := by
  rw [h.signal_eq, h'.signal_eq, h.dir_eq, h'.dir_eq, h.launcher_eq, h'.launcher_eq, hdir]
  exact ⟨rfl, rfl, rfl⟩

theorem trace_eq_cons (h : Effect host history bench launcher args done) :
    ∃ rest : Trace Dir, done.trace = .dispatch args history :: rest := by
  cases h <;> exact ⟨_, rfl⟩

/-- The steps of a command: its dispatch, and a launch of its words where it stands, or none. -/
theorem steps_eq (h : Effect host history bench launcher args done) :
    done.trace.steps
      = .dispatch args history :: if isLaunched args then [.launch args bench.dir] else [] := by
  cases h with
  | blank | exit | moved => rfl
  | notMoved _ _ _ _ _ hreport =>
    subst hreport
    rfl
  | printed _ _ _ _ hname _ hprint =>
    subst hprint
    rcases hname with rfl | rfl <;> rfl
  | notPrinted _ _ _ _ _ _ hname _ hprint _ hreport =>
    subst hprint hreport
    rcases hname with rfl | rfl <;> rfl
  | launched name rest flushed launch _ hl _ hflush =>
    subst hflush
    simp [Console.flush, Event.isStep, hl]
  | notLaunched _ _ flushed launch _ _ _ hl _ hflush _ hreport =>
    subst hflush hreport
    simp [Console.flush, Console.report, Event.isStep, hl]

theorem trace_of_endsShell (h : Effect host history bench launcher args done)
    (hends : endsShell args) :
    done.trace = [.dispatch args history, .note (.runningBuiltin "exit")] := by
  cases h with
  | exit => rfl
  | blank | moved | notMoved => cases hends
  | printed name rest _ _ hname | notPrinted name rest _ _ _ _ hname =>
    rcases hname with rfl | rfl <;> cases hends
  | launched _ _ _ _ _ hl | notLaunched _ _ _ _ _ _ _ hl =>
    rw [endsShell_of_isLaunched hl] at hends
    cases hends

theorem readings_eq (h : Effect host history bench launcher args done) : done.trace.readings = [] := by
  rw [← Trace.readings_steps, h.steps_eq]
  split <;> rfl

theorem launches_eq (h : Effect host history bench launcher args done) :
    done.trace.launches = if isLaunched args then [(args, bench.dir)] else [] := by
  rw [← Trace.launches_steps, h.steps_eq]
  split <;> rfl

/-! Standard output. -/

/-- On an output that never fails, a command prints all that it should. -/
theorem out_of_neverFails (h : Effect host history bench launcher args done)
    (hout : bench.console.out.device.NeverFails) :
    done.trace.out = Utf8.encode (LineShell.printed history.entries args) ∧
      done.bench.console.out.device.NeverFails := by
  cases h with
  | blank | exit | moved => exact ⟨rfl, hout⟩
  | notMoved _ _ _ _ _ hreport =>
    subst hreport
    exact ⟨rfl, hout⟩
  | printed name rest pieces _ _ hpieces hprint =>
    obtain ⟨out, hafter, hshown⟩ := Console.print_of_neverFails hout pieces
    obtain rfl := hprint.symm.trans hshown
    exact ⟨by simp [hpieces], hafter⟩
  | notPrinted name rest pieces _ _ _ _ _ hprint hfault =>
    obtain ⟨out, -, hshown⟩ := Console.print_of_neverFails hout pieces
    obtain rfl := hprint.symm.trans hshown
    cases hfault
  | launched name rest _ launch _ hl _ hflush =>
    subst hflush
    rw [printed_of_isLaunched hl]
    refine ⟨?_, hout⟩
    simp [Console.flush, Utf8.encode]
  | notLaunched name rest _ launch _ _ _ hl _ hflush _ hreport =>
    subst hflush hreport
    rw [printed_of_isLaunched hl]
    refine ⟨?_, hout⟩
    simp [Console.flush, Console.report, Utf8.encode]

/-- However a command goes, what its output takes counts on the same device. -/
theorem out_advances (h : Effect host history bench launcher args done) :
    done.bench.console.out.device = bench.console.out.device ∧
      done.bench.console.out.past.taken = bench.console.out.past.taken + done.trace.out.length := by
  have hprint (pieces : List Bytes) := Sink.advances_putAll bench.console.out pieces
  cases h with
  | blank | exit | moved => exact ⟨rfl, rfl⟩
  | notMoved _ _ _ _ _ hreport =>
    subst hreport
    exact ⟨rfl, rfl⟩
  | printed _ _ pieces _ _ _ hshown =>
    subst hshown
    exact ⟨(hprint _).device, by simpa [Console.print] using (hprint _).taken⟩
  | notPrinted _ _ pieces _ _ _ _ _ hshown _ hreport =>
    subst hshown hreport
    exact ⟨(hprint _).device, by simpa [Console.print, Console.report] using (hprint _).taken⟩
  | launched _ _ _ _ _ _ _ hflush =>
    subst hflush
    exact ⟨rfl, by simp [Console.flush, Sink.flush, Past.flushed]⟩
  | notLaunched _ _ _ _ _ _ _ _ _ hflush _ hreport =>
    subst hflush hreport
    exact ⟨rfl, by simp [Console.flush, Console.report, Sink.flush, Past.flushed]⟩

/-- On an output that closes, the bytes that still fit are printed. -/
theorem out_of_closes {limit : Nat} {fault : Fault}
    (h : Effect host history bench launcher args done)
    (hout : bench.console.out.device.Closes limit (· = fault)) :
    done.trace.out = (Utf8.encode (LineShell.printed history.entries args)).take
      (limit - bench.console.out.past.taken) := by
  cases h with
  | blank | exit | moved => exact (List.take_nil).symm
  | notMoved _ _ _ _ _ hreport =>
    subst hreport
    exact (List.take_nil).symm
  | printed _ _ pieces _ _ hpieces hshown =>
    obtain ⟨out, hprint⟩ := @Console.print_of_closes Dir _ _ _ hout pieces
    obtain rfl := hshown.symm.trans hprint
    simp [hpieces]
  | notPrinted _ _ pieces _ _ _ _ hpieces hshown _ hreport =>
    obtain ⟨out, hprint⟩ := @Console.print_of_closes Dir _ _ _ hout pieces
    obtain rfl := hshown.symm.trans hprint
    subst hreport
    simp [hpieces, Console.report]
  | launched _ _ _ _ _ hl _ hflush =>
    subst hflush
    simp [printed_of_isLaunched hl, Console.flush, Utf8.encode]
  | notLaunched _ _ _ _ _ _ _ hl _ hflush _ hreport =>
    subst hflush hreport
    simp [printed_of_isLaunched hl, Console.flush, Console.report, Utf8.encode]

/-- On an output that dies, the bytes that still fit are printed, and there is less room. -/
theorem out_of_diesAfter {room : Nat} {fault : Fault}
    (h : Effect host history bench launcher args done)
    (hout : bench.console.out.DiesAfter room fault) :
    done.trace.out = (Utf8.encode (LineShell.printed history.entries args)).take room ∧
      done.bench.console.out.DiesAfter
        (room - (Utf8.encode (LineShell.printed history.entries args)).length) fault := by
  obtain ⟨limit, hcloses, rfl⟩ := hout.closes
  have hprinted := h.out_of_closes hcloses
  refine ⟨hprinted, ?_⟩
  have hafter := hout.of_taken h.out_advances.1 h.out_advances.2
  rwa [hprinted, List.length_take, ← Nat.sub_eq_sub_min] at hafter

/-! Standard error. -/

/-- On outputs that never fail, a command reports the error it ends with, and nothing else. -/
theorem err_of_neverFails (h : Effect host history bench launcher args done)
    (hout : bench.console.out.device.NeverFails) (herr : bench.console.err.device.NeverFails) :
    done.trace.err
        = ((failureOf host bench.dir launcher args).map (Utf8.encode ∘ Console.diagnostic)).getD [] ∧
      done.bench.console.err.device.NeverFails := by
  cases h with
  | blank | exit => exact ⟨rfl, herr⟩
  | moved target rest dir hdir => exact ⟨by simp [failureOf, hdir], herr⟩
  | notMoved _ error _ hfailure _ hreport =>
    obtain ⟨err, hafter, hreported⟩ := Console.report_of_neverFails error herr
    obtain rfl := hreport.symm.trans hreported
    exact ⟨by simp [hfailure], hafter⟩
  | printed name rest pieces _ hname hpieces hprint =>
    obtain ⟨out, -, hshown⟩ := Console.print_of_neverFails hout pieces
    obtain rfl := hprint.symm.trans hshown
    refine ⟨?_, herr⟩
    rcases hname with rfl | rfl <;> rfl
  | notPrinted name rest pieces _ _ _ _ _ hprint hfault =>
    obtain ⟨out, -, hshown⟩ := Console.print_of_neverFails hout pieces
    obtain rfl := hprint.symm.trans hshown
    cases hfault
  | launched name rest _ launch _ hl houtcome hflush hlaunch =>
    subst hflush
    refine ⟨?_, herr⟩
    rw [failureOf_of_isLaunched hl, hlaunch]
    cases hcase : launch.outcome with
    | exited | killed => simp [Console.flush]
    | failed fault => exact absurd hcase (houtcome fault)
  | notLaunched name rest flushed launch _ fault _ hl houtcome hflush hlaunch hreport =>
    subst hflush
    -- The flush before the launch leaves standard error alone.
    obtain ⟨err, hafter, hreported⟩ :=
      @Console.report_of_neverFails Dir (bench.console.flush : Shown Dir).console (.launch fault) herr
    obtain rfl := hreport.symm.trans hreported
    refine ⟨?_, hafter⟩
    rw [failureOf_of_isLaunched hl, hlaunch, houtcome]
    simp [Console.flush]

/-- A command whose output closes reports the error it ends with, and behind it the failure of the
output if that cut what it printed. -/
theorem err_of_closes {limit : Nat} {fault : Fault}
    (h : Effect host history bench launcher args done)
    (hout : bench.console.out.device.Closes limit (· = fault))
    (herr : bench.console.err.device.NeverFails) :
    done.trace.err
        = ((failureOf host bench.dir launcher args).map (Utf8.encode ∘ Console.diagnostic)).getD []
          ++ (if limit - bench.console.out.past.taken
                < (Utf8.encode (LineShell.printed history.entries args)).length
              then Utf8.encode (Console.diagnostic (.io fault)) else []) ∧
      done.bench.console.err.device.NeverFails := by
  cases h with
  | blank | exit => exact ⟨rfl, herr⟩
  | moved target rest dir hdir => exact ⟨by simp [failureOf, hdir, LineShell.printed, Utf8.encode], herr⟩
  | notMoved rest error _ hfailure _ hreport =>
    obtain ⟨err, hafter, hreported⟩ := @Console.report_of_neverFails Dir _ error herr
    obtain rfl := hreport.symm.trans hreported
    exact ⟨by simp [hfailure, LineShell.printed, Utf8.encode], hafter⟩
  | printed name rest pieces _ hname hpieces hshown hfault =>
    obtain ⟨out, hprint⟩ := @Console.print_of_closes Dir _ _ _ hout pieces
    obtain rfl := hshown.symm.trans hprint
    have hfit : ¬ limit - bench.console.out.past.taken < (Utf8.encode (String.join pieces)).length :=
      fun hover => by simp [hover] at hfault
    rw [← hpieces, if_neg hfit]
    refine ⟨?_, herr⟩
    rcases hname with rfl | rfl <;> rfl
  | notPrinted name rest pieces _ failure _ hname hpieces hshown hfault hreport =>
    obtain ⟨out, hprint⟩ := @Console.print_of_closes Dir _ _ _ hout pieces
    obtain rfl := hshown.symm.trans hprint
    obtain ⟨hover, rfl⟩ : limit - bench.console.out.past.taken
        < (Utf8.encode (String.join pieces)).length ∧ failure = fault := by
      simpa [eq_comm] using hfault
    obtain ⟨err, hafter, hreported⟩ :=
      @Console.report_of_neverFails Dir { bench.console with out } (.io failure) herr
    obtain rfl := hreport.symm.trans hreported
    rw [← hpieces, if_pos hover]
    refine ⟨?_, hafter⟩
    rcases hname with rfl | rfl <;> simp [failureOf, isLaunched]
  | launched name rest _ launch _ hl houtcome hflush hlaunch =>
    subst hflush
    refine ⟨?_, herr⟩
    rw [failureOf_of_isLaunched hl, hlaunch, printed_of_isLaunched hl]
    cases hcase : launch.outcome with
    | exited | killed => simp [Console.flush, Utf8.encode]
    | failed failure => exact absurd hcase (houtcome failure)
  | notLaunched name rest flushed launch _ failure _ hl houtcome hflush hlaunch hreport =>
    subst hflush
    obtain ⟨err, hafter, hreported⟩ :=
      @Console.report_of_neverFails Dir (bench.console.flush : Shown Dir).console (.launch failure) herr
    obtain rfl := hreport.symm.trans hreported
    refine ⟨?_, hafter⟩
    rw [failureOf_of_isLaunched hl, hlaunch, houtcome, printed_of_isLaunched hl]
    simp [Console.flush, Utf8.encode]

end Effect

/-- Behind a command the ones after it go on from where it leads on any console. -/
theorem dispatchAll_cons (host : Host Dir State) (history : History) (console : Console) (dir : Dir)
    (launcher : State) (order : Order) (orders : List Order) :
    let found := order.historyAfter history
    let done := dispatch host found order.args ⟨console, dir⟩ launcher
    dispatchAll host history ⟨console, dir⟩ launcher (order :: orders)
      = done :: dispatchAll host found ⟨done.bench.console, dirAfter host dir order.args⟩
          (launcherAfter host dir launcher order.args) orders := by
  intro found done
  have heffect : Effect host found ⟨console, dir⟩ launcher order.args done := effect_dispatch order.args
  rw [← heffect.dir_eq, ← heffect.launcher_eq]
  rfl

end LineShell
