import LineShell.Proofs.Segments
import LineShell.Proofs.Transcript
/-!
# One run after another

On outputs that never fail, what a run observes depends on the shell and on the lines it reads, and on
nothing else: `lineTrace` is all that is observed of a line. So a run on one input and then one on
another is a run on the second behind the first, but for the prompt and the end of input that the
first run ends with (`run_of_leads`). Behind an `exit` an input plays no part.
-/

namespace LineShell

variable {Dir State : Type}

/-- Neither output ever fails. -/
def Console.NeverFails (console : Console) : Prop :=
  console.out.device.NeverFails ∧ console.err.device.NeverFails

/-! ## What is observed of a line -/

/-- What is observed of a command when all output works: its dispatch, the builtin or the launch, what
it prints, and the diagnostic if it fails. -/
def commandTrace (host : Host Dir State) (history : History) (dir : Dir) (launcher : State)
    (args : List String) : Trace Dir :=
  .dispatch args history ::
    match args with
    | [] => []
    | name :: rest =>
      let failure := failureOf host dir launcher args
      (if isLaunched args then
        let launch := (host.launch dir args launcher).1
        .flush true :: .launch args dir :: launch.notes.map .note
          ++ [.childOut launch.out, .childErr launch.err, .note (outcomeNote name launch.outcome)]
      else .note (.runningBuiltin name) ::
        if name = "help" ∨ name = "history" then [.out (Utf8.encode (printed history.entries args))]
        else if name = "cd" ∧ failure.isNone then rest.head?.toList.map (.note <| .changedDirectory ·)
        else [])
      ++ failure.toList.map (.err <| Utf8.encode <| Console.diagnostic ·)

/-- On outputs that never fail, this is what is observed. -/
theorem Effect.trace_of_neverFails {host : Host Dir State} {history : History} {bench : Bench Dir}
    {launcher : State} {args : List String} {done : Dispatched Dir State}
    (h : Effect host history bench launcher args done) (hconsole : bench.console.NeverFails) :
    done.trace = commandTrace host history bench.dir launcher args := by
  obtain ⟨hout, herr⟩ := hconsole
  cases h with
  | blank | exit => rfl
  | moved target rest dir hdir => simp [commandTrace, failureOf, isLaunched, hdir]
  | notMoved rest error _ hfailure _ hreport =>
    obtain ⟨err, -, hreported⟩ := Console.report_of_neverFails error herr
    obtain rfl := hreport.symm.trans hreported
    simp [commandTrace, isLaunched, hfailure]
  | printed name rest pieces _ hname hpieces hprint =>
    obtain ⟨out, -, hshown⟩ := Console.print_of_neverFails hout pieces
    obtain rfl := hprint.symm.trans hshown
    rcases hname with rfl | rfl <;> simp [commandTrace, failureOf, isLaunched, hpieces]
  | notPrinted name rest pieces _ _ _ _ _ hprint hfault =>
    obtain ⟨out, -, hshown⟩ := Console.print_of_neverFails hout pieces
    obtain rfl := hprint.symm.trans hshown
    cases hfault
  | launched name rest _ launch _ hl houtcome hflush hlaunch =>
    obtain ⟨out, -, hflushed⟩ := Console.flush_of_neverFails hout
    obtain rfl := hflush.symm.trans hflushed
    have hfailure : failureOf host bench.dir launcher (name :: rest) = none := by
      rw [failureOf_of_isLaunched hl, hlaunch]
      cases hcase : launch.outcome with
      | exited | killed => rfl
      | failed fault => exact absurd hcase (houtcome fault)
    simp [commandTrace, hl, hlaunch, hfailure]
  | notLaunched name rest _ launch _ fault _ hl houtcome hflush hlaunch hreport =>
    obtain ⟨out, -, hflushed⟩ := Console.flush_of_neverFails hout
    obtain rfl := hflush.symm.trans hflushed
    obtain ⟨err, -, hreported⟩ := @Console.report_of_neverFails Dir
      { bench.console with out } (.launch fault) herr
    obtain rfl := hreport.symm.trans hreported
    have hfailure : failureOf host bench.dir launcher (name :: rest) = some (.launch fault) := by
      rw [failureOf_of_isLaunched hl, hlaunch, houtcome]
    simp [commandTrace, hl, hlaunch, hfailure]

/-- What is observed of a line, from the prompt before it to the end of its command. -/
def Shell.lineTrace (host : Host Dir State) (shell : Shell Dir State) (line : String) : Trace Dir :=
  .out (Utf8.encode shell.prompt) :: .flush true :: .read (.line line) ::
    commandTrace host (shell.history.record (words line)) shell.dir shell.launcher (words line)

/-- What is observed of some lines, each carried out by the shell that the lines before it leave. -/
def Shell.linesTrace (host : Host Dir State) (shell : Shell Dir State) : List String → Trace Dir
  | [] => []
  | line :: lines =>
    shell.lineTrace host line ++ (shell.after host (words line)).linesTrace host lines

/-- What is observed when the input ends: one more prompt, and nothing behind it. -/
def Shell.closingTrace (shell : Shell Dir State) : Trace Dir :=
  [.out (Utf8.encode shell.prompt), .flush true, .read .endOfInput, .note .endOfInput, .flush true]

section
variable (host : Host Dir State) (head : Head Dir State)

/-- A prompt is shown as a whole, and leaves outputs that never fail. -/
theorem Head.shown_of_neverFails (h : head.console.NeverFails) :
    ∃ console : Console, console.NeverFails ∧
      head.shown = ⟨[.out (Utf8.encode head.shell.prompt), .flush true], none, console⟩ := by
  obtain ⟨out, hout, hshown⟩ := @Console.prompt_of_neverFails Dir _ h.1 head.shell.prompt
  exact ⟨{ head.console with out }, ⟨hout, h.2⟩, hshown⟩

theorem Head.trace_of_neverFails (line : String) (h : head.console.NeverFails) :
    head.shown.fault? = none ∧
      head.shown.trace ++ .read (.line line) :: (head.done host line).trace
        = head.shell.lineTrace host line ∧
      (head.done host line).bench.console.NeverFails := by
  obtain ⟨console, hconsole, hshown⟩ := head.shown_of_neverFails h
  have heffect := head.effect host line
  rw [hshown] at heffect ⊢
  refine ⟨rfl, ?_, (heffect.out_of_neverFails hconsole.1).2,
    (heffect.err_of_neverFails hconsole.1 hconsole.2).2⟩
  rw [heffect.trace_of_neverFails hconsole]
  rfl

theorem Shell.finish_of_neverFails (shell : Shell Dir State) (trace : Trace Dir) {console : Console}
    (h : console.NeverFails) :
    shell.finish trace console = ⟨trace ++ [.flush true], .ok (), shell⟩ := by
  obtain ⟨out, -, hflushed⟩ := @Console.flush_of_neverFails Dir _ h.1
  unfold finish
  simp [hflushed, unflushedNotes]

/-! ## The ways a run goes -/

/-- A line that does not end the shell is one turn. -/
theorem run_of_line {line : String} {rest : Source} (h : head.console.NeverFails)
    (hread : head.source.readLine = (.line line, rest)) (hends : endsShell (words line) = false) :
    ∃ console : Console, console.NeverFails ∧
      head.run host = ((head.shell.after host (words line)).run host rest console).following
        (head.shell.lineTrace host line) := by
  obtain ⟨hshown, htrace, hafter⟩ := head.trace_of_neverFails host line h
  refine ⟨_, hafter, ?_⟩
  rw [run_of_turn (.mk line rest hshown hread hends), htrace]
  rfl

/-- A line that ends the shell is the last. -/
theorem run_of_exit {line : String} {rest : Source} (h : head.console.NeverFails)
    (hread : head.source.readLine = (.line line, rest)) (hends : endsShell (words line) = true) :
    head.run host
      = ⟨head.shell.lineTrace host line ++ [.flush true], .ok (), head.shell.after host (words line)⟩ := by
  obtain ⟨hshown, htrace, hafter⟩ := head.trace_of_neverFails host line h
  rw [run_of_last (.exited line rest hshown hread hends), htrace,
    Shell.finish_of_neverFails _ _ hafter]

/-- A read that fails ends the run with an error. -/
theorem run_of_fault {fault : Fault} {rest : Source} (h : head.console.NeverFails)
    (hread : head.source.readLine = (.failed fault, rest)) :
    head.run host
      = ⟨[.out (Utf8.encode head.shell.prompt), .flush true, .read (.failed fault)],
          .error (.read fault), head.shell⟩ := by
  obtain ⟨console, -, hshown⟩ := head.shown_of_neverFails h
  have hfault : head.shown.fault? = none := by rw [hshown]
  rw [run_of_last (.unread fault rest hfault hread), hshown]
  rfl

/-- At the end of its input a run shows one more prompt. -/
theorem run_of_endOfInput {rest : Source} (h : head.console.NeverFails)
    (hread : head.source.readLine = (.endOfInput, rest)) :
    head.run host = ⟨head.shell.closingTrace, .ok (), head.shell⟩ := by
  obtain ⟨console, hconsole, hshown⟩ := head.shown_of_neverFails h
  have hfault : head.shown.fault? = none := by rw [hshown]
  rw [run_of_last (.ended rest hfault hread), hshown, Shell.finish_of_neverFails _ _ hconsole]
  rfl

/-! ## What a run depends on -/

/-- Of its input a run sees what it gets when it asks for a line. -/
theorem run_congr_source {source other : Source} (h : source.readLine = other.readLine)
    (shell : Shell Dir State) (console : Console) :
    shell.run host source console = shell.run host other console := by
  rcases turn_or_last host ⟨shell, source, console⟩ with ⟨trace, next, hturn⟩ | ⟨run, hlast⟩
  · have hturn' : Turn host ⟨shell, other, console⟩ trace next := by
      cases hturn with
      | mk line rest hshown hread hends => exact .mk line rest hshown (h.symm.trans hread) hends
    exact (run_of_turn hturn).trans (run_of_turn hturn').symm
  · have hlast' : Last host ⟨shell, other, console⟩ run := by
      cases hlast with
      | unshown fault hshown => exact .unshown fault hshown
      | unread fault rest hshown hread => exact .unread fault rest hshown (h.symm.trans hread)
      | ended rest hshown hread => exact .ended rest hshown (h.symm.trans hread)
      | exited line rest hshown hread hends =>
        exact .exited line rest hshown (h.symm.trans hread) hends
    exact (run_of_last hlast).trans (run_of_last hlast').symm

/-- On outputs that never fail, a run does not depend on what they are. -/
theorem run_congr_console (shell : Shell Dir State) (source : Source) {console other : Console}
    (h : console.NeverFails) (h' : other.NeverFails) :
    shell.run host source console = shell.run host source other := by
  induction hweight : source.weight using Nat.strongRecOn generalizing shell source console other with
  | ind weight ih =>
    let head : Head Dir State := ⟨shell, source, console⟩
    let head' : Head Dir State := ⟨shell, source, other⟩
    change head.run host = head'.run host
    rcases hread : source.readLine with ⟨reading, rest⟩
    cases reading with
    | failed fault => rw [run_of_fault host head h hread, run_of_fault host head' h' hread]
    | endOfInput => rw [run_of_endOfInput host head h hread, run_of_endOfInput host head' h' hread]
    | line line =>
      cases hends : endsShell (words line) with
      | true => rw [run_of_exit host head h hread hends, run_of_exit host head' h' hread hends]
      | false =>
        obtain ⟨next, hnext, hrun⟩ := run_of_line host head h hread hends
        obtain ⟨next', hnext', hrun'⟩ := run_of_line host head' h' hread hends
        rw [hrun, hrun', ih rest.weight (hweight ▸ Source.readLine_weight hread) _ rest hnext hnext' rfl]

/-- Lines that do not end the shell are carried out one after another, and the run goes on behind
them. -/
theorem run_of_yields (shell : Shell Dir State) {source rest : Source} {console : Console}
    {lines : List String} (hlines : source.Yields lines rest) (h : console.NeverFails)
    (hends : ∀ line ∈ lines, endsShell (words line) = false) :
    shell.run host source console
      = (((lines.map words).foldl (Shell.after host) shell).run host rest console).following
          (shell.linesTrace host lines) := by
  induction hlines generalizing shell console with
  | nil => rfl
  | @cons source next rest line lines hread _ ih =>
    rw [List.forall_mem_cons] at hends
    obtain ⟨after, hafter, hrun⟩ :=
      run_of_line host ⟨shell, source, console⟩ h hread hends.1
    rw [run_congr_console host _ next hafter h, ih _ h hends.2, Run.following_following] at hrun
    exact hrun

/-- Two inputs that give the same lines up to one that ends the shell are run alike, on any
outputs. -/
theorem run_congr_of_exit (shell : Shell Dir State) (console : Console)
    {source other rest rest' : Source} {lines : List String} (h : source.Yields lines rest)
    (h' : other.Yields lines rest') (hends : ∃ line ∈ lines, endsShell (words line) = true) :
    shell.run host source console = shell.run host other console := by
  induction h generalizing other shell console with
  | nil => simp at hends
  | @cons source next rest line lines hread _ ih =>
    cases h' with
    | @cons _ next' _ _ _ hread' hyields' =>
      let head : Head Dir State := ⟨shell, source, console⟩
      let head' : Head Dir State := ⟨shell, other, console⟩
      change head.run host = head'.run host
      -- The outputs may fail here, but they fail alike: both runs stand at the same prompt.
      cases hshown : head.shown.fault? with
      | some fault =>
        have hrun' : Last host head' _ := .unshown fault hshown
        rw [run_of_last (.unshown fault hshown), run_of_last hrun']
        rfl
      | none =>
        cases hline : endsShell (words line) with
        | true =>
          have hrun' : Last host head' _ := .exited line next' hshown hread' hline
          rw [run_of_last (.exited line next hshown hread hline), run_of_last hrun']
          rfl
        | false =>
          have hlater : ∃ line ∈ lines, endsShell (words line) = true := by simpa [hline] using hends
          have hturn' : Turn host head' _ _ := .mk line next' hshown hread' hline
          rw [run_of_turn (.mk line next hshown hread hline), run_of_turn hturn']
          exact congrArg (Run.following · _) (ih _ _ hyields' hlater)

end

/-! ## One run after another -/

section
variable (host : Host Dir State) (shell : Shell Dir State) {bytes : Bytes} {console other : Console}

/-- A run on whole lines without an `exit` carries them out and stops at the end of input. -/
theorem run_eq_of_delivers {source : Source} (h : source.Delivers bytes)
    (hends : bytes = [] ∨ bytes.getLast? = some lineFeed) (hconsole : console.NeverFails)
    (hproceed : ∀ line ∈ (linesOf bytes).map Utf8.decode, endsShell (words line) = false) :
    let lines := (linesOf bytes).map Utf8.decode
    shell.run host source console
      = ⟨shell.linesTrace host lines ++ shell.closingTrace, .ok (),
          (lines.map words).foldl (Shell.after host) shell⟩ := by
  intro lines
  have hleads := h.leads []
  rw [List.append_nil] at hleads
  obtain ⟨behind, hyields, hbehind⟩ := Source.yields_of_leads hleads hends
  have hprompt := shell.prompt_foldl_after host (lines.map words)
  have hend := run_of_endOfInput host
    ⟨(lines.map words).foldl (Shell.after host) shell, behind, console⟩ hconsole hbehind
  rw [Shell.closingTrace, hprompt] at hend
  exact (run_of_yields host shell hyields hconsole hproceed).trans
    (congrArg (Run.following · _) hend)

/-- A run on whole lines without an `exit` carries them out and goes on with what is behind them, as a
run of its own would. -/
theorem run_eq_of_leads {source rest : Source} (h : source.Leads bytes rest)
    (hends : bytes = [] ∨ bytes.getLast? = some lineFeed) (hconsole : console.NeverFails)
    (hother : other.NeverFails)
    (hproceed : ∀ line ∈ (linesOf bytes).map Utf8.decode, endsShell (words line) = false) :
    let lines := (linesOf bytes).map Utf8.decode
    shell.run host source console
      = (((lines.map words).foldl (Shell.after host) shell).run host rest other).following
          (shell.linesTrace host lines) := by
  intro lines
  let after := (lines.map words).foldl (Shell.after host) shell
  obtain ⟨behind, hyields, hbehind⟩ := Source.yields_of_leads h hends
  calc shell.run host source console
      = (after.run host behind console).following _ := run_of_yields host shell hyields hconsole hproceed
    _ = (after.run host rest console).following _ := by rw [run_congr_source host hbehind]
    _ = (after.run host rest other).following _ := by rw [run_congr_console host after rest hconsole hother]

end

/-- A run on whole lines and then one on another input, and the run on both inputs behind one another.
Without an `exit` among the lines the one run observes what the two do, but for the prompt and the end
of input at which the first of them stops, and leaves the same shell. With an `exit` among them it does
not matter what stands behind the lines. -/
theorem run_of_leads (host : Host Dir State) (shell : Shell Dir State) {bytes : Bytes}
    {first second whole : Source} (hfirst : first.Delivers bytes) (hwhole : whole.Leads bytes second)
    (hends : bytes = [] ∨ bytes.getLast? = some lineFeed) :
    ((∀ line ∈ linesOf bytes, (words (Utf8.decode line)).head? ≠ some "exit") →
      ∀ c c' c'' : Console, c.NeverFails → c'.NeverFails → c''.NeverFails →
        let one := shell.run host first c
        let two := one.shell.run host second c'
        let both := shell.run host whole c''
        both.result = two.result ∧
          both.shell = two.shell ∧
          (∃ turns, one.trace = turns ++ shell.closingTrace ∧ both.trace = turns ++ two.trace) ∧
          both.trace.launches = one.trace.launches ++ two.trace.launches ∧
          both.trace.err = one.trace.err ++ two.trace.err ∧
          (∃ x, one.trace.out = x ++ Utf8.encode shell.prompt) ∧
          ∀ x, one.trace.out = x ++ Utf8.encode shell.prompt → both.trace.out = x ++ two.trace.out) ∧
    ((∃ line ∈ linesOf bytes, (words (Utf8.decode line)).head? = some "exit") →
      ∀ (other rest : Source) (console : Console), other.Leads bytes rest →
        shell.run host other console = shell.run host whole console) := by
  constructor
  · intro hexit c c' c'' hc hc' hc'' one two both
    have hproceed : ∀ line ∈ (linesOf bytes).map Utf8.decode, endsShell (words line) = false := by
      simpa [endsShell] using hexit
    obtain ⟨turns, after, hone, hboth⟩ : ∃ turns after,
        one = ⟨turns ++ shell.closingTrace, .ok (), after⟩ ∧
          both = (after.run host second c').following turns :=
      ⟨_, _, run_eq_of_delivers host shell hfirst hends hc hproceed,
        run_eq_of_leads host shell hwhole hends hc'' hc' hproceed⟩
    have htwo : two = after.run host second c' := by
      change one.shell.run host second c' = _
      rw [hone]
    rw [← htwo] at hboth
    clear_value one two both
    subst hone hboth
    refine ⟨rfl, rfl, ⟨turns, rfl, rfl⟩, ?_, ?_, ⟨turns.out, ?_⟩, ?_⟩
    · simp [Run.following, Shell.closingTrace]
    · simp [Run.following, Shell.closingTrace]
    · simp [Shell.closingTrace]
    · intro x hx
      have hcut : turns.out = x := by simpa [Shell.closingTrace] using hx
      simp [Run.following, hcut]
  · intro hexit other rest console hother
    obtain ⟨behind, hyields, -⟩ := Source.yields_of_leads hwhole hends
    obtain ⟨behind', hyields', -⟩ := Source.yields_of_leads hother hends
    refine run_congr_of_exit host shell console hyields' hyields ?_
    simpa [endsShell] using hexit

/-- A launch that fails, and behind it, in the same piece, a listing and a read that fails; and an
`exit` before anything. -/
theorem run_of_leads_launch_listing :
    let shell : Shell Unit (List Outcome) :=
      { prompt := "> ", dir := (), launcher := [.failed (.plain .notFound), .exited 3] }
    let host := Host.scripted fun _ _ => .error (.plain .notFound)
    let behind : Source := [.piece (Utf8.encode "history\nls\n"), .fault (.plain .other)]
    let whole : Source := [.piece (Utf8.encode "cc -c\nhistory\nls\n"), .fault (.plain .other)]
    let one := shell.run host [.piece (Utf8.encode "cc -c\n")] {}
    let two := one.shell.run host behind {}
    let both := shell.run host whole {}
    (both.result = two.result ∧ both.shell = two.shell ∧
      both.trace.launches = one.trace.launches ++ two.trace.launches) ∧
    ∀ (rest : Source) (console : Console),
      shell.run host (.piece (Utf8.encode "exit now\n") :: rest) console
        = shell.run host [.piece (Utf8.encode "exit now\n")] console := by
  intro shell host behind whole one two both
  have hreliable : Console.NeverFails {} := ⟨Device.neverFails_reliable, Device.neverFails_reliable⟩
  refine ⟨?_, ?_⟩
  · have hleads : Source.Leads whole (Utf8.encode "cc -c\n") behind :=
      .glued (Utf8.encode "cc -c\n") (Utf8.encode "history\nls\n") _
    obtain ⟨hcompose, -⟩ :=
      run_of_leads host shell (Source.delivers_piece _) hleads (.inr (by decide))
    obtain ⟨hresult, hshell, -, hlaunches, -⟩ :=
      hcompose (by decide) {} {} {} hreliable hreliable hreliable
    exact ⟨hresult, hshell, hlaunches⟩
  · intro rest console
    have hexit := Source.delivers_piece (Utf8.encode "exit now\n")
    obtain ⟨-, hcut⟩ := run_of_leads host shell hexit (hexit.leads []) (.inr (by decide))
    exact hcut ⟨Utf8.encode "exit now\n", by decide, by decide⟩ _ rest console (hexit.leads rest)

end LineShell
