import LineShell.Invocation
import LineShell.Proofs.Composition
/-!
# How runs end

A run ends well, or because a line could not be read, or because a prompt could not be shown. The
last two are told by where a run gets in some turns: at a source that meets a failure before its next
line is complete, or at a prompt that standard output does not take. Nothing else that fails on the
way ends a run, for a turn leads to the next prompt however its command went. The program is such a run
on its machine; its status and the last line on its standard error tell how the run ended.
-/

namespace LineShell

variable {Dir State : Type}

/-- The prompt cannot be written, or it is written and cannot be flushed. -/
def Console.PromptFails (console : Console) (text : String) (fault : Fault) : Prop :=
  (console.out.put (Utf8.encode text)).fault? = some fault ∨
    (console.out.put (Utf8.encode text)).fault? = none ∧
      (console.out.put (Utf8.encode text)).sink.flush.1 = some fault

theorem Console.fault?_prompt_eq_some_iff (console : Console) (text : String) (fault : Fault) :
    (console.prompt text : Shown Dir).fault? = some fault ↔ console.PromptFails text fault := by
  unfold prompt print PromptFails Sink.putAll
  cases hput : (console.out.put (Utf8.encode text)).fault? with
  | some failure => simp [hput]
  | none => simp [hput, Sink.putAll, flush]

variable {host : Host Dir State} {head mid : Head Dir State} {trace : Trace Dir} {fault : Fault}

/-! ## Where a run gets to -/

theorem shell_of_reaches (h : Reaches host head trace mid) :
    mid.shell = (trace.lines.map words).foldl (Shell.after host) head.shell := by
  induction h with
  | refl => rfl
  | turn hturn _ ih =>
    cases hturn with
    | mk line => rw [Trace.lines_append, Head.lines_line, ih]; rfl

theorem Reaches.trans {next : Head Dir State} {later : Trace Dir} (h : Reaches host head trace mid)
    (h' : Reaches host mid later next) : Reaches host head (trace ++ later) next := by
  induction h with
  | refl => exact h'
  | turn hturn _ ih =>
    rw [List.append_assoc]
    exact .turn hturn (ih h')

/-- However the command of a line goes, a line that does not end the shell leads to the next
prompt. -/
theorem reaches_of_line (h : Reaches host head trace mid) (hshown : mid.shown.fault? = none)
    {line : String} {rest : Source} (hread : mid.source.readLine = (.line line, rest))
    (hends : endsShell (words line) = false) :
    ∃ later next, Reaches host head (trace ++ later) next ∧ later.lines = [line] ∧
      next.source = rest ∧ next.shell = mid.shell.after host (words line) :=
  ⟨_, _, h.trans (.turn (.mk line rest hshown hread hends) (.refl _)),
    by rw [List.append_nil, Head.lines_line], rfl, rfl⟩

/-! ## The ends -/

/-- A run that gets to an end is the turns before it and that end. -/
theorem run_of_reaches_last {run : Run Dir State} (h : Reaches host head trace mid)
    (hlast : Last host mid run) : head.run host = run.following trace := by
  rw [run_of_reaches h, run_of_last hlast]

theorem result_trichotomy (host : Host Dir State) (head : Head Dir State) :
    (head.run host).result = .ok () ∨ (∃ fault, (head.run host).result = .error (.read fault)) ∨
      ∃ fault, (head.run host).result = .error (.io fault) := by
  obtain ⟨trace, mid, run, -, hlast, hrun⟩ := exists_reaches_last host head
  rw [hrun]
  cases hlast with
  | unshown fault => exact .inr (.inr ⟨fault, rfl⟩)
  | unread fault => exact .inr (.inl ⟨fault, rfl⟩)
  | ended | exited => exact .inl rfl

theorem result_eq_read_iff (host : Host Dir State) (head : Head Dir State) (fault : Fault) :
    (head.run host).result = .error (.read fault) ↔
    ∃ trace mid rest, Reaches host head trace mid ∧ mid.shown.fault? = none ∧
      mid.source.Meets fault rest := by
  constructor
  · intro h
    obtain ⟨trace, mid, run, hreaches, hlast, hrun⟩ := exists_reaches_last host head
    rw [hrun] at h
    -- Only a line that could not be read comes to this result.
    cases hlast with
    | unshown | ended | exited => cases h
    | unread fault rest hshown hread =>
      cases h
      exact ⟨trace, mid, rest, hreaches, hshown, Source.readLine_eq_failed_iff.1 hread⟩
  · rintro ⟨trace, mid, rest, hreaches, hshown, hmeets⟩
    rw [run_of_reaches_last hreaches
      (.unread fault rest hshown (Source.readLine_eq_failed_iff.2 hmeets))]
    rfl

theorem result_eq_io_iff (host : Host Dir State) (head : Head Dir State) (fault : Fault) :
    (head.run host).result = .error (.io fault) ↔
    ∃ trace mid, Reaches host head trace mid ∧
      mid.console.PromptFails mid.shell.prompt fault := by
  constructor
  · intro h
    obtain ⟨trace, mid, run, hreaches, hlast, hrun⟩ := exists_reaches_last host head
    rw [hrun] at h
    cases hlast with
    | unread | ended | exited => cases h
    | unshown fault hshown =>
      cases h
      exact ⟨trace, mid, hreaches, (Console.fault?_prompt_eq_some_iff _ _ _).1 hshown⟩
  · rintro ⟨trace, mid, hreaches, hfails⟩
    rw [run_of_reaches_last hreaches
      (.unshown fault ((Console.fault?_prompt_eq_some_iff _ _ _).2 hfails))]
    rfl

/-! ## The program -/

/-- An invocation that asks for a shell is a run of that shell, on what the machine gives it. It ends
with status 0 exactly when the run does not fail, and a failure is the last line on standard error. -/
theorem Invocation.status_run {invocation : Invocation} {settings : Settings}
    (h : Request.ofArguments invocation.args = .ok (.run settings)) :
    let shell := Shell.start settings invocation.dir ()
    let run := shell.run invocation.host invocation.input invocation.console
    (invocation.run.status = 0 ↔ run.result = .ok ()) ∧
      (run.result = .ok () → invocation.run.err = run.trace.allErr) ∧
      ∀ error, run.result = .error error → invocation.run.status = 1 ∧
        invocation.run.err
          = run.trace.allErr ++ Utf8.encode ("shell: " ++ error.message ++ "\n") := by
  intro shell run
  have hcompletion : invocation.run = invocation.completionOf settings run := by
    simp only [Invocation.run, h]
    rfl
  rw [hcompletion, completionOf]
  cases hresult : run.result with
  | ok => simp
  | error error => simp [Console.diagnostic]

/-- Which errors end a run. It fails with a read error exactly when, its prompt shown, it meets a
failure that is no interruption before the next line is complete; then it ends right there, with all
earlier lines carried out and recorded. It fails with a write error exactly when a prompt cannot be
written or flushed, and then reads nothing more. A line leads to the next prompt, or to success,
whatever else failed on the way; and the program's status tells which it was. -/
theorem run_endings (host : Host Dir State) (shell : Shell Dir State) (source : Source)
    (console : Console) :
    let start : Head Dir State := ⟨shell, source, console⟩
    let run := shell.run host source console
    (run.result = .ok () ∨ (∃ fault, run.result = .error (.read fault)) ∨
        ∃ fault, run.result = .error (.io fault)) ∧
      (∀ fault, run.result = .error (.read fault) ↔
        ∃ trace mid rest, Reaches host start trace mid ∧ mid.shown.fault? = none ∧
          mid.source.Meets fault rest) ∧
      (∀ fault trace mid rest, Reaches host start trace mid → mid.shown.fault? = none →
        mid.source.Meets fault rest →
          run.trace = trace ++ mid.shown.trace ++ [.read (.failed fault)] ∧
          run.trace.dispatches.map Prod.fst = trace.lines.map words ∧
          run.shell = (trace.lines.map words).foldl (Shell.after host) shell) ∧
      (∀ fault, run.result = .error (.io fault) ↔
        ∃ trace mid, Reaches host start trace mid ∧
          mid.console.PromptFails mid.shell.prompt fault) ∧
      (∀ fault trace mid, Reaches host start trace mid →
        mid.console.PromptFails mid.shell.prompt fault →
          run.trace = trace ++ mid.shown.trace ∧ mid.shown.trace.steps = [] ∧
          run.shell = (trace.lines.map words).foldl (Shell.after host) shell) ∧
      (∀ trace mid line rest, Reaches host start trace mid → mid.shown.fault? = none →
        mid.source.readLine = (.line line, rest) →
          if endsShell (words line) then run.result = .ok ()
          else ∃ later next, Reaches host start (trace ++ later) next ∧ later.lines = [line] ∧
            next.source = rest ∧ next.shell = mid.shell.after host (words line)) ∧
      (∀ trace mid rest, Reaches host start trace mid → mid.shown.fault? = none →
        mid.source.readLine = (.endOfInput, rest) → run.result = .ok ()) ∧
      ∀ (invocation : Invocation) (settings : Settings),
        Request.ofArguments invocation.args = .ok (.run settings) →
          let shell := Shell.start settings invocation.dir ()
          let run := shell.run invocation.host invocation.input invocation.console
          (invocation.run.status = 0 ↔ run.result = .ok ()) ∧
            (run.result = .ok () → invocation.run.err = run.trace.allErr) ∧
            ∀ error, run.result = .error error → invocation.run.status = 1 ∧
              invocation.run.err
                = run.trace.allErr ++ Utf8.encode ("shell: " ++ error.message ++ "\n") := by
  intro start run
  refine ⟨result_trichotomy host start, result_eq_read_iff host start, ?_, result_eq_io_iff host start, ?_,
    ?_, ?_, fun _ _ => Invocation.status_run⟩
  · intro fault trace mid rest hreaches hshown hmeets
    have hrun : run = _ := run_of_reaches_last hreaches
      (.unread fault rest hshown (Source.readLine_eq_failed_iff.2 hmeets))
    have hlines : run.trace.lines = trace.lines := by
      rw [hrun, ← Trace.lines_steps, Run.following]
      simp [Head.shown, Event.isStep, Trace.lines_steps]
    refine ⟨?_, ?_, ?_⟩
    · rw [hrun, Run.following, List.append_assoc]
    · rw [← hlines]
      exact dispatches_run host start
    · rw [← hlines]
      exact shell_run host start
  · intro fault trace mid hreaches hfails
    have hrun : run = _ := run_of_reaches_last hreaches
      (.unshown fault ((Console.fault?_prompt_eq_some_iff _ _ _).2 hfails))
    refine ⟨by rw [hrun, Run.following], by simp [Head.shown], ?_⟩
    rw [hrun]
    exact shell_of_reaches hreaches
  · intro trace mid line rest hreaches hshown hread
    cases hends : endsShell (words line) with
    | true =>
      have hrun : run = _ := run_of_reaches_last hreaches (.exited line rest hshown hread hends)
      rw [if_pos rfl, hrun]
      rfl
    | false => exact reaches_of_line hreaches hshown hread hends
  · intro trace mid rest hreaches hshown hread
    have hrun : run = _ := run_of_reaches_last hreaches (.ended rest hshown hread)
    rw [hrun]
    rfl

/-- A bare `cd`, and then a failure in the middle of a line. The program adds a line about it to that about
the `cd`, and ends with status 1; without the failure it does neither. -/
theorem run_endings_unfinished_line :
    let fault : Fault := .system .isDirectory
    let cd := Utf8.encode "cd\n"
    let rest : Source := [.piece (Utf8.encode "ls"), .fault fault]
    let shell : Shell Unit (List Outcome) := { prompt := "> ", dir := (), launcher := [] }
    let host := Host.scripted fun _ _ => .error (.plain .notFound)
    let run := shell.run host (.piece cd :: rest) {}
    let broken : Invocation :=
      { args := ["-v"], input := .piece cd :: rest, machine := Machine.standard [] false, dir := [] }
    let closed := { broken with input := [.piece cd] }
    (∃ trace mid, Reaches host ⟨shell, .piece cd :: rest, {}⟩ trace mid ∧
        mid.shown.fault? = none ∧ mid.source.Meets fault []) ∧
      run.result = .error (.read fault) ∧ run.shell.history.entries = ["cd"] ∧
      broken.run.status = 1 ∧
      broken.run.err = Utf8.encode ("shell: expected argument to \"cd\"\n"
        ++ "shell: failed to read input: Is a directory (os error 21)\n") ∧
      closed.run.status = 0 ∧ closed.run.err = Utf8.encode "shell: expected argument to \"cd\"\n" := by
  intro fault cd rest shell host run broken closed
  let start : Head Unit (List Outcome) := ⟨shell, .piece cd :: rest, {}⟩
  let mid : Head Unit (List Outcome) := ⟨shell.after host (words "cd\n"), .piece [] :: rest,
    (start.done host "cd\n").bench.console⟩
  have hreliable : Console.NeverFails {} := ⟨Device.neverFails_reliable, Device.neverFails_reliable⟩
  obtain ⟨hshown, -, hmid⟩ := start.trace_of_neverFails host "cd\n" hreliable
  have hreaches : Reaches host start _ mid :=
    .turn (.mk "cd\n" (.piece [] :: rest) hshown (by decide) (by decide)) (.refl mid)
  obtain ⟨_, -, hshow⟩ := mid.shown_of_neverFails hmid
  have hshown' : mid.shown.fault? = none := congrArg Shown.fault? hshow
  have hmeets : mid.source.Meets fault [] :=
    ⟨[.piece [], .piece (Utf8.encode "ls")], rfl, by decide, by decide⟩
  obtain ⟨-, hread, hstops, -, -, -, -, hprogram⟩ := run_endings host shell start.source {}
  obtain ⟨-, -, hshell⟩ := hstops fault _ mid [] hreaches hshown' hmeets
  have hentries : run.shell.history.entries = ["cd"] := by
    rw [show run.shell = _ from hshell, Shell.entries_foldl_after, List.append_nil, Head.lines_line]
    decide
  -- The program carries out the `cd` and then cannot read; without the failure it comes to the end.
  let settings : Settings := { verbose := true }
  let begun := Shell.start settings broken.dir ()
  have hcd : Source.readLine broken.input = (.line "cd\n", .piece [] :: rest) := by decide
  have hls : Source.readLine (.piece [] :: rest) = (.failed fault, []) := by decide
  have hlater := run_of_fault broken.host ⟨begun.after broken.host ["cd"], .piece [] :: rest, {}⟩ hreliable hls
  have hbroken : begun.run broken.host broken.input broken.console = _ :=
    (run_of_yields broken.host begun (.cons hcd (.nil _)) hreliable (by decide)).trans
      (congrArg (Run.following · _) hlater)
  have hclosed : begun.run closed.host closed.input closed.console = _ :=
    run_eq_of_delivers closed.host begun (Source.delivers_piece cd) (.inr (by decide)) hreliable (by decide)
  obtain ⟨-, -, hfails⟩ := hprogram broken settings rfl
  obtain ⟨hstatus, herr⟩ := hfails (.read fault) (congrArg Run.result hbroken)
  obtain ⟨hworks, htold, -⟩ := hprogram closed settings rfl
  have hok := congrArg Run.result hclosed
  refine ⟨⟨_, mid, hreaches, hshown', hmeets⟩,
    (hread fault).2 ⟨_, mid, [], hreaches, hshown', hmeets⟩, hentries, hstatus, ?_, hworks.2 hok, ?_⟩
  · rw [herr, hbroken]
    decide
  · rw [htold hok, hclosed]
    decide

end LineShell
