import LineShell.Proofs.Endings
import LineShell.Proofs.Transcript
/-!
# When standard output is flushed

Nothing the shell printed may wait in a buffer while it waits for a line or another program writes. What
stands before each read and each launch of a run says so: the prompt and its flush before a read, and
one more flush before a launch (`InOrder`). A run that succeeds ends with one more flush, and one that
fails with the failure (`Ending`).
-/

namespace LineShell

variable {Dir State : Type}

namespace Trace

/-- Every event of the trace is as it should be behind the events before it, which are those of `past`
and the earlier ones of the trace. -/
def Always (good : Trace Dir → Event Dir → Prop) : Trace Dir → Trace Dir → Prop
  | _, [] => True
  | past, event :: t => good past event ∧ Always good (past ++ [event]) t

section
variable {good : Trace Dir → Event Dir → Prop} {past s t : Trace Dir} {event : Event Dir}

theorem always_append : Always good past (s ++ t) ↔ Always good past s ∧ Always good (past ++ s) t := by
  induction s generalizing past with
  | nil => simp [Always]
  | cons event s ih => simp [Always, ih, and_assoc]

theorem Always.at (h : Always good past (s ++ event :: t)) : good (past ++ s) event :=
  (always_append.1 h).2.1

theorem always_of_forall (h : ∀ past, ∀ event ∈ t, good past event) : Always good past t := by
  induction t generalizing past with
  | nil => trivial
  | cons event t ih =>
    exact ⟨h past event List.mem_cons_self, ih fun past event hmem => h past event (.tail _ hmem)⟩

/-- What does not ask for more than some last events stays true behind more events. -/
theorem Always.behind (hgood : ∀ u past event, good past event → good (u ++ past) event)
    (h : Always good past t) (u : Trace Dir) : Always good (u ++ past) t := by
  induction t generalizing past with
  | nil => trivial
  | cons event t ih =>
    obtain ⟨hevent, ht⟩ := h
    exact ⟨hgood _ _ _ hevent, by rw [List.append_assoc]; exact ih ht⟩

end

end Trace

/-! ## One command -/

/-- A command flushes before it launches, and at no other time. -/
theorem Effect.flush_launch {host : Host Dir State} {history : History} {bench : Bench Dir}
    {launcher : State} {args : List String} {done : Dispatched Dir State}
    (h : Effect host history bench launcher args done) :
    done.trace.flushes = [] ∧ done.trace.launches = [] ∨
      ∃ later : Trace Dir,
        done.trace = .dispatch args history :: .flush bench.console.out.flush.1.isNone
          :: unflushedNotes .unflushedBeforeLaunch bench.console.out.flush.1
          ++ .launch args bench.dir :: later ∧
        later.flushes = [] ∧ later.launches = [] := by
  cases h with
  | blank | exit | moved => exact .inl ⟨rfl, rfl⟩
  | notMoved _ _ _ _ _ hreport =>
    subst hreport
    exact .inl ⟨rfl, rfl⟩
  | printed _ _ _ _ _ _ hprint =>
    subst hprint
    exact .inl ⟨rfl, rfl⟩
  | notPrinted _ _ _ _ _ _ _ _ hprint _ hreport =>
    subst hprint hreport
    exact .inl ⟨rfl, rfl⟩
  | launched name _ _ launch _ _ _ hflush =>
    subst hflush
    refine .inr ⟨launch.notes.map .note ++ [.childOut launch.out, .childErr launch.err,
      .note (outcomeNote name launch.outcome)], ?_, by simp, by simp⟩
    simp [Console.flush]
  | notLaunched name _ _ launch _ fault _ _ _ hflush _ hreport =>
    subst hflush hreport
    refine .inr ⟨launch.notes.map .note ++ [.childOut launch.out, .childErr launch.err,
      .note (outcomeNote name launch.outcome)] ++ (bench.console.report (.launch fault)).1, ?_,
      by simp [Console.report], by simp [Console.report]⟩
    simp [Console.flush, Console.report]

/-! ## Runs -/

section
variable (prompt : String)

/-- Behind these events, a shell with this prompt reads only what the prompt, taken and flushed, was shown
for, and launches only the words of a line that it read and behind one more flush. -/
def InOrder (past : Trace Dir) : Event Dir → Prop
  | .read _ => ∃ before : Trace Dir, past = before ++ [.out (Utf8.encode prompt), .flush true]
  | .launch args _ => ∃ (before : Trace Dir) (line : String) (history : History)
      (fault? : Option Fault),
        past = before ++ [.out (Utf8.encode prompt), .flush true, .read (.line line),
          .dispatch args history, .flush fault?.isNone] ++ unflushedNotes .unflushedBeforeLaunch fault? ∧
        words line = args
  | _ => True

/-- How a run ends, by its result: with the last prompt and everything behind it. -/
inductive Ending : Except ShellError Unit → Trace Dir → Prop
  | ok (reading : Reading String) (closing : Trace Dir) (fault? : Option Fault) :
      closing.out = [] → closing.err = [] → closing.readings = [] → closing.launches = [] →
      closing.flushes = [] →
      Ending (.ok ()) ([.out (Utf8.encode prompt), .flush true, .read reading] ++ closing
        ++ .flush fault?.isNone :: unflushedNotes .unflushedOnExit fault?)
  | unread (fault : Fault) :
      Ending (.error (.read fault))
        [.out (Utf8.encode prompt), .flush true, .read (.failed fault)]
  | unwritten (fault : Fault) (bytes : Bytes) :
      bytes <+: Utf8.encode prompt → bytes ≠ Utf8.encode prompt →
      Ending (.error (.io fault)) [.out bytes]
  | unflushed (fault : Fault) :
      Ending (.error (.io fault)) [.out (Utf8.encode prompt), .flush false]

end

variable {host : Host Dir State} {head : Head Dir State}

theorem InOrder.behind {prompt : String} (u past : Trace Dir) (event : Event Dir)
    (h : InOrder prompt past event) : InOrder prompt (u ++ past) event := by
  cases event with
  | read reading =>
    obtain ⟨before, rfl⟩ := h
    exact ⟨u ++ before, (List.append_assoc _ _ _).symm⟩
  | launch args dir =>
    obtain ⟨before, line, history, fault?, rfl, hwords⟩ := h
    exact ⟨u ++ before, line, history, fault?, by simp only [List.append_assoc], hwords⟩
  | _ => trivial

/-- What neither reads nor launches is in order anywhere. -/
theorem inOrder_of_quiet {prompt : String} {past t : Trace Dir} (hreadings : t.readings = [])
    (hlaunches : t.launches = []) : Trace.Always (InOrder prompt) past t := by
  refine Trace.always_of_forall fun past event hmem => ?_
  cases event with
  | read reading => simpa [hreadings] using Trace.mem_readings_iff.2 hmem
  | launch args dir => simpa [hlaunches] using Trace.mem_launches_iff.2 hmem
  | _ => trivial

/-- From the prompt before a line to the end of its command, all is in order. -/
theorem Head.inOrder_line (h : head.shown.fault? = none) (line : String) :
    Trace.Always (InOrder head.shell.prompt) []
      (head.shown.trace ++ .read (.line line) :: (head.done host line).trace) := by
  have heffect := head.effect host line
  have hreadings := heffect.readings_eq
  rw [Head.shown_of_none h]
  refine ⟨trivial, trivial, ⟨[], rfl⟩, ?_⟩
  obtain ⟨-, hlaunches⟩ | ⟨later, htrace, -, hlaunches⟩ := heffect.flush_launch
  · exact inOrder_of_quiet hreadings hlaunches
  · rw [htrace] at hreadings ⊢
    have hlater : later.readings = [] := by simpa using hreadings
    refine ⟨trivial, trivial, Trace.always_append.2 ⟨inOrder_of_quiet (by simp) (by simp), ?_⟩⟩
    exact ⟨⟨[], line, _, _, rfl, rfl⟩, inOrder_of_quiet hlater hlaunches⟩

/-- What is read and launched in a run is in order. -/
theorem inOrder_run (host : Host Dir State) (head : Head Dir State) :
    Trace.Always (InOrder head.shell.prompt) [] (head.run host).trace := by
  refine run_induction host (fun head run => Trace.Always (InOrder head.shell.prompt) [] run.trace) ?_ ?_
    head
  · intro head run hlast
    cases hlast with
    | unshown =>
      have hsteps : head.shown.trace.steps = [] := Console.steps_prompt _ _
      exact inOrder_of_quiet (by rw [← Trace.readings_steps, hsteps]; rfl)
        (by rw [← Trace.launches_steps, hsteps]; rfl)
    | unread fault rest hshown =>
      rw [Head.shown_of_none hshown]
      exact ⟨trivial, trivial, ⟨[], rfl⟩, trivial⟩
    | ended rest hshown =>
      rw [Shell.trace_finish_eq, Head.shown_of_none hshown]
      exact ⟨trivial, trivial, ⟨[], rfl⟩, trivial, inOrder_of_quiet (by simp) (by simp)⟩
    | exited line rest hshown =>
      rw [Shell.trace_finish_eq]
      exact Trace.always_append.2 ⟨Head.inOrder_line hshown line, inOrder_of_quiet (by simp) (by simp)⟩
  · intro head trace next run hturn hrun
    cases hturn with
    | mk line rest hshown =>
      refine Trace.always_append.2 ⟨Head.inOrder_line hshown line, ?_⟩
      have hlater := hrun.behind InOrder.behind
        (head.shown.trace ++ .read (.line line) :: (head.done host line).trace)
      rwa [List.append_nil] at hlater

theorem inOrder_of_split (host : Host Dir State) (head : Head Dir State) {s t : Trace Dir}
    {event : Event Dir} (hsplit : (head.run host).trace = s ++ event :: t) :
    InOrder head.shell.prompt s event := by
  have horder := inOrder_run host head
  rw [hsplit] at horder
  exact horder.at

/-- How a run ends. -/
theorem ending_run (host : Host Dir State) (head : Head Dir State) :
    ∃ before last, (head.run host).trace = before ++ last ∧
      Ending head.shell.prompt (head.run host).result last := by
  refine run_induction host (fun head run => ∃ before last, run.trace = before ++ last ∧
    Ending head.shell.prompt run.result last) ?_ ?_ head
  · intro head run hlast
    refine ⟨[], run.trace, rfl, ?_⟩
    cases hlast with
    | unshown fault hfault =>
      obtain ⟨hnone, -⟩ | ⟨_, -, ⟨bytes, hprefix, hne, htrace⟩ | htrace⟩ :=
        @Console.prompt_cases Dir head.console head.shell.prompt
      · cases hfault.symm.trans hnone
      · rw [show head.shown.trace = _ from htrace]
        exact .unwritten fault bytes hprefix hne
      · rw [show head.shown.trace = _ from htrace]
        exact .unflushed fault
    | unread fault rest hshown =>
      rw [Head.shown_of_none hshown]
      exact .unread fault
    | ended rest hshown =>
      rw [Shell.trace_finish_eq, Head.shown_of_none hshown]
      exact .ok .endOfInput [.note .endOfInput] _ rfl rfl rfl rfl rfl
    | exited line rest hshown hread hends =>
      rw [Shell.trace_finish_eq, (head.effect host line).trace_of_endsShell hends, Head.shown_of_none hshown]
      exact .ok (.line line) [.dispatch _ _, .note (.runningBuiltin "exit")] _ rfl rfl rfl rfl rfl
  · rintro head trace next run hturn ⟨before, last, hrun, hlast⟩
    cases hturn with
    | mk line rest hshown =>
      exact ⟨_, last, (congrArg _ hrun).trans (List.append_assoc _ _ _).symm, hlast⟩

/-! ## Commands one after another -/

/-- Since the last launch, or from the start, nothing was flushed. -/
def Unflushed (past : Trace Dir) : Prop :=
  ∃ before between : Trace Dir, past = before ++ between ∧
    (before = [] ∨ ∃ (earlier : Trace Dir) (args : List String) (dir : Dir),
      before = earlier ++ [.launch args dir]) ∧
    between.flushes = [] ∧ between.launches = []

/-- A launch stands behind one flush and notes, and there was no other flush since the launch before. -/
def FlushedOnce (past : Trace Dir) : Event Dir → Prop
  | .launch _ _ => ∃ (before : Trace Dir) (fault? : Option Fault),
      past = before ++ .flush fault?.isNone :: unflushedNotes .unflushedBeforeLaunch fault? ∧
        Unflushed before
  | _ => True

theorem Unflushed.append {past t : Trace Dir} (h : Unflushed past) (hflushes : t.flushes = [])
    (hlaunches : t.launches = []) : Unflushed (past ++ t) := by
  obtain ⟨before, between, rfl, hbefore, hflushes', hlaunches'⟩ := h
  exact ⟨before, between ++ t, List.append_assoc _ _ _, hbefore, by simp [hflushes, hflushes'],
    by simp [hlaunches, hlaunches']⟩

theorem flushedOnce_of_launches {past t : Trace Dir} (h : t.launches = []) :
    Trace.Always FlushedOnce past t := by
  refine Trace.always_of_forall fun past event hmem => ?_
  cases event with
  | launch args dir => simpa [h] using Trace.mem_launches_iff.2 hmem
  | _ => trivial

theorem Effect.flushedOnce {history : History} {bench : Bench Dir} {launcher : State}
    {args : List String} {done : Dispatched Dir State} {past : Trace Dir}
    (h : Effect host history bench launcher args done) (hpast : Unflushed past) :
    Trace.Always FlushedOnce past done.trace ∧ Unflushed (past ++ done.trace) := by
  obtain ⟨hflushes, hlaunches⟩ | ⟨later, htrace, hflushes, hlaunches⟩ := h.flush_launch
  · exact ⟨flushedOnce_of_launches hlaunches, hpast.append hflushes hlaunches⟩
  · have hbefore : Unflushed (past ++ [.dispatch args history]) := hpast.append rfl rfl
    rw [htrace]
    constructor
    · refine ⟨trivial, trivial, Trace.always_append.2 ⟨flushedOnce_of_launches (by simp), ?_⟩⟩
      exact ⟨⟨_, bench.console.out.flush.1, by simp, hbefore⟩, flushedOnce_of_launches hlaunches⟩
    · exact ⟨past ++ .dispatch args history :: .flush bench.console.out.flush.1.isNone
        :: unflushedNotes .unflushedBeforeLaunch bench.console.out.flush.1 ++ [.launch args bench.dir],
        later, by simp, .inr ⟨_, _, _, rfl⟩, hflushes, hlaunches⟩

theorem flushedOnce_dispatchAll (host : Host Dir State) (history : History) (bench : Bench Dir)
    (launcher : State) (orders : List Order) {past : Trace Dir} (hpast : Unflushed past) :
    Trace.Always FlushedOnce past
      ((dispatchAll host history bench launcher orders).flatMap (·.trace)) := by
  induction orders generalizing history bench launcher past with
  | nil => trivial
  | cons order orders ih =>
    obtain ⟨hfirst, hafter⟩ := (@effect_dispatch Dir State host _ _ _ order.args).flushedOnce hpast
    exact Trace.always_append.2 ⟨hfirst, ih _ _ _ hafter⟩

/-- When standard output is flushed, whatever the streams and the programs do. A line is asked for right
behind the prompt and a flush that worked. A program is launched right behind a flush, the only one since
the prompt before it. A run that succeeds flushes once behind its last read and everything that it wrote
or launched, and one that fails ends with its failure: a line that could not be read, a prompt that was not
taken as a whole, or the flush of a prompt. For commands alone, there is one flush between a launch and the
one before it, and that flush is the last that happens before the launch. -/
theorem run_flush_order (host : Host Dir State) (shell : Shell Dir State) (source : Source)
    (console : Console) :
    let run := shell.run host source console
    let prompt := Utf8.encode shell.prompt
    (∀ s reading t, run.trace = s ++ .read reading :: t →
      ∃ before : Trace Dir, s = before ++ [.out prompt, .flush true]) ∧
    (∀ s args dir t, run.trace = s ++ .launch args dir :: t →
      ∃ (before : Trace Dir) (line : String) (history : History) (fault? : Option Fault),
        s = before ++ [.out prompt, .flush true, .read (.line line), .dispatch args history,
          .flush fault?.isNone] ++ unflushedNotes .unflushedBeforeLaunch fault? ∧ words line = args) ∧
    (run.result = .ok () →
      ∃ (before : Trace Dir) (reading : Reading String) (closing : Trace Dir) (fault? : Option Fault),
        run.trace = before ++ [.out prompt, .flush true, .read reading] ++ closing
          ++ .flush fault?.isNone :: unflushedNotes .unflushedOnExit fault? ∧
        closing.out = [] ∧ closing.err = [] ∧ closing.readings = [] ∧ closing.launches = [] ∧
        closing.flushes = []) ∧
    (∀ error, run.result = .error error → ∃ before : Trace Dir,
      (∃ fault, error = .read fault ∧
        run.trace = before ++ [.out prompt, .flush true, .read (.failed fault)]) ∨
      (∃ fault bytes, error = .io fault ∧ bytes <+: prompt ∧ bytes ≠ prompt ∧
        run.trace = before ++ [.out bytes]) ∨
      ∃ fault, error = .io fault ∧ run.trace = before ++ [.out prompt, .flush false]) ∧
    ∀ history bench launcher orders,
      let trace := (dispatchAll host history bench launcher orders).flatMap (·.trace)
      ∀ s args dir t, trace = s ++ .launch args dir :: t →
        ∃ (before between : Trace Dir) (fault? : Option Fault),
          s = before ++ between ++ .flush fault?.isNone
            :: unflushedNotes .unflushedBeforeLaunch fault? ∧
          (before = [] ∨ ∃ (earlier : Trace Dir) (args : List String) (dir : Dir),
            before = earlier ++ [.launch args dir]) ∧
          between.flushes = [] ∧ between.launches = [] := by
  intro run prompt
  let head : Head Dir State := ⟨shell, source, console⟩
  obtain ⟨before, last, htrace, hending⟩ : ∃ before last, run.trace = before ++ last ∧
    Ending shell.prompt run.result last := ending_run host head
  refine ⟨fun s reading t hsplit => inOrder_of_split host head hsplit,
    fun s args dir t hsplit => inOrder_of_split host head hsplit, ?_, ?_, ?_⟩
  · intro hresult
    rw [hresult] at hending
    cases hending with
    | ok reading closing fault? hout herr hreadings hlaunches hflushes =>
      exact ⟨before, reading, closing, fault?, by rw [htrace]; simp [prompt], hout, herr,
        hreadings, hlaunches, hflushes⟩
  · intro error hresult
    rw [hresult] at hending
    refine ⟨before, ?_⟩
    cases hending with
    | unread fault => exact .inl ⟨fault, rfl, htrace⟩
    | unwritten fault bytes hprefix hne => exact .inr (.inl ⟨fault, bytes, rfl, hprefix, hne, htrace⟩)
    | unflushed fault => exact .inr (.inr ⟨fault, rfl, htrace⟩)
  · intro history bench launcher orders trace s args dir t hsplit
    have hstart : Unflushed ([] : Trace Dir) := ⟨[], [], rfl, .inl rfl, rfl, rfl⟩
    have honce : Trace.Always FlushedOnce [] trace :=
      flushedOnce_dispatchAll host history bench launcher orders hstart
    rw [hsplit] at honce
    obtain ⟨_, fault?, hs, before, between, rfl, hbefore, hflushes, hlaunches⟩ := honce.at
    exact ⟨before, between, fault?, hs, hbefore, hflushes, hlaunches⟩

/-- A launch, and a prompt that cannot be flushed. -/
theorem run_flush_order_launch :
    let bytes := Utf8.encode "ls\n"
    let fault : Fault := .plain .other
    let prompt := Utf8.encode "> "
    let shell : Shell Unit (List Outcome) := { prompt := "> ", dir := (), launcher := [.exited 0] }
    let host := Host.scripted fun _ _ => .error (.plain .notFound)
    let run := shell.run host [.piece bytes] {}
    let dead := shell.run host [.piece bytes] { out := { device := Device.reliable.flushing 0 fault } }
    let trace := (dispatchAll host {} ⟨{}, ()⟩ [.exited 0] [⟨["ls"], false⟩]).flatMap (·.trace)
    run.result = .ok () ∧ dead.result = .error (.io fault) ∧
      (∃ before line t, run.trace = before ++ [.out prompt, .flush true] ++ .read (.line line) :: t) ∧
      (∃ (before : Trace Unit) (fault? : Option Fault) (t : Trace Unit),
        run.trace = before ++ .flush fault?.isNone :: unflushedNotes .unflushedBeforeLaunch fault?
          ++ .launch ["ls"] () :: t) ∧
      (∃ (before : Trace Unit) (fault? : Option Fault),
        run.trace = before ++ .flush fault?.isNone :: unflushedNotes .unflushedOnExit fault?) ∧
      (∃ before bytes, dead.trace = before ++ [.out bytes] ∨
        dead.trace = before ++ [.out prompt, .flush false]) ∧
      ∃ (before : Trace Unit) (fault? : Option Fault) (t : Trace Unit),
        trace = before ++ .flush fault?.isNone :: unflushedNotes .unflushedBeforeLaunch fault?
          ++ .launch ["ls"] () :: t := by
  intro bytes fault prompt shell host run dead trace
  obtain ⟨hread, hlaunch, hok, -, hsequence⟩ := run_flush_order host shell [.piece bytes] {}
  obtain ⟨-, -, -, herror, -⟩ := run_flush_order host shell [.piece bytes]
    { out := { device := Device.reliable.flushing 0 fault } }
  -- The run on a working output launches the line that it reads.
  let head : Head Unit (List Outcome) := ⟨shell, [.piece bytes], {}⟩
  obtain ⟨hresult, hlines, -⟩ := run_of_lines host _ head bytes rfl (Source.delivers_piece bytes)
    Device.neverFails_reliable Device.neverFails_reliable
  have hlaunches : run.trace.launches = [(["ls"], ())] := by
    have h := launches_run host head
    rw [hlines] at h
    exact h.trans (by decide)
  obtain ⟨s, t, hsplit⟩ := List.append_of_mem
    (Trace.mem_launches_iff.1 (hlaunches ▸ List.mem_cons_self : (["ls"], ()) ∈ run.trace.launches))
  obtain ⟨before, line, history, fault?, rfl, -⟩ := hlaunch s _ _ t hsplit
  have hline : run.trace = before ++ [.out prompt, .flush true] ++ .read (.line line) ::
      ([.dispatch ["ls"] history, .flush fault?.isNone] ++ unflushedNotes .unflushedBeforeLaunch fault?
        ++ .launch ["ls"] () :: t) := by
    rw [hsplit]
    simp only [List.append_assoc, List.cons_append, List.nil_append]
    rfl
  obtain ⟨earlier, hearlier⟩ := hread _ _ _ hline
  obtain ⟨closed, reading, closing, final?, hclosed, -⟩ := hok hresult
  -- The other one cannot flush its first prompt.
  let device := Device.reliable.flushing 0 fault
  have hdead : dead.result = .error (.io fault) :=
    (result_eq_io_iff host ⟨shell, [.piece bytes], { out := { device } }⟩ fault).2
      ⟨[], _, .refl _, .inr ⟨Sink.fault?_put_of_takesAll Device.neverFails_reliable.takesAll, by
        unfold Sink.flush
        rw [(Sink.advances_put _ _).device]
        rfl⟩⟩
  -- One launch on a console of its own.
  let done := dispatch host {} ["ls"] ⟨{}, ()⟩ [.exited 0]
  have hdone : done.trace.launches = [(["ls"], ())] :=
    (effect_dispatch (["ls"] : List String) : Effect host {} ⟨{}, ()⟩ [.exited 0] _ done).launches_eq
  obtain ⟨u, v, hlaunched⟩ := List.append_of_mem
    (Trace.mem_launches_iff.1 (hdone ▸ List.mem_cons_self : (["ls"], ()) ∈ done.trace.launches))
  have htrace : trace = u ++ .launch ["ls"] () :: v := by
    rw [← hlaunched]
    exact List.append_nil _
  obtain ⟨start, between, alone?, hu, -⟩ := hsequence {} ⟨{}, ()⟩ [.exited 0] _ u _ _ v htrace
  refine ⟨hresult, hdead, ⟨earlier, line, _, hearlier ▸ hline⟩, ?_, ⟨_, _, hclosed⟩, ?_, ?_⟩
  · exact ⟨before ++ [.out prompt, .flush true, .read (.line line), .dispatch ["ls"] history], fault?, t,
      by rw [hsplit]; simp [prompt, shell]⟩
  · obtain ⟨before, ⟨_, h, -⟩ | ⟨_, bytes, -, -, -, h⟩ | ⟨_, -, h⟩⟩ := herror _ hdead
    · cases h
    · exact ⟨before, bytes, .inl h⟩
    · exact ⟨before, [], .inr h⟩
  · exact ⟨start ++ between, alone?, v, by rw [htrace, hu]⟩

end LineShell
