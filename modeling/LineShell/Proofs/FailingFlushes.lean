import LineShell.Proofs.Actions
import LineShell.Proofs.Composition
import LineShell.Proofs.FlushOrder
/-!
# Flushes that stop working

Two runs of one shell on one source and one standard error. Both standard outputs take all they are
given; the flushes of the first always work, those of the second only a number of times. A flush that
fails before a launch or at the end changes nothing but itself. A prompt that cannot be flushed ends the
run, so the second run is the first one up to that prompt, with its flushes marked as they came out
(`Trace.markFlushes`).
-/

namespace LineShell

variable {Dir State : Type}

/-! ## Traces with other flushes -/

/-- Whether a note tells of a flush that failed. -/
def Note.isUnflushed : Note → Bool
  | .unflushedBeforeLaunch _ | .unflushedOnExit _ => true
  | _ => false

namespace Trace

/-- The trace with the flushes working while fewer than `times` were asked for, where `count` were
already. -/
def markFlushes (times : Nat) : Nat → Trace Dir → Trace Dir
  | _, [] => []
  | count, .flush _ :: t => .flush (count < times) :: markFlushes times (count + 1) t
  | count, event :: t => event :: markFlushes times count t

/-- Behind no more than `times` flushes, `count` of them earlier ones, is everything read. -/
def ReadsWithin (times : Nat) : Nat → Trace Dir → Prop
  | _, [] => True
  | count, .flush _ :: t => ReadsWithin times (count + 1) t
  | count, .read _ :: t => count ≤ times ∧ ReadsWithin times count t
  | count, _ :: t => ReadsWithin times count t

/-- The trace without the notes on flushes that failed. -/
def withoutUnflushed (t : Trace Dir) : Trace Dir :=
  t.filter fun | .note note => !note.isUnflushed | _ => true

section
variable (times count : Nat) (s t : Trace Dir)

theorem markFlushes_append :
    markFlushes times count (s ++ t)
      = markFlushes times count s ++ markFlushes times (count + s.flushes.length) t := by
  fun_induction markFlushes times count s with
  | case1 => rfl
  | case2 count worked s ih => simp [markFlushes, ih, Nat.add_assoc, Nat.add_comm 1]
  | case3 count event s hflush ih =>
    cases event with
    | flush worked => exact absurd rfl (hflush worked)
    | _ => simp [markFlushes, ih]

theorem readsWithin_append :
    ReadsWithin times count (s ++ t)
      ↔ ReadsWithin times count s ∧ ReadsWithin times (count + s.flushes.length) t := by
  fun_induction ReadsWithin times count s with
  | case1 => simp
  | case2 count worked s ih => simp [ReadsWithin, ih, Nat.add_assoc, Nat.add_comm 1]
  | case3 count reading s ih => simp [ReadsWithin, ih, and_assoc]
  | case4 count event s hflush hread ih =>
    cases event with
    | flush worked => exact absurd rfl (hflush worked)
    | read reading => exact absurd rfl (hread reading)
    | _ => simp [ReadsWithin, ih]

@[simp] theorem withoutUnflushed_append :
    withoutUnflushed (s ++ t) = withoutUnflushed s ++ withoutUnflushed t := by
  simp [withoutUnflushed]

variable {times count s t}

theorem ReadsWithin.at {reading : Reading String}
    (h : ReadsWithin times count (s ++ .read reading :: t)) : count + s.flushes.length ≤ times :=
  ((readsWithin_append _ _ _ _).1 h).2.1

theorem readsWithin_of_readings (h : t.readings = []) : ReadsWithin times count t := by
  fun_induction ReadsWithin times count t with
  | case1 => trivial
  | case2 count worked t ih => exact ih (by simpa using h)
  | case3 => simp at h
  | case4 count event t hflush hread ih =>
    cases event with
    | read reading => exact absurd rfl (hread reading)
    | _ => exact ih (by simpa using h)

theorem markFlushes_of_flushes (h : t.flushes = []) : markFlushes times count t = t := by
  fun_induction markFlushes times count t with
  | case1 => rfl
  | case2 => simp at h
  | case3 count event t hflush ih =>
    cases event with
    | flush worked => exact absurd rfl (hflush worked)
    | _ => rw [ih (by simpa using h)]

/-- The notes on a flush are all that is left out. -/
theorem withoutUnflushed_unflushedNotes (note : Fault → Note) (fault? : Option Fault)
    (h : ∀ fault, (note fault).isUnflushed = true) :
    withoutUnflushed (unflushedNotes note fault? : Trace Dir) = [] := by
  cases fault? <;> simp [unflushedNotes, withoutUnflushed, h]

/-! Flushes and notes are no bytes and no launches. -/

theorem observed_markFlushes (times count : Nat) (t : Trace Dir) :
    (markFlushes times count t).out = t.out ∧ (markFlushes times count t).err = t.err ∧
      (markFlushes times count t).launches = t.launches := by
  fun_induction markFlushes times count t <;> simp_all

theorem observed_withoutUnflushed (t : Trace Dir) :
    t.withoutUnflushed.out = t.out ∧ t.withoutUnflushed.err = t.err ∧
      t.withoutUnflushed.launches = t.launches := by
  induction t with
  | nil => exact ⟨rfl, rfl, rfl⟩
  | cons event t ih =>
    obtain ⟨hout, herr, hlaunches⟩ := ih
    unfold withoutUnflushed at *
    cases event with
    | note note => cases h : note.isUnflushed <;> simp [h, hout, herr, hlaunches]
    | _ => simp [hout, herr, hlaunches]

/-- Traces that differ in flushes and the notes on them alone show the same bytes and launches. -/
theorem observed_of_marked {t' : Trace Dir}
    (h : t'.withoutUnflushed = (t.markFlushes times count).withoutUnflushed) :
    t'.out = t.out ∧ t'.err = t.err ∧ t'.launches = t.launches := by
  obtain ⟨hout, herr, hlaunches⟩ := observed_withoutUnflushed t'
  obtain ⟨hout', herr', hlaunches'⟩ := observed_withoutUnflushed (t.markFlushes times count)
  obtain ⟨hmarked, hmarked', hmarked''⟩ := observed_markFlushes times count t
  rw [← hout, ← herr, ← hlaunches, h]
  exact ⟨hout'.trans hmarked, herr'.trans hmarked', hlaunches'.trans hmarked''⟩

end

end Trace

/-! ## Consoles -/

namespace Console

/-- Two consoles with one standard error, whose standard outputs take all. Flushing the first always works,
flushing the second only `times` times, of which `count` are over. -/
structure Stalling (times count : Nat) (fault : Fault) (whole cut : Console) : Prop where
  err : cut.err = whole.err
  out : whole.out.device.NeverFails
  takesAll : cut.out.device.TakesAll
  flushes : ∀ past, cut.out.device.flush past = if past.flushes < times then none else some fault
  count : cut.out.past.flushes = count

/-- What comes of an operation on either console: the same events, with the flushes of the second as they
come out. -/
structure StallingTo (times count : Nat) (fault : Fault) (trace trace' : Trace Dir)
    (whole cut : Console) : Prop where
  trace_eq : trace'.withoutUnflushed = (trace.markFlushes times count).withoutUnflushed
  console : Stalling times (count + trace.flushes.length) fault whole cut

variable {times count : Nat} {fault : Fault} {mid mid' whole cut : Console} {s s' t t' : Trace Dir}

theorem StallingTo.append (h : StallingTo times count fault s s' mid mid')
    (h' : StallingTo times (count + s.flushes.length) fault t t' whole cut) :
    StallingTo times count fault (s ++ t) (s' ++ t') whole cut where
  trace_eq := by
    rw [Trace.markFlushes_append, Trace.withoutUnflushed_append, Trace.withoutUnflushed_append,
      h.trace_eq, h'.trace_eq]
  console := by
    rw [Trace.flushes_append, List.length_append, ← Nat.add_assoc]
    exact h'.console

/-- What does not flush goes alike on both. -/
theorem Stalling.same (h : Stalling times count fault whole cut) (ht : t.flushes = []) :
    StallingTo times count fault t t whole cut where
  trace_eq := by rw [Trace.markFlushes_of_flushes ht]
  console := by simpa [ht] using h

namespace Stalling

theorem report (h : Stalling times count fault whole cut) (error : ShellError) :
    StallingTo times count fault (whole.report error : Trace Dir × Console).1 (cut.report error).1
      (whole.report error : Trace Dir × Console).2 (cut.report error : Trace Dir × Console).2 := by
  have hconsole : Stalling times count fault
      { whole with err := (whole.err.putAll ((diagnosticPieces error).map Utf8.encode)).sink }
      { cut with err := (whole.err.putAll ((diagnosticPieces error).map Utf8.encode)).sink } :=
    ⟨rfl, h.out, h.takesAll, h.flushes, h.count⟩
  unfold Console.report
  rw [h.err]
  exact hconsole.same rfl

/-- Both outputs take all, so printing goes alike. -/
theorem print (h : Stalling times count fault whole cut) (pieces : List Bytes) :
    ∃ console console', Stalling times count fault console console' ∧
      (whole.print pieces : Shown Dir) = ⟨[.out pieces.flatten], none, console⟩ ∧
      (cut.print pieces : Shown Dir) = ⟨[.out pieces.flatten], none, console'⟩ := by
  obtain ⟨htaken, hfault⟩ := Sink.putAll_of_takesAll h.out.takesAll pieces
  obtain ⟨htaken', hfault'⟩ := Sink.putAll_of_takesAll h.takesAll pieces
  have hafter := Sink.advances_putAll whole.out pieces
  have hafter' := Sink.advances_putAll cut.out pieces
  refine ⟨{ whole with out := (whole.out.putAll pieces).sink },
    { cut with out := (cut.out.putAll pieces).sink }, ?_, ?_, ?_⟩
  · exact ⟨h.err, hafter.device ▸ h.out, hafter'.device ▸ h.takesAll, hafter'.device ▸ h.flushes,
      hafter'.flushes.trans h.count⟩
  · simp only [Console.print, htaken, hfault]
  · simp only [Console.print, htaken', hfault']

/-- The second console's flush fails when the flushes that work are over. -/
theorem flush (h : Stalling times count fault whole cut) :
    ∃ console console', Stalling times (count + 1) fault console console' ∧
      (whole.flush : Shown Dir) = ⟨[.flush true], none, console⟩ ∧
      (cut.flush : Shown Dir)
        = ⟨[.flush (count < times)], if count < times then none else some fault, console'⟩ := by
  have hnone : whole.out.flush.1 = none := h.out.flushes _
  have hfault : cut.out.flush.1 = if count < times then none else some fault := by
    rw [← h.count]
    exact h.flushes _
  refine ⟨{ whole with out := whole.out.flush.2 }, { cut with out := cut.out.flush.2 },
    ⟨h.err, h.out, h.takesAll, h.flushes, congrArg (· + 1) h.count⟩, ?_, ?_⟩
  · simp only [Console.flush, hnone, Option.isNone_none]
  · by_cases hcount : count < times <;> simp [Console.flush, hfault, hcount]

/-- A flush that fails at no cost is told apart by its note alone. -/
theorem flush_noted (h : Stalling times count fault whole cut) (note : Fault → Note)
    (hnote : ∀ fault, (note fault).isUnflushed = true) :
    StallingTo times count fault
      ((whole.flush : Shown Dir).trace ++ unflushedNotes note (whole.flush : Shown Dir).fault?)
      ((cut.flush : Shown Dir).trace ++ unflushedNotes note (cut.flush : Shown Dir).fault?)
      (whole.flush : Shown Dir).console (cut.flush : Shown Dir).console := by
  obtain ⟨console, console', hconsole, hflush, hflush'⟩ := @flush Dir _ _ _ _ _ h
  rw [hflush, hflush']
  refine ⟨?_, hconsole⟩
  rw [Trace.withoutUnflushed_append, Trace.withoutUnflushed_unflushedNotes _ _ hnote]
  rfl

/-- The prompt is shown alike until it cannot be flushed any more. -/
theorem prompt (h : Stalling times count fault whole cut) (text : String) :
    ∃ console console', Stalling times (count + 1) fault console console' ∧
      (whole.prompt text : Shown Dir)
        = ⟨[.out (Utf8.encode text), .flush true], none, console⟩ ∧
      (cut.prompt text : Shown Dir)
        = ⟨[.out (Utf8.encode text), .flush (count < times)],
            if count < times then none else some fault, console'⟩ := by
  obtain ⟨shown, shown', hshown, hprint, hprint'⟩ := @print Dir _ _ _ _ _ h [Utf8.encode text]
  obtain ⟨console, console', hconsole, hflush, hflush'⟩ := @flush Dir _ _ _ _ _ hshown
  refine ⟨console, console', hconsole, ?_, ?_⟩
  · simp [Console.prompt, hprint, hflush]
  · simp [Console.prompt, hprint', hflush']

theorem perform (h : Stalling times count fault whole cut) (action : Action Dir) :
    StallingTo times count fault (whole.perform action).1 (cut.perform action).1
      (whole.perform action).2 (cut.perform action).2 := by
  cases action with
  | note note => exact h.same rfl
  | report error => exact h.report error
  | print pieces =>
    obtain ⟨console, console', hconsole, hprint, hprint'⟩ :=
      @print Dir _ _ _ _ _ h (pieces.map Utf8.encode)
    unfold Console.perform
    simp only [hprint, hprint']
    exact hconsole.same rfl
  | launch name rest dir launch =>
    -- The launch goes on whether the flush worked or not.
    have hflush := @flush_noted Dir _ _ _ _ _ h .unflushedBeforeLaunch fun _ => rfl
    exact (hflush.append (hflush.console.same (by simp))).append
      ((hflush.append (hflush.console.same (by simp))).console.same rfl)

end Stalling

theorem StallingTo.lockstep : Lockstep (@StallingTo Dir times count fault) where
  step event hstep h := h.append (h.console.same (by cases event <;> simp_all [Event.isStep]))
  perform action h := h.append (h.console.perform action)

end Console

/-! ## Runs -/

/-- Two shells at the same point of their runs, on two such consoles. -/
structure Head.Stalling (times count : Nat) (fault : Fault) (whole cut : Head Dir State) : Prop where
  shell : cut.shell = whole.shell
  source : cut.source = whole.source
  console : whole.console.Stalling times count fault cut.console

/-- What becomes of the second run: it comes to the same as the first, or it stops at the first prompt
that it cannot flush. -/
inductive Run.Stalled (host : Host Dir State) (times count : Nat) (fault : Fault)
    (shell : Shell Dir State) (whole cut : Run Dir State) : Prop
  | alike :
      whole.trace.ReadsWithin times count →
      cut.result = whole.result →
      cut.shell = whole.shell →
      cut.trace.withoutUnflushed = (whole.trace.markFlushes times count).withoutUnflushed →
      Stalled host times count fault shell whole cut
  | stopped (before : Trace Dir) (reading : Reading String) (later : Trace Dir) :
      whole.trace = before ++ [.out (Utf8.encode shell.prompt), .flush true]
        ++ .read reading :: later →
      times ≤ count + before.flushes.length →
      before.ReadsWithin times count →
      cut.result = .error (.io fault) →
      cut.shell = (before.lines.map words).foldl (Shell.after host) shell →
      cut.trace.withoutUnflushed = (before.markFlushes times count).withoutUnflushed
        ++ [.out (Utf8.encode shell.prompt), .flush false] →
      Stalled host times count fault shell whole cut

section
variable {host : Host Dir State} {times count : Nat} {fault : Fault}

theorem Run.Stalled.following {shell : Shell Dir State} {line : String} {s s' : Trace Dir}
    {console console' : Console} {whole cut : Run Dir State}
    (h : Stalled host times (count + s.flushes.length) fault (shell.after host (words line)) whole cut)
    (hturn : Console.StallingTo times count fault s s' console console')
    (hreads : s.ReadsWithin times count) (hlines : s.lines = [line]) :
    Stalled host times count fault shell (whole.following s) (cut.following s') := by
  have htrace (t : Trace Dir) : (s'.withoutUnflushed
      ++ (t.markFlushes times (count + s.flushes.length)).withoutUnflushed)
        = ((s ++ t).markFlushes times count).withoutUnflushed := by
    rw [hturn.trace_eq, Trace.markFlushes_append, Trace.withoutUnflushed_append]
  cases h with
  | alike hwithin hresult hshell hcut =>
    refine .alike ((Trace.readsWithin_append _ _ _ _).2 ⟨hreads, hwithin⟩) hresult hshell ?_
    show (s' ++ cut.trace).withoutUnflushed = ((s ++ whole.trace).markFlushes times count).withoutUnflushed
    rw [Trace.withoutUnflushed_append, hcut, htrace]
  | stopped before reading later hwhole hover hwithin hresult hshell hcut =>
    refine .stopped (s ++ before) reading later ?_ ?_
      ((Trace.readsWithin_append _ _ _ _).2 ⟨hreads, hwithin⟩) hresult ?_ ?_
    · show s ++ whole.trace = _
      rw [hwhole]
      simp [Shell.after]
    · rw [Trace.flushes_append, List.length_append]
      omega
    · rw [Trace.lines_append, hlines]
      exact hshell
    · show (s' ++ cut.trace).withoutUnflushed = _
      rw [Trace.withoutUnflushed_append, hcut, ← List.append_assoc, htrace]
      rfl

section
variable {shell : Shell Dir State} {whole cut : Run Dir State}

/-- If every prompt is flushed by a flush that works, the two runs come to the same. -/
theorem Run.Stalled.of_within (h : Stalled host times 0 fault shell whole cut)
    (hwithin : ∀ (s : Trace Dir) (reading : Reading String) (t : Trace Dir),
      whole.trace = s ++ .read reading :: t → s.flushes.length ≤ times) :
    cut.result = whole.result ∧ cut.shell = whole.shell ∧ cut.trace.out = whole.trace.out ∧
      cut.trace.err = whole.trace.err ∧ cut.trace.launches = whole.trace.launches ∧
      cut.trace.withoutUnflushed = (whole.trace.markFlushes times 0).withoutUnflushed := by
  cases h with
  | alike _ hresult hshell htrace =>
    obtain ⟨hout, herr, hlaunches⟩ := Trace.observed_of_marked htrace
    exact ⟨hresult, hshell, hout, herr, hlaunches, htrace⟩
  | stopped before reading later hwhole hover =>
    have hread : before.flushes.length + 1 ≤ times := by simpa using hwithin _ _ _ hwhole
    omega

/-- If not, the second run stops at the first prompt that is not. -/
theorem Run.Stalled.of_not_within (h : Stalled host times 0 fault shell whole cut)
    (hover : ¬ ∀ (s : Trace Dir) (reading : Reading String) (t : Trace Dir),
      whole.trace = s ++ .read reading :: t → s.flushes.length ≤ times) :
    ∃ (before : Trace Dir) (reading : Reading String) (later : Trace Dir),
      whole.trace = before ++ [.out (Utf8.encode shell.prompt), .flush true]
        ++ .read reading :: later ∧
      times ≤ before.flushes.length ∧
      (∀ (s : Trace Dir) reading t, before = s ++ .read reading :: t → s.flushes.length ≤ times) ∧
      cut.result = .error (.io fault) ∧
      cut.shell = (before.lines.map words).foldl (Shell.after host) shell ∧
      cut.trace.out = before.out ++ Utf8.encode shell.prompt ∧ cut.trace.err = before.err ∧
      cut.trace.launches = before.launches ∧
      cut.trace.withoutUnflushed = (before.markFlushes times 0).withoutUnflushed
        ++ [.out (Utf8.encode shell.prompt), .flush false] := by
  cases h with
  | alike hreads =>
    refine absurd (fun s reading t hsplit => ?_) hover
    rw [hsplit] at hreads
    simpa using hreads.at
  | stopped before reading later hwhole hcount hreads hresult hshell htrace =>
    rw [Nat.zero_add] at hcount
    -- What the second run shows is the marked beginning of the first, the prompt included.
    let prompted : Trace Dir := before ++ [.out (Utf8.encode shell.prompt), .flush true]
    have hmarked : cut.trace.withoutUnflushed = (prompted.markFlushes times 0).withoutUnflushed := by
      rw [htrace, Trace.markFlushes_append, Trace.withoutUnflushed_append]
      simp [Trace.markFlushes, Trace.withoutUnflushed, hcount]
    obtain ⟨hout, herr, hlaunches⟩ := Trace.observed_of_marked hmarked
    refine ⟨before, reading, later, hwhole, hcount, ?_, hresult, hshell,
      by simpa [prompted] using hout, by simpa [prompted] using herr,
      by simpa [prompted] using hlaunches, htrace⟩
    intro s reading t hsplit
    rw [hsplit] at hreads
    simpa using hreads.at

end

namespace Head.Stalling

variable {whole cut : Head Dir State}

/-- A prompt that can be flushed is shown alike. -/
theorem shown (h : Stalling times count fault whole cut) (hcount : count < times) :
    whole.shown.fault? = none ∧ cut.shown.fault? = none ∧
      Console.StallingTo times count fault whole.shown.trace cut.shown.trace whole.shown.console
        cut.shown.console := by
  obtain ⟨console, console', hconsole, hprompt, hprompt'⟩ :=
    @Console.Stalling.prompt Dir _ _ _ _ _ h.console whole.shell.prompt
  unfold Head.shown
  rw [h.shell, hprompt, hprompt']
  exact ⟨rfl, if_pos hcount, rfl, hconsole⟩

/-- A line goes alike, from the prompt before it to the end of its command. -/
theorem line (h : Stalling times count fault whole cut) (hcount : count < times) (host : Host Dir State)
    (line : String) :
    Console.StallingTo times count fault
      (whole.shown.trace ++ .read (.line line) :: (whole.done host line).trace)
      (cut.shown.trace ++ .read (.line line) :: (cut.done host line).trace)
      (whole.done host line).bench.console (cut.done host line).bench.console := by
  obtain ⟨-, -, hshown⟩ := h.shown hcount
  exact @Console.Lockstep.line _ _ _ [] [] Console.StallingTo.lockstep _ _ h.shell hshown host line

/-- When the flushes that work are over, the second run stops here. -/
theorem stopped (h : Stalling times count fault whole cut) (hcount : times ≤ count)
    (host : Host Dir State) :
    Run.Stalled host times count fault whole.shell (whole.run host) (cut.run host) := by
  obtain ⟨_, console, -, hprompt, hprompt'⟩ :=
    @Console.Stalling.prompt Dir _ _ _ _ _ h.console whole.shell.prompt
  obtain ⟨reading, later, hwhole⟩ :=
    whole.exists_run_trace host (by rw [Head.shown, hprompt])
  have hshown : cut.shown = _ := (congrArg cut.console.prompt (congrArg _ h.shell)).trans hprompt'
  have hfault : cut.shown.fault? = some fault := by
    rw [hshown]
    exact if_neg (Nat.not_lt.2 hcount)
  rw [run_of_last (.unshown fault hfault)]
  refine .stopped [] reading later hwhole hcount trivial rfl h.shell ?_
  show cut.shown.trace.withoutUnflushed = _
  rw [hshown, decide_eq_false (Nat.not_lt.2 hcount)]
  rfl

end Head.Stalling

/-- The final flush fails at no cost. -/
theorem Shell.finish_stalling (shell : Shell Dir State) {s s' : Trace Dir} {console console' : Console}
    (h : Console.StallingTo times count fault s s' console console') :
    (shell.finish s' console').trace.withoutUnflushed
      = ((shell.finish s console).trace.markFlushes times count).withoutUnflushed := by
  have hfinish := h.append (h.console.flush_noted .unflushedOnExit fun _ => rfl)
  simpa only [finish, List.append_assoc] using hfinish.trace_eq

theorem Head.Stalling.run {whole cut : Head Dir State} (h : Stalling times count fault whole cut)
    (host : Host Dir State) :
    Run.Stalled host times count fault whole.shell (whole.run host) (cut.run host) := by
  refine turn_induction host (fun whole => ∀ (cut : Head Dir State) (count : Nat),
    Stalling times count fault whole cut →
      Run.Stalled host times count fault whole.shell (whole.run host) (cut.run host)) ?_ whole cut count h
  intro whole ih cut count h
  by_cases hcount : count < times
  case neg => exact h.stopped (Nat.le_of_not_lt hcount) host
  obtain ⟨hfault, hfault', hshown⟩ := h.shown hcount
  have htrace := Head.shown_of_none hfault
  rcases turn_or_last host whole with ⟨trace, next, hturn⟩ | ⟨run, hlast⟩
  · cases hturn with
    | mk line rest _ hread hends =>
      have hturn : Turn host whole _ _ := .mk line rest hfault hread hends
      have hturn' : Turn host cut _ _ := .mk line rest hfault' (h.source ▸ hread) hends
      have hline := h.line hcount host line
      have hreads : Trace.ReadsWithin times count
          (whole.shown.trace ++ .read (.line line) :: (whole.done host line).trace) := by
        rw [htrace]
        exact ⟨hcount, Trace.readsWithin_of_readings (whole.effect host line).readings_eq⟩
      have hnext : Stalling times _ fault ⟨whole.shell.after host (words line), rest, _⟩
          ⟨cut.shell.after host (words line), rest, _⟩ := ⟨by rw [h.shell], rfl, hline.console⟩
      rw [run_of_turn hturn, run_of_turn hturn']
      exact (ih _ _ hturn _ _ hnext).following hline hreads (whole.lines_line host line)
  · rw [run_of_last hlast]
    cases hlast with
    | unshown _ hunshown => cases hfault.symm.trans hunshown
    | unread failure rest _ hread =>
      rw [run_of_last (.unread failure rest hfault' (h.source ▸ hread))]
      have hboth := hshown.append (@Console.Stalling.same Dir _ _ _ _ _ [.read (.failed failure)]
        hshown.console rfl)
      exact .alike (by rw [htrace]; exact ⟨hcount, trivial⟩) rfl h.shell hboth.trace_eq
    | ended rest _ hread =>
      rw [run_of_last (.ended rest hfault' (h.source ▸ hread))]
      have hboth := hshown.append (@Console.Stalling.same Dir _ _ _ _ _
        [.read .endOfInput, .note .endOfInput] hshown.console rfl)
      have hcut := Shell.finish_stalling whole.shell hboth
      refine .alike ?_ rfl h.shell (by rwa [h.shell])
      rw [Shell.trace_finish_eq, htrace]
      exact ⟨hcount, Trace.readsWithin_of_readings (by simp)⟩
    | exited line rest _ hread hends =>
      rw [run_of_last (.exited line rest hfault' (h.source ▸ hread) hends)]
      have hcut := Shell.finish_stalling (whole.shell.after host (words line)) (h.line hcount host line)
      refine .alike ?_ rfl (by rw [h.shell]; rfl) (by rwa [h.shell])
      rw [Shell.trace_finish_eq, htrace]
      refine ⟨hcount, Trace.readsWithin_of_readings ?_⟩
      simp [(whole.effect host line).readings_eq]

end

/-! ## Flushes that all work -/

/-- On an output that never fails, a command flushes once for each launch. -/
theorem Effect.flushes_of_neverFails {host : Host Dir State} {history : History} {bench : Bench Dir}
    {launcher : State} {args : List String} {done : Dispatched Dir State}
    (h : Effect host history bench launcher args done) (hout : bench.console.out.device.NeverFails) :
    done.trace.flushes = List.replicate done.trace.launches.length true := by
  have hnone : bench.console.out.flush.1 = none := hout.flushes _
  obtain ⟨hflushes, hlaunches⟩ | ⟨later, htrace, hflushes, hlaunches⟩ := h.flush_launch
  · rw [hflushes, hlaunches]
    rfl
  · simp [htrace, hflushes, hlaunches, hnone]

/-- A trace in which every flush worked: one for each read, one for each launch, and some more. -/
def Trace.Flushed (more : Nat) (t : Trace Dir) : Prop :=
  t.flushes = List.replicate (t.readings.length + t.launches.length + more) true

theorem Trace.Flushed.append {more more' : Nat} {s t : Trace Dir} (h : s.Flushed more)
    (h' : t.Flushed more') : (s ++ t).Flushed (more + more') := by
  unfold Flushed at *
  rw [flushes_append, readings_append, launches_append, h, h', List.replicate_append_replicate,
    List.length_append, List.length_append]
  congr 1
  omega

theorem Trace.Flushed.eq_none {more : Nat} {t : Trace Dir} {fault? : Option Fault} (h : t.Flushed more)
    (hmem : .flush fault?.isNone ∈ t) : fault? = none := by
  have hworked := mem_flushes_iff.2 hmem
  rw [h] at hworked
  simpa using List.eq_of_mem_replicate hworked

/-- From the prompt before a line to the end of its command. -/
theorem Head.flushed_line {head : Head Dir State} (hout : head.console.out.device.NeverFails)
    (host : Host Dir State) (line : String) :
    (head.shown.trace ++ .read (.line line) :: (head.done host line).trace).Flushed 0 ∧
      (head.done host line).bench.console.out.device.NeverFails := by
  obtain ⟨out, hafter, hprompt⟩ := @Console.prompt_of_neverFails Dir _ hout head.shell.prompt
  have hshown : head.shown = _ := hprompt
  have heffect := head.effect host line
  rw [hshown] at heffect ⊢
  refine ⟨?_, (heffect.out_of_neverFails hafter).2⟩
  have hprompt : Trace.Flushed 0 ([.out (Utf8.encode head.shell.prompt), .flush true]
    ++ [.read (.line line)] : Trace Dir) := rfl
  rw [List.append_cons]
  refine @Trace.Flushed.append Dir 0 0 _ _ hprompt ?_
  rw [Trace.Flushed, heffect.flushes_of_neverFails hafter, heffect.readings_eq]
  simp

theorem Shell.flushed_finish (shell : Shell Dir State) {s : Trace Dir} {console : Console}
    (h : s.Flushed 0) (hout : console.out.device.NeverFails) :
    (shell.finish s console).trace.Flushed 1 := by
  have hnone : console.out.flush.1 = none := hout.flushes _
  rw [trace_finish_eq, hnone]
  exact @Trace.Flushed.append Dir 0 1 _ _ h rfl

/-- On an output that never fails, there is one flush for each time something is asked for, one for each
launch, and one more at the end of a run that succeeds. -/
theorem flushed_run (host : Host Dir State) (head : Head Dir State)
    (hout : head.console.out.device.NeverFails) :
    (head.run host).trace.Flushed (head.run host).result.isOk.toNat := by
  refine turn_induction host (fun head => head.console.out.device.NeverFails →
    (head.run host).trace.Flushed (head.run host).result.isOk.toNat) ?_ head hout
  intro head ih hout
  have hline := head.flushed_line hout host
  obtain ⟨out, hafter, hprompt⟩ := @Console.prompt_of_neverFails Dir _ hout head.shell.prompt
  have hshown : head.shown = _ := hprompt
  rcases turn_or_last host head with ⟨trace, next, hturn⟩ | ⟨run, hlast⟩
  · rw [run_of_turn hturn]
    cases hturn with
    | mk line rest hfault hread hends =>
      obtain ⟨hfirst, hnext⟩ := hline line
      have hboth := hfirst.append (ih _ _ (.mk line rest hfault hread hends) hnext)
      rwa [Nat.zero_add] at hboth
  · rw [run_of_last hlast]
    cases hlast with
    | unshown fault hfault => cases (congrArg Shown.fault? hshown).symm.trans hfault
    | unread => rw [hshown]; rfl
    | ended => exact Shell.flushed_finish _ (by rw [hshown]; rfl) (by rw [hshown]; exact hafter)
    | exited line => exact Shell.flushed_finish _ (hline line).1 (hline line).2

/-- On an output that never fails, a launch stands right behind the flush before it. -/
theorem exists_flush_of_launch (host : Host Dir State) (head : Head Dir State)
    (hout : head.console.out.device.NeverFails) {s t : Trace Dir} {args : List String} {dir : Dir}
    (hsplit : (head.run host).trace = s ++ .launch args dir :: t) :
    ∃ before : Trace Dir, s = before ++ [.flush true] := by
  obtain ⟨before, line, history, fault?, rfl, -⟩ := inOrder_of_split host head hsplit
  obtain rfl : fault? = none := (flushed_run host head hout).eq_none (by rw [hsplit]; simp)
  exact ⟨before ++ [.out (Utf8.encode head.shell.prompt), .flush true, .read (.line line),
    .dispatch args history], by simp [unflushedNotes]⟩

/-- On an output that never fails, a run that succeeds ends with the final flush. -/
theorem exists_flush_of_ok (host : Host Dir State) (head : Head Dir State)
    (hout : head.console.out.device.NeverFails) (hresult : (head.run host).result = .ok ()) :
    ∃ before : Trace Dir, (head.run host).trace = before ++ [.flush true] := by
  obtain ⟨before, last, htrace, hending⟩ := ending_run host head
  rw [hresult] at hending
  cases hending with
  | ok reading closing fault? =>
    obtain rfl : fault? = none := (flushed_run host head hout).eq_none (by rw [htrace]; simp)
    exact ⟨before ++ ([.out (Utf8.encode head.shell.prompt), .flush true, .read reading] ++ closing),
      by simpa [unflushedNotes] using htrace⟩

/-- Flushes that stop working. On an output that never fails, a run flushes once behind each prompt, once
before each launch, and once at the end if it succeeds. On one that differs in that only the first `times`
flushes work, it comes to the same but for the flushes themselves, so long as each prompt is flushed by one
of these. If not, it goes alike up to the first prompt that is not, launches before it included whose own
flush failed, and ends there with the failure: it reads nothing more and does not flush again. -/
theorem run_flushing (host : Host Dir State) (shell : Shell Dir State) (source : Source)
    (device device' : Device) (err : Sink) (times : Nat) (fault : Fault) (hdevice : device.NeverFails)
    (hdevice' : device'.TakesAll) :
    let whole := shell.run host source { out := { device }, err }
    let cut := shell.run host source { out := { device := device'.flushing times fault }, err }
    let prompt := Utf8.encode shell.prompt
    let within := ∀ (s : Trace Dir) (reading : Reading String) (t : Trace Dir),
      whole.trace = s ++ .read reading :: t → s.flushes.length ≤ times
    (∀ s reading t, whole.trace = s ++ .read reading :: t →
      ∃ before : Trace Dir, s = before ++ [.out prompt, .flush true]) ∧
    (∀ s args dir t, whole.trace = s ++ .launch args dir :: t →
      ∃ before : Trace Dir, s = before ++ [.flush true]) ∧
    (whole.result = .ok () → ∃ before : Trace Dir, whole.trace = before ++ [.flush true]) ∧
    whole.trace.flushes = List.replicate
      (whole.trace.readings.length + whole.trace.launches.length + whole.result.isOk.toNat) true ∧
    (within →
      cut.result = whole.result ∧ cut.shell = whole.shell ∧
        cut.trace.out = whole.trace.out ∧ cut.trace.err = whole.trace.err ∧
        cut.trace.launches = whole.trace.launches ∧
        cut.trace.withoutUnflushed = (whole.trace.markFlushes times 0).withoutUnflushed) ∧
    (¬ within → ∃ (before : Trace Dir) (reading : Reading String) (later : Trace Dir),
      whole.trace = before ++ [.out prompt, .flush true] ++ .read reading :: later ∧
        times ≤ before.flushes.length ∧
        (∀ (s : Trace Dir) reading t, before = s ++ .read reading :: t → s.flushes.length ≤ times) ∧
        cut.result = .error (.io fault) ∧
        cut.shell = (before.lines.map words).foldl (Shell.after host) shell ∧
        cut.trace.out = before.out ++ prompt ∧ cut.trace.err = before.err ∧
        cut.trace.launches = before.launches ∧
        cut.trace.withoutUnflushed
          = (before.markFlushes times 0).withoutUnflushed ++ [.out prompt, .flush false]) := by
  intro whole cut prompt within
  let head : Head Dir State := ⟨shell, source, { out := { device }, err }⟩
  let head' : Head Dir State :=
    ⟨shell, source, { out := { device := device'.flushing times fault }, err }⟩
  have hstalling : head.Stalling times 0 fault head' :=
    ⟨rfl, rfl, rfl, hdevice, hdevice', fun _ => rfl, rfl⟩
  have hstalled : Run.Stalled host times 0 fault shell whole cut := hstalling.run host
  exact ⟨fun s reading t hsplit => inOrder_of_split host head hsplit,
    fun s args dir t hsplit => exists_flush_of_launch host head hdevice hsplit,
    exists_flush_of_ok host head hdevice, flushed_run host head hdevice, hstalled.of_within,
    hstalled.of_not_within⟩

/-- A launch between two prompts. With three flushes that work only the final one fails. With one, the
launch is not flushed, and the prompt behind it ends the run. -/
theorem run_flushing_launch :
    let bytes := Utf8.encode "ls\n"
    let fault : Fault := .plain .other
    let shell : Shell Unit (List Outcome) := { prompt := "> ", dir := (), launcher := [.exited 0] }
    let host := Host.scripted fun _ _ => .error (.plain .notFound)
    let run times := shell.run host [.piece bytes]
      { out := { device := Device.reliable.flushing times fault } }
    Device.reliable.NeverFails ∧ Device.reliable.TakesAll ∧
      (run 3).result = .ok () ∧ (run 3).trace.launches = [(["ls"], ())] ∧
      (run 1).result = .error (.io fault) := by
  intro bytes fault shell host run
  have hreliable := Device.neverFails_reliable
  -- The run on a working output, event by event.
  let whole := shell.run host [.piece bytes] {}
  let turn : Trace Unit := [.out (Utf8.encode "> "), .flush true, .read (.line "ls\n"),
    .dispatch ["ls"] ⟨["ls"]⟩, .flush true, .launch ["ls"] (), .childOut [], .childErr [],
    .note (.childExited "ls" 0)]
  have hwhole : whole = _ := run_eq_of_delivers host shell (Source.delivers_piece bytes)
    (.inr (by decide)) ⟨hreliable, hreliable⟩ (by decide)
  have htrace : whole.trace = turn ++ [.out (Utf8.encode "> "), .flush true]
      ++ .read .endOfInput :: [.note .endOfInput, .flush true] := by
    rw [hwhole]
    decide
  obtain ⟨-, -, -, -, halike, -⟩ := run_flushing host shell [.piece bytes] .reliable .reliable {} 3 fault
    hreliable hreliable.takesAll
  obtain ⟨-, -, -, -, -, hstops⟩ := run_flushing host shell [.piece bytes] .reliable .reliable {} 1 fault
    hreliable hreliable.takesAll
  have hreads : whole.trace.ReadsWithin 3 0 := by
    rw [htrace]
    exact ⟨by decide, by decide, trivial⟩
  obtain ⟨hresult, -, -, -, hlaunches, -⟩ := halike fun s reading t hsplit => by
    rw [show whole.trace = _ from hsplit] at hreads
    simpa using hreads.at
  obtain ⟨_, _, _, -, -, -, hstopped, -⟩ := hstops fun hwithin =>
    absurd (hwithin _ _ _ htrace) (by decide)
  refine ⟨hreliable, hreliable.takesAll, hresult.trans ?_, hlaunches.trans ?_, hstopped⟩
  · exact congrArg Run.result hwhole
  · exact (congrArg Trace.launches htrace).trans (by decide)

end LineShell
