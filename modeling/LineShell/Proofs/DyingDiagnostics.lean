import LineShell.Proofs.Actions
import LineShell.Proofs.Transcript
import Mathlib.Data.List.Forall2
/-!
# A standard error that dies

Two runs of one shell on one source and one standard output: the first on a standard error that takes
all it is given, the second on one that takes a number of bytes in all and denies every write after
them. Nothing but the diagnostics tells the two apart: the second run is the first with its diagnostics
cut behind these bytes (`Trace.clipErr`), event by event. No step of the shell looks at what came of a
diagnostic.
-/

namespace LineShell

variable {Dir State : Type}

namespace Trace

/-- The trace with only the first `room` bytes of standard error taken. -/
def clipErr (room : Nat) : Trace Dir → Trace Dir
  | [] => []
  | .err bytes :: t => .err (bytes.take room) :: clipErr (room - bytes.length) t
  | event :: t => event :: clipErr room t

section
variable (room : Nat) (s t : Trace Dir)

theorem clipErr_append :
    clipErr room (s ++ t) = clipErr room s ++ clipErr (room - s.err.length) t := by
  fun_induction clipErr room s with
  | case1 => rfl
  | case2 room bytes s ih => simp [clipErr, ih, Nat.sub_sub]
  | case3 room event s herr ih =>
    cases event with
    | err bytes => exact absurd rfl (herr bytes)
    | _ => simp [clipErr, ih]

theorem clipErr_of_err_eq_nil (h : t.err = []) : clipErr room t = t := by
  fun_induction clipErr room t with
  | case1 => rfl
  | case2 room bytes t ih =>
    obtain ⟨rfl, ht⟩ : bytes = [] ∧ err t = [] := by simpa using h
    rw [ih ht, List.take_nil]
  | case3 room event t herr ih =>
    cases event with
    | err bytes => exact absurd rfl (herr bytes)
    | _ => rw [ih (by simpa using h)]

/-- What standard error took is cut behind `room` bytes. -/
@[simp] theorem err_clipErr : (clipErr room t).err = t.err.take room := by
  fun_induction clipErr room t with
  | case1 => simp
  | case2 room bytes t ih => simp [ih, List.take_append]
  | case3 room event t herr ih =>
    cases event with
    | err bytes => exact absurd rfl (herr bytes)
    | _ => simpa using ih

/-! No other event is touched. -/

@[simp] theorem out_clipErr : (clipErr room t).out = t.out := by
  fun_induction clipErr room t <;> simp_all

@[simp] theorem flushes_clipErr : (clipErr room t).flushes = t.flushes := by
  fun_induction clipErr room t <;> simp_all [flushes, List.filterMap_cons]

@[simp] theorem launches_clipErr : (clipErr room t).launches = t.launches := by
  fun_induction clipErr room t <;> simp_all

end

theorem err_flatMap {A : Type} (f : A → Trace Dir) (l : List A) :
    err (l.flatMap f) = l.flatMap fun a => (f a).err :=
  List.flatMap_assoc

end Trace

/-- A run with only the first `room` bytes of standard error taken. -/
def Run.clipErr (room : Nat) (run : Run Dir State) : Run Dir State :=
  { run with trace := run.trace.clipErr room }

/-! ## Consoles -/

namespace Console

/-- Two consoles with one standard output. The first one's standard error takes all, the second one's
`room` more bytes. -/
structure Clipped (room : Nat) (whole cut : Console) : Prop where
  out : cut.out = whole.out
  takesAll : whole.err.device.TakesAll
  closes : ∃ limit, cut.err.device.Closes limit (fun _ => True) ∧ limit - cut.err.past.taken = room

/-- What comes of an operation on either console: the second trace is the first, clipped, and there is
less room than before. -/
structure ClippedTo (room : Nat) (trace trace' : Trace Dir) (whole cut : Console) : Prop where
  trace_eq : trace' = trace.clipErr room
  console : Clipped (room - trace.err.length) whole cut

variable {room : Nat} {mid mid' whole cut : Console} {s s' t t' : Trace Dir}

theorem ClippedTo.append (h : ClippedTo room s s' mid mid')
    (h' : ClippedTo (room - s.err.length) t t' whole cut) :
    ClippedTo room (s ++ t) (s' ++ t') whole cut where
  trace_eq := by rw [h.trace_eq, h'.trace_eq, Trace.clipErr_append]
  console := by
    rw [Trace.err_append, List.length_append, ← Nat.sub_sub]
    exact h'.console

/-- What does not write to standard error goes alike on both. -/
theorem Clipped.same (h : Clipped room whole cut) (ht : t.err = []) : ClippedTo room t t whole cut where
  trace_eq := (t.clipErr_of_err_eq_nil room ht).symm
  console := by simpa [ht] using h

theorem Clipped.append (h : Clipped room mid mid') (hs : s.err = [])
    (h' : ClippedTo room t t' whole cut) : ClippedTo room (s ++ t) (s ++ t') whole cut :=
  (h.same hs).append (by simpa [hs] using h')

namespace Clipped

/-- A diagnostic is cut where it does not fit, and nobody is told. -/
theorem report (h : Clipped room whole cut) (error : ShellError) :
    let reported : Trace Dir × Console := whole.report error
    let reported' : Trace Dir × Console := cut.report error
    ClippedTo room reported.1 reported'.1 reported.2 reported'.2 := by
  let pieces := (diagnosticPieces error).map Utf8.encode
  obtain ⟨limit, hcloses, rfl⟩ := h.closes
  obtain ⟨htaken, -⟩ := Sink.putAll_of_takesAll h.takesAll pieces
  obtain ⟨htaken', -⟩ := Sink.putAll_of_closes hcloses pieces
  have hwhole := whole.err.advances_putAll pieces
  have hcut := cut.err.advances_putAll pieces
  refine ⟨?_, h.out, hwhole.device.symm ▸ h.takesAll, limit, hcut.device.symm ▸ hcloses, ?_⟩
  · show [Event.err (cut.err.putAll pieces).taken] = [.err ((whole.err.putAll pieces).taken.take _)]
    rw [htaken, htaken']
  · show limit - (cut.err.putAll pieces).sink.past.taken
      = limit - cut.err.past.taken - ((whole.err.putAll pieces).taken ++ []).length
    rw [hcut.taken, htaken', htaken, List.append_nil, List.length_take]
    omega

/-- Printing looks at standard output alone. -/
theorem print (h : Clipped room whole cut) (pieces : List Bytes) :
    ∃ console, Clipped room (whole.print pieces : Shown Dir).console console ∧
      (cut.print pieces : Shown Dir) = { (whole.print pieces) with console } := by
  obtain ⟨out, err⟩ := cut
  obtain rfl := h.out
  exact ⟨{ (whole.print pieces : Shown Dir).console with err }, ⟨rfl, h.takesAll, h.closes⟩, rfl⟩

theorem flush (h : Clipped room whole cut) :
    ∃ console, Clipped room (whole.flush : Shown Dir).console console ∧
      (cut.flush : Shown Dir) = { whole.flush with console } := by
  obtain ⟨out, err⟩ := cut
  obtain rfl := h.out
  exact ⟨{ (whole.flush : Shown Dir).console with err }, ⟨rfl, h.takesAll, h.closes⟩, rfl⟩

theorem prompt (h : Clipped room whole cut) (text : String) :
    ∃ console, Clipped room (whole.prompt text : Shown Dir).console console ∧
      (cut.prompt text : Shown Dir) = { (whole.prompt text) with console } :=
  prompt_alike text (h.print _) flush

/-- Whatever a command does, it does on both. -/
theorem perform (h : Clipped room whole cut) (action : Action Dir) :
    ClippedTo room (whole.perform action).1 (cut.perform action).1 (whole.perform action).2
      (cut.perform action).2 := by
  cases action with
  | note note => exact h.same rfl
  | report error => exact h.report error
  | print pieces =>
    obtain ⟨console, hconsole, hprint⟩ := @print Dir _ _ _ h (pieces.map Utf8.encode)
    unfold Console.perform
    simp only [hprint]
    cases (whole.print (pieces.map Utf8.encode) : Shown Dir).fault? with
    | none => exact hconsole.same rfl
    | some fault => exact hconsole.append rfl (hconsole.report _)
  | launch name rest dir launch =>
    obtain ⟨console, hconsole, hflush⟩ := @flush Dir _ _ _ h
    unfold Console.perform
    simp only [hflush]
    refine hconsole.same ?_
    simp [Console.flush]

end Clipped

theorem ClippedTo.lockstep : Lockstep (@ClippedTo Dir room) where
  step event hstep h := h.append (h.console.same (by cases event <;> simp_all [Event.isStep]))
  perform action h := h.append (h.console.perform action)

end Console

/-! ## Commands -/

/-- What carrying out a command leads to apart from its diagnostics is the same for both. -/
structure Dispatched.Alike (done done' : Dispatched Dir State) : Prop where
  signal : done'.signal = done.signal
  dir : done'.bench.dir = done.bench.dir
  launcher : done'.launcher = done.launcher
  out : done'.trace.out = done.trace.out
  flushes : done'.trace.flushes = done.trace.flushes
  launches : done'.trace.launches = done.trace.launches

section
variable {host : Host Dir State} {history : History} {dir : Dir} {launcher : State} {room : Nat}
  {whole cut : Console}

theorem Console.Clipped.dispatch (h : whole.Clipped room cut) (args : List String) :
    let done := dispatch host history args ⟨whole, dir⟩ launcher
    let done' := dispatch host history args ⟨cut, dir⟩ launcher
    ClippedTo room done.trace done'.trace done.bench.console done'.bench.console ∧
      done.Alike done' := by
  intro done done'
  have hcommand : ClippedTo room done.trace done'.trace done.bench.console done'.bench.console :=
    ClippedTo.lockstep.dispatch (@same Dir _ _ _ [] h rfl) host history dir launcher args
  have heffect : Effect host history ⟨whole, dir⟩ launcher args done := effect_dispatch args
  have heffect' : Effect host history ⟨cut, dir⟩ launcher args done' := effect_dispatch args
  obtain ⟨hsignal, hdir, hlauncher⟩ := heffect.agree heffect' rfl
  refine ⟨hcommand, hsignal, hdir, hlauncher, ?_, ?_, ?_⟩
  · exact (congrArg Trace.out hcommand.trace_eq).trans (Trace.out_clipErr _ _)
  · exact (congrArg Trace.flushes hcommand.trace_eq).trans (Trace.flushes_clipErr _ _)
  · exact (congrArg Trace.launches hcommand.trace_eq).trans (Trace.launches_clipErr _ _)

/-- Commands one after another go alike on both consoles, and their diagnostics are cut once. -/
theorem Console.Clipped.dispatchAll (h : whole.Clipped room cut) (orders : List Order) :
    let dones := dispatchAll host history ⟨whole, dir⟩ launcher orders
    let dones' := dispatchAll host history ⟨cut, dir⟩ launcher orders
    List.Forall₂ Dispatched.Alike dones dones' ∧
      dones'.flatMap (·.trace) = Trace.clipErr room (dones.flatMap (·.trace)) := by
  induction orders generalizing history dir launcher room whole cut with
  | nil => exact ⟨.nil, rfl⟩
  | cons order orders ih =>
    let found := order.historyAfter history
    let done := LineShell.dispatch host found order.args ⟨whole, dir⟩ launcher
    let done' := LineShell.dispatch host found order.args ⟨cut, dir⟩ launcher
    obtain ⟨hfirst, halike⟩ : ClippedTo room done.trace done'.trace done.bench.console
        done'.bench.console ∧ done.Alike done' := h.dispatch order.args
    obtain ⟨hlater, htraces⟩ := @ih found (dirAfter host dir order.args)
      (launcherAfter host dir launcher order.args) _ _ _ hfirst.console
    simp only [dispatchAll_cons, List.flatMap_cons]
    rw [Trace.clipErr_append, ← hfirst.trace_eq]
    exact ⟨.cons halike hlater, congrArg _ htraces⟩

end

/-! ## Runs -/

/-- What a run writes to standard error are diagnostics, so the rest of it goes alike. -/
theorem Console.ClippedTo.tandem (room : Nat) : Tandem (@ClippedTo Dir room) where
  lockstep := ClippedTo.lockstep
  prompt {_ _ whole cut} text h := by
    obtain ⟨console, hconsole, hprompt⟩ := @Clipped.prompt Dir _ _ _ h.console text
    have herr : (whole.prompt text : Shown Dir).trace.err = [] := by
      obtain ⟨bytes, htrace | ⟨worked, htrace⟩⟩ := @prompt_trace Dir whole text <;> simp [htrace]
    dsimp only
    rw [hprompt]
    exact ⟨rfl, h.append (hconsole.same herr)⟩
  finish {_ _ whole cut} h := by
    obtain ⟨console, hconsole, hflush⟩ := @Clipped.flush Dir _ _ _ h.console
    dsimp only
    rw [hflush]
    exact h.append (hconsole.same (by simp [Console.flush]))

/-- Two shells at the same point of their runs, the second with so many bytes of room on standard
error. -/
structure Head.Clipped (room : Nat) (whole cut : Head Dir State) : Prop where
  shell : cut.shell = whole.shell
  source : cut.source = whole.source
  console : whole.console.Clipped room cut.console

/-- The second run is the first with its diagnostics cut. -/
theorem Head.Clipped.run {host : Host Dir State} {room : Nat} {whole cut : Head Dir State}
    (h : Clipped room whole cut) : cut.run host = (whole.run host).clipErr room := by
  have hstart : Console.ClippedTo room ([] : Trace Dir) [] whole.console cut.console :=
    h.console.same rfl
  obtain ⟨trace, hrun, console, console', htrace, -⟩ :=
    (Console.ClippedTo.tandem room).run h.shell h.source hstart host
  rw [hrun, show trace = _ from htrace]
  rfl

/-- A standard error that dies changes nothing else. Whatever it does behind its first `limit` bytes, a
run has the same result, leaves the same shell, and is observed as on one that takes all, but for the
diagnostics, of which just these bytes are taken. Commands carried out one after another give the same
signals too. -/
theorem run_of_closes_err (host : Host Dir State) (out : Sink) (device device' : Device) (limit : Nat)
    (hdevice : device.TakesAll) (hdevice' : device'.Closes limit fun _ => True) :
    (∀ (shell : Shell Dir State) (source : Source),
      let whole := shell.run host source { out, err := { device } }
      let cut := shell.run host source { out, err := { device := device' } }
      cut.result = whole.result ∧
        cut.shell = whole.shell ∧
        cut.trace = whole.trace.clipErr limit ∧
        cut.trace.out = whole.trace.out ∧
        cut.trace.flushes = whole.trace.flushes ∧
        cut.trace.launches = whole.trace.launches ∧
        cut.trace.err = whole.trace.err.take limit) ∧
    ∀ (history : History) (dir : Dir) (launcher : State) (orders : List Order),
      let whole := dispatchAll host history ⟨{ out, err := { device } }, dir⟩ launcher orders
      let cut := dispatchAll host history ⟨{ out, err := { device := device' } }, dir⟩ launcher orders
      List.Forall₂ Dispatched.Alike whole cut ∧
        cut.flatMap (·.trace) = Trace.clipErr limit (whole.flatMap (·.trace)) ∧
        cut.flatMap (·.trace.err) = (whole.flatMap (·.trace.err)).take limit := by
  have hclipped : Console.Clipped limit { out, err := { device } } { out, err := { device := device' } } :=
    ⟨rfl, hdevice, limit, hdevice', rfl⟩
  constructor
  · intro shell source whole cut
    let head : Head Dir State := ⟨shell, source, { out, err := { device } }⟩
    have hhead : head.Clipped limit ⟨shell, source, { out, err := { device := device' } }⟩ :=
      ⟨rfl, rfl, hclipped⟩
    have hrun : cut = whole.clipErr limit := hhead.run
    rw [hrun]
    exact ⟨rfl, rfl, rfl, Trace.out_clipErr _ _, Trace.flushes_clipErr _ _, Trace.launches_clipErr _ _,
      Trace.err_clipErr _ _⟩
  · intro history dir launcher orders whole cut
    obtain ⟨halike, htraces⟩ : List.Forall₂ Dispatched.Alike whole cut ∧
        cut.flatMap (·.trace) = Trace.clipErr limit (whole.flatMap (·.trace)) :=
      hclipped.dispatchAll orders
    refine ⟨halike, htraces, ?_⟩
    have herr := congrArg Trace.err htraces
    rwa [Trace.err_clipErr, Trace.err_flatMap, Trace.err_flatMap] at herr

/-- A standard error that takes ten bytes of the first of two diagnostics. -/
theorem run_of_closes_err_missing_argument :
    let bytes := Utf8.encode "cd\nls\n"
    let shell : Shell Unit (List Outcome) :=
      { prompt := "> ", dir := (), launcher := [.failed (.plain .notFound)] }
    let host := Host.scripted fun _ _ => .error (.plain .notFound)
    let device := Device.reliable.limited 10 .takesNothing
    let cut := shell.run host [.piece bytes] { err := { device } }
    Device.reliable.TakesAll ∧ device.Closes 10 (fun _ => True) ∧
      cut.result = .ok () ∧ cut.trace.launches = [(["ls"], ())] ∧
      cut.trace.out = Utf8.encode "> > > " ∧ cut.trace.err = Utf8.encode "shell: exp" := by
  intro bytes shell host device cut
  have hreliable := Device.neverFails_reliable
  have hcloses : device.Closes 10 fun _ => True :=
    (Device.closes_limited hreliable.takesAll 10 .takesNothing).mono fun _ _ => trivial
  obtain ⟨hruns, -⟩ := run_of_closes_err host {} .reliable device 10 hreliable.takesAll hcloses
  obtain ⟨hresult, -, -, hout, -, hlaunches, herr⟩ := hruns shell [.piece bytes]
  -- The run on a standard error that takes all is told by its two lines.
  let head : Head Unit (List Outcome) := ⟨shell, [.piece bytes], {}⟩
  obtain ⟨hresult', hlines, hout', herr'⟩ :=
    run_of_lines host _ head bytes rfl (Source.delivers_piece bytes) hreliable hreliable
  have hlaunches' := launches_run host head
  have hcommands : (upToExit ((linesOf bytes).map Utf8.decode)).map words = [["cd"], ["ls"]] := by decide
  rw [hlines, hcommands] at hlaunches'
  rw [hcommands] at hout' herr'
  refine ⟨hreliable.takesAll, hcloses, hresult.trans hresult', hlaunches.trans hlaunches', ?_, ?_⟩
  · exact hout.trans (hout'.trans (congrArg Utf8.encode (by decide)))
  · exact herr.trans ((congrArg (List.take 10) herr').trans (by decide))

end LineShell
