import LineShell.Proofs.Actions
import LineShell.Proofs.Transcript
/-!
# Short and interrupted writes

A stream may take little of each write, and be interrupted before any of them. What it has seen in the end
is the same as if each write had been taken whole: the bytes, and the flushes between them
(`Past.seen`). This holds up to a limit as well, for what is left over of a write is offered again and
nothing else. So nothing that the shell does can tell two consoles apart that differ in how they cut writes
(`Console.Agrees`), and a run on either is the same run.
-/

namespace LineShell

variable {Dir State : Type}

/-! ## What a stream has seen -/

/-- What a stream has seen, however it was cut into calls: every byte it took, and `none` for a flush. -/
def Past.seen (past : Past) : List (Option UInt8) :=
  past.calls.reverse.flatMap fun
    | .write offered taken => (offered.take taken).map some
    | .flush => [none]

@[simp] theorem Past.seen_wrote (past : Past) (offered : Bytes) (taken : Nat) :
    (past.wrote offered taken).seen = past.seen ++ (offered.take taken).map some := by
  simp [seen, wrote]

@[simp] theorem Past.seen_flushed (past : Past) : past.flushed.seen = past.seen ++ [none] := by
  simp [seen, flushed]

namespace Sink

/-- A call adds what it takes. -/
theorem seen_write (sink : Sink) (bytes : Bytes) :
    (sink.write bytes).2.past.seen = sink.past.seen
      ++ match (sink.write bytes).1 with | .ok n => (bytes.take n).map some | .error _ => [] := by
  unfold write
  split
  · exact (List.append_nil _).symm
  · split <;> simp

theorem seen_put (sink : Sink) (bytes : Bytes) :
    (sink.put bytes).sink.past.seen = sink.past.seen ++ (sink.put bytes).taken.map some := by
  fun_induction put sink bytes with
  | case1 => exact (List.append_nil _).symm
  | case2 sink bytes _ fault after h _ ih =>
    have hcall := sink.seen_write bytes
    rw [h, List.append_nil] at hcall
    rw [ih, ← hcall]
  | case3 sink bytes _ fault after h =>
    have hcall := sink.seen_write bytes
    rwa [h] at hcall
  | case4 sink bytes _ after h =>
    have hcall := sink.seen_write bytes
    rwa [h] at hcall
  | case5 sink bytes _ n after h rest ih =>
    have hcall := sink.seen_write bytes
    rw [h] at hcall
    show rest.sink.past.seen = sink.past.seen ++ (bytes.take (n + 1) ++ rest.taken).map some
    rw [ih, show after.past.seen = _ from hcall, List.map_append, List.append_assoc]

/-- Pieces add what is taken of them, whatever the calls were. -/
theorem seen_putAll (sink : Sink) (pieces : List Bytes) :
    (sink.putAll pieces).sink.past.seen = sink.past.seen ++ (sink.putAll pieces).taken.map some := by
  induction pieces generalizing sink with
  | nil => exact (List.append_nil _).symm
  | cons piece pieces ih =>
    cases hfault : (sink.put piece).fault? with
    | some fault =>
      rw [putAll_cons_of_some hfault]
      exact sink.seen_put piece
    | none =>
      rw [putAll_cons_of_none hfault, ih, sink.seen_put, List.map_append, List.append_assoc]

end Sink

/-! ## Devices that cut writes -/

namespace Device

/-- Takes every write whole. Whether a flush works is told by what was seen before it. -/
def whole (flush : List (Option UInt8) → Option Fault) : Device where
  flush past := flush past.seen

/-- Whether a flush of the device works is told by what was seen, not by how that was cut into calls. -/
def FlushesBy (device : Device) (flush : List (Option UInt8) → Option Fault) : Prop :=
  ∀ past, device.flush past = flush past.seen

/-- The device up to a limit, if there is one. -/
def upTo (device : Device) (limit? : Option (Nat × Denial)) : Device :=
  limit?.elim device fun (room, denial) => device.limited room denial

/-- Both devices take all that they are given, or both take it up to one limit and then fail in one
way. -/
def TakesAlike (device device' : Device) : Prop :=
  device.TakesAll ∧ device'.TakesAll ∨
    ∃ limit fault, device.Closes limit (· = fault) ∧ device'.Closes limit (· = fault)

variable {device device' : Device} {flush : List (Option UInt8) → Option Fault}

theorem takesAll_whole (flush : List (Option UInt8) → Option Fault) : (whole flush).TakesAll :=
  fun _ bytes hne => ⟨bytes.length, List.length_pos_iff.2 hne, rfl⟩

theorem flush_upTo (device : Device) (limit? : Option (Nat × Denial)) :
    (device.upTo limit?).flush = device.flush := by
  cases limit? <;> rfl

theorem takesAlike_upTo (h : device.TakesAll) (h' : device'.TakesAll)
    (limit? : Option (Nat × Denial)) : (device.upTo limit?).TakesAlike (device'.upTo limit?) := by
  cases limit? with
  | none => exact .inl ⟨h, h'⟩
  | some limit =>
    obtain ⟨room, denial⟩ := limit
    exact .inr ⟨room, denial.fault, closes_limited h room denial, closes_limited h' room denial⟩

theorem TakesAll.inPortions (h : device.TakesAll) {most : Nat} (hmost : 0 < most) :
    (device.inPortions most).TakesAll := by
  intro past bytes hne
  obtain ⟨taken, hpos, hanswer⟩ := h past bytes hne
  exact ⟨min taken most, by omega, by simp [Device.inPortions, hanswer]⟩

theorem TakesAll.interruptedEach (h : device.TakesAll) (times : Nat) :
    (device.interruptedEach times).TakesAll := h

end Device

/-! ## Two consoles that cut writes in different ways -/

/-- The two sinks have seen the same, and take alike. -/
structure Sink.Agrees (whole portioned : Sink) : Prop where
  seen : portioned.past.seen = whole.past.seen
  taken : portioned.past.taken = whole.past.taken
  device : whole.device.TakesAlike portioned.device

namespace Sink.Agrees

variable {whole portioned : Sink}

/-- Of pieces they take the same, and fail alike. -/
theorem taken_putAll (h : whole.Agrees portioned) (pieces : List Bytes) :
    (portioned.putAll pieces).taken = (whole.putAll pieces).taken ∧
      (portioned.putAll pieces).fault? = (whole.putAll pieces).fault? := by
  rcases h.device with ⟨hwhole, hportioned⟩ | ⟨limit, fault, hwhole, hportioned⟩
  · obtain ⟨htaken, hfault⟩ := putAll_of_takesAll hwhole pieces
    obtain ⟨htaken', hfault'⟩ := putAll_of_takesAll hportioned pieces
    exact ⟨htaken'.trans htaken.symm, hfault'.trans hfault.symm⟩
  · obtain ⟨htaken, hfault⟩ := putAll_of_closes hwhole pieces
    obtain ⟨htaken', hfault'⟩ := putAll_of_closes hportioned pieces
    rw [h.taken] at htaken' hfault'
    refine ⟨htaken'.trans htaken.symm, ?_⟩
    -- Either the pieces fit on both, or they fit on neither.
    rcases hfault with ⟨hnone, hfit⟩ | ⟨_, rfl, hsome, hover⟩ <;>
      rcases hfault' with ⟨hnone', hfit'⟩ | ⟨_, rfl, hsome', hover'⟩
    · rw [hnone, hnone']
    · omega
    · omega
    · rw [hsome, hsome']

theorem putAll (h : whole.Agrees portioned) (pieces : List Bytes) :
    (whole.putAll pieces).sink.Agrees (portioned.putAll pieces).sink where
  seen := by rw [seen_putAll, seen_putAll, h.seen, (h.taken_putAll pieces).1]
  taken := by
    rw [(whole.advances_putAll pieces).taken, (portioned.advances_putAll pieces).taken, h.taken,
      (h.taken_putAll pieces).1]
  device := by
    rw [(whole.advances_putAll pieces).device, (portioned.advances_putAll pieces).device]
    exact h.device

theorem flush (h : whole.Agrees portioned) : whole.flush.2.Agrees portioned.flush.2 where
  seen := by
    show portioned.past.flushed.seen = whole.past.flushed.seen
    rw [Past.seen_flushed, Past.seen_flushed, h.seen]
  taken := h.taken
  device := h.device

end Sink.Agrees

/-- The two consoles cut writes in different ways, and have seen the same. -/
structure Console.Agrees (whole portioned : Console) : Prop where
  out : whole.out.Agrees portioned.out
  err : whole.err.Agrees portioned.err
  flushesBy : ∃ flush, whole.out.device.FlushesBy flush ∧ portioned.out.device.FlushesBy flush

namespace Console.Agrees

variable {whole portioned : Console}

theorem print (h : whole.Agrees portioned) (pieces : List Bytes) :
    ∃ console, (whole.print pieces : Shown Dir).console.Agrees console ∧
      (portioned.print pieces : Shown Dir) = { whole.print pieces with console } := by
  obtain ⟨htaken, hfault⟩ := h.out.taken_putAll pieces
  refine ⟨{ portioned with out := (portioned.out.putAll pieces).sink }, ⟨h.out.putAll pieces, h.err, ?_⟩, ?_⟩
  · show ∃ flush, (whole.out.putAll pieces).sink.device.FlushesBy flush ∧
      (portioned.out.putAll pieces).sink.device.FlushesBy flush
    rw [(whole.out.advances_putAll pieces).device, (portioned.out.advances_putAll pieces).device]
    exact h.flushesBy
  · unfold Console.print
    simp only [htaken, hfault]

/-- A flush works on both or on neither. -/
theorem flush (h : whole.Agrees portioned) :
    ∃ console, (whole.flush : Shown Dir).console.Agrees console ∧
      (portioned.flush : Shown Dir) = { whole.flush with console } := by
  obtain ⟨flush, hwhole, hportioned⟩ := h.flushesBy
  have hflush : portioned.out.flush.1 = whole.out.flush.1 := by
    unfold Sink.flush
    rw [hwhole, hportioned, h.out.seen]
  refine ⟨{ portioned with out := portioned.out.flush.2 }, ⟨h.out.flush, h.err, h.flushesBy⟩, ?_⟩
  unfold Console.flush
  simp only [hflush]

theorem prompt (h : whole.Agrees portioned) (text : String) :
    ∃ console, (whole.prompt text : Shown Dir).console.Agrees console ∧
      (portioned.prompt text : Shown Dir) = { whole.prompt text with console } :=
  prompt_alike text (h.print _) flush

theorem report (h : whole.Agrees portioned) (error : ShellError) :
    (portioned.report error : Trace Dir × Console).1 = (whole.report error).1 ∧
      (whole.report error : Trace Dir × Console).2.Agrees (portioned.report error : Trace Dir × Console).2 := by
  let pieces := (diagnosticPieces error).map Utf8.encode
  refine ⟨?_, h.out, h.err.putAll pieces, h.flushesBy⟩
  show [Event.err (portioned.err.putAll pieces).taken] = [.err (whole.err.putAll pieces).taken]
  rw [(h.err.taken_putAll pieces).1]

/-- Whatever a command does comes to the same on both. -/
theorem perform (h : whole.Agrees portioned) (action : Action Dir) :
    (portioned.perform action).1 = (whole.perform action).1 ∧
      (whole.perform action).2.Agrees (portioned.perform action).2 := by
  cases action with
  | note note => exact ⟨rfl, h⟩
  | report error => exact h.report error
  | print pieces =>
    obtain ⟨console, hconsole, hprint⟩ := @print Dir _ _ h (pieces.map Utf8.encode)
    unfold Console.perform
    simp only [hprint]
    cases (whole.print (pieces.map Utf8.encode) : Shown Dir).fault? with
    | none => exact ⟨rfl, hconsole⟩
    | some fault =>
      obtain ⟨htrace, hreported⟩ := @report Dir _ _ hconsole (.io fault)
      exact ⟨congrArg (_ ++ ·) htrace, hreported⟩
  | launch name rest dir launch =>
    obtain ⟨console, hconsole, hflush⟩ := @flush Dir _ _ h
    unfold Console.perform
    simp only [hflush]
    exact ⟨trivial, hconsole⟩

end Console.Agrees

/-- The same was observed of two consoles, and they agree. -/
def Console.SameOn (trace trace' : Trace Dir) (whole portioned : Console) : Prop :=
  trace' = trace ∧ whole.Agrees portioned

namespace Console.SameOn

theorem lockstep : Lockstep (@Console.SameOn Dir) where
  step _ _ h := ⟨by rw [h.1], h.2⟩
  perform action h := ⟨by rw [h.1, (h.2.perform action).1], (h.2.perform action).2⟩

theorem tandem : Tandem (@Console.SameOn Dir) where
  lockstep := lockstep
  prompt := by
    rintro s _ whole portioned text ⟨rfl, h⟩
    obtain ⟨console, hconsole, hprompt⟩ := @Agrees.prompt Dir _ _ h text
    dsimp only
    rw [hprompt]
    exact ⟨rfl, rfl, hconsole⟩
  finish := by
    rintro s _ whole portioned ⟨rfl, h⟩
    obtain ⟨console, hconsole, hflush⟩ := @Agrees.flush Dir _ _ h
    dsimp only
    rw [hflush]
    exact ⟨rfl, hconsole⟩

end Console.SameOn

/-! ## Commands and builtins -/

/-- What a command comes to, with what both streams have seen by then. -/
def Dispatched.observed (done : Dispatched Dir State) :=
  (done.trace, done.signal, done.bench.dir, done.launcher, done.bench.console.out.past.seen,
    done.bench.console.err.past.seen)

section
variable {host : Host Dir State} {history : History} {dir : Dir} {launcher : State}
  {whole portioned : Console}

theorem Console.Agrees.dispatch (h : whole.Agrees portioned) (args : List String) :
    let done := dispatch host history args ⟨whole, dir⟩ launcher
    let done' := dispatch host history args ⟨portioned, dir⟩ launcher
    done'.observed = done.observed ∧ done.bench.console.Agrees done'.bench.console := by
  intro done done'
  have hstart : SameOn ([] : Trace Dir) [] whole portioned := ⟨rfl, h⟩
  have hcommand : SameOn done.trace done'.trace done.bench.console done'.bench.console :=
    SameOn.lockstep.dispatch hstart host history dir launcher args
  have heffect : Effect host history ⟨whole, dir⟩ launcher args done := effect_dispatch args
  have heffect' : Effect host history ⟨portioned, dir⟩ launcher args done' := effect_dispatch args
  obtain ⟨hsignal, hdir, hlauncher⟩ := heffect.agree heffect' rfl
  refine ⟨?_, hcommand.2⟩
  unfold Dispatched.observed
  rw [hcommand.1, hsignal, hdir, hlauncher, hcommand.2.out.seen, hcommand.2.err.seen]

theorem Console.Agrees.dispatchAll (h : whole.Agrees portioned) (orders : List Order) :
    (dispatchAll host history ⟨portioned, dir⟩ launcher orders).map Dispatched.observed
      = (dispatchAll host history ⟨whole, dir⟩ launcher orders).map Dispatched.observed := by
  induction orders generalizing history dir launcher whole portioned with
  | nil => rfl
  | cons order orders ih =>
    let found := order.historyAfter history
    let done := LineShell.dispatch host found order.args ⟨whole, dir⟩ launcher
    let done' := LineShell.dispatch host found order.args ⟨portioned, dir⟩ launcher
    obtain ⟨hfirst, hafter⟩ : done'.observed = done.observed ∧
        done.bench.console.Agrees done'.bench.console := h.dispatch order.args
    simp only [dispatchAll_cons, List.map_cons]
    rw [hfirst, ih hafter]

/-- A builtin that prints comes to the same on both consoles. -/
theorem Console.Agrees.printThen (h : whole.Agrees portioned) (dir : Dir) (pieces : List Bytes)
    (result : Except ShellError Signal) :
    let reply := Bench.printThen ⟨whole, dir⟩ pieces result
    let reply' := Bench.printThen ⟨portioned, dir⟩ pieces result
    reply'.trace = reply.trace ∧ reply'.result = reply.result ∧ reply'.bench.dir = reply.bench.dir ∧
      reply.bench.console.Agrees reply'.bench.console := by
  obtain ⟨console, hconsole, hprint⟩ := @print Dir _ _ h pieces
  unfold Bench.printThen
  simp only [hprint]
  exact ⟨trivial, trivial, trivial, hconsole⟩

theorem Console.Agrees.builtin (h : whole.Agrees portioned) {builtin : Builtin Dir}
    (hbuiltin : builtin ∈ Registry.standard.builtins) (context : Context Dir) (args : List String)
    (dir : Dir) :
    let reply := builtin.run context args ⟨whole, dir⟩
    let reply' := builtin.run context args ⟨portioned, dir⟩
    reply'.trace = reply.trace ∧ reply'.result = reply.result ∧ reply'.bench.dir = reply.bench.dir ∧
      reply.bench.console.Agrees reply'.bench.console := by
  obtain rfl | rfl | rfl | rfl : builtin = .cd ∨ builtin = .help ∨ builtin = .exit ∨ builtin = .history := by
    simpa [Registry.standard, Registry.empty] using hbuiltin
  · cases htarget : args[1]? with
    | none => simpa [Builtin.cd, htarget] using h
    | some target => cases hdir : context.changeDir dir target <;> simpa [Builtin.cd, htarget, hdir] using h
  · exact h.printThen dir _ _
  · exact ⟨rfl, rfl, rfl, h⟩
  · exact h.printThen dir _ _

end

/-! ## Runs -/

/-- Nothing in a run tells the two consoles apart. -/
theorem Console.Agrees.run {whole portioned : Console} (h : whole.Agrees portioned)
    (host : Host Dir State) (shell : Shell Dir State) (source : Source) :
    shell.run host source portioned = shell.run host source whole := by
  let head : Head Dir State := ⟨shell, source, whole⟩
  let head' : Head Dir State := ⟨shell, source, portioned⟩
  have hstart : SameOn ([] : Trace Dir) [] head.console head'.console := ⟨rfl, h⟩
  have hshell : head'.shell = head.shell := rfl
  obtain ⟨trace, hrun, console, console', htrace, -⟩ :=
    SameOn.tandem.run hshell rfl hstart host
  exact hrun.trans (by rw [show trace = _ from htrace]; rfl)

/-- Short and interrupted writes are invisible. Let standard output and standard error take any number of
bytes of each write, at least one, and be interrupted before any of them, up to a limit or without one.
Then every run, every list of commands and every builtin comes to what it comes to on streams that take
each write whole up to these limits: the same result, signals, directory, history and launcher, and the
same events, bytes and flushes and launches among them. Both streams have seen the same in the end. -/
theorem run_of_portions (host : Host Dir State) (out err : Device)
    (flush : List (Option UInt8) → Option Fault) (limit? limit'? : Option (Nat × Denial))
    (hout : out.TakesAll) (hflush : out.FlushesBy flush) (herr : err.TakesAll) :
    let portioned : Console :=
      { out := { device := out.upTo limit? }, err := { device := err.upTo limit'? } }
    let whole : Console := { out := { device := (Device.whole flush).upTo limit? }
                             err := { device := Device.reliable.upTo limit'? } }
    (∀ (shell : Shell Dir State) (source : Source),
      shell.run host source portioned = shell.run host source whole) ∧
    (∀ (history : History) (dir : Dir) (launcher : State) (orders : List Order),
      let observed := fun done : Dispatched Dir State =>
        (done.trace, done.signal, done.bench.dir, done.launcher, done.bench.console.out.past.seen,
          done.bench.console.err.past.seen)
      (dispatchAll host history ⟨portioned, dir⟩ launcher orders).map observed
        = (dispatchAll host history ⟨whole, dir⟩ launcher orders).map observed) ∧
    ∀ builtin ∈ Registry.standard.builtins,
      ∀ (context : Context Dir) (args : List String) (dir : Dir),
        let reply := builtin.run context args ⟨portioned, dir⟩
        let reply' := builtin.run context args ⟨whole, dir⟩
        reply.trace = reply'.trace ∧ reply.result = reply'.result ∧
          reply.bench.dir = reply'.bench.dir ∧
          reply.bench.console.out.past.seen = reply'.bench.console.out.past.seen ∧
          reply.bench.console.err.past.seen = reply'.bench.console.err.past.seen := by
  intro portioned whole
  have hagrees : whole.Agrees portioned := by
    refine ⟨⟨rfl, rfl, Device.takesAlike_upTo (Device.takesAll_whole flush) hout limit?⟩,
      ⟨rfl, rfl, Device.takesAlike_upTo Device.neverFails_reliable.takesAll herr limit'?⟩, flush, ?_, ?_⟩
    · intro past
      exact congrFun (Device.flush_upTo _ limit?) past
    · intro past
      exact (congrFun (Device.flush_upTo out limit?) past).trans (hflush past)
  refine ⟨fun shell source => hagrees.run host shell source, ?_, ?_⟩
  · intro history dir launcher orders observed
    exact hagrees.dispatchAll orders
  · intro builtin hbuiltin context args dir reply reply'
    obtain ⟨htrace, hresult, hdir, hafter⟩ := hagrees.builtin hbuiltin context args dir
    exact ⟨htrace, hresult, hdir, hafter.out.seen, hafter.err.seen⟩

/-- An output that takes one byte at a time, each behind two interruptions: a run as on any other; and a
listing that is cut behind four bytes, in the middle of what was offered again. -/
theorem run_of_portions_listing :
    let bytes := Utf8.encode "history\ncd\n"
    let shell : Shell Unit (List Outcome) := { prompt := "> ", dir := (), launcher := [] }
    let host := Host.scripted fun _ _ => .error (.plain .notFound)
    let out := ((Device.whole fun _ => none).inPortions 1).interruptedEach 2
    let err := Device.reliable.inPortions 3
    let run := shell.run host [.piece bytes] { out := { device := out }, err := { device := err } }
    let listing := Builtin.history.run ⟨⟨["ls"]⟩, [], host.changeDir⟩ ["history"]
      ⟨{ out := { device := out.limited 4 .takesNothing }, err := { device := err } }, ()⟩
    out.TakesAll ∧ out.FlushesBy (fun _ => none) ∧ err.TakesAll ∧
      run.result = .ok () ∧ run.trace.out = Utf8.encode ">  1 history\n> > " ∧
      run.trace.err = Utf8.encode "shell: expected argument to \"cd\"\n" ∧
      listing.trace = [.out (Utf8.encode " 1 l")] ∧ listing.result = .error (.io .tookNothing) := by
  intro bytes shell host out err run listing
  have hout : out.TakesAll :=
    ((Device.takesAll_whole _).inPortions Nat.one_pos).interruptedEach 2
  have hflush : out.FlushesBy fun _ => none := fun _ => rfl
  have herr : err.TakesAll := Device.neverFails_reliable.takesAll.inPortions (by decide)
  obtain ⟨hruns, -⟩ := run_of_portions host out err _ none none hout hflush herr
  obtain ⟨-, -, hbuiltins⟩ :=
    run_of_portions host out err _ (some (4, .takesNothing)) none hout hflush herr
  -- On streams that take each write whole, the run is told by its lines.
  have hwhole : (Device.whole fun _ => none).NeverFails := ⟨Device.takesAll_whole _, fun _ => rfl⟩
  let head : Head Unit (List Outcome) :=
    ⟨shell, [.piece bytes], { out := { device := Device.whole fun _ => none } }⟩
  have hrun : run = head.run host := hruns shell [.piece bytes]
  obtain ⟨hresult, -, hprinted, hcomplaints⟩ := run_of_lines host _ head bytes rfl
    (Source.delivers_piece bytes) hwhole Device.neverFails_reliable
  obtain ⟨htrace, hfault, -⟩ := hbuiltins .history (by simp [Registry.standard])
    ⟨⟨["ls"]⟩, [], host.changeDir⟩ ["history"] ()
  -- And the listing by what fits.
  let cut : Console := { out := { device := (Device.whole fun _ => none).limited 4 .takesNothing } }
  obtain ⟨after, hprint⟩ := @Console.print_of_closes Unit cut _ _
    (Device.closes_limited (Device.takesAll_whole _) 4 .takesNothing) (Builtin.historyPieces ⟨["ls"]⟩)
  refine ⟨hout, hflush, herr, ?_, ?_, ?_, ?_, ?_⟩
  · rw [hrun, hresult]
  · rw [hrun, hprinted]
    exact congrArg Utf8.encode (by decide)
  · rw [hrun, hcomplaints]
    exact congrArg Utf8.encode (by decide)
  · refine htrace.trans ((congrArg Shown.trace hprint).trans ?_)
    exact congrArg (fun bytes => [Event.out bytes]) (by decide)
  · have hcut : (cut.print ((Builtin.historyPieces ⟨["ls"]⟩).map Utf8.encode) : Shown Unit).fault?
        = if 4 < (Utf8.encode (String.join (Builtin.historyPieces ⟨["ls"]⟩))).length
          then some .tookNothing else none := congrArg Shown.fault? hprint
    rw [if_pos (by decide)] at hcut
    refine hfault.trans ?_
    show (Bench.printThen ⟨cut, ()⟩ ((Builtin.historyPieces ⟨["ls"]⟩).map Utf8.encode)
      (.ok .proceed)).result = _
    simp only [Bench.printThen, hcut]

end LineShell
