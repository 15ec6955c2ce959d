import LineShell.Proofs.Transcript
/-!
# A standard output that dies

Two runs of one shell on one source: the first on an output that never fails, the second on one that
takes a number of bytes in all and fails every write after them. The second run is the first, up to
where the output does not fit any more (`Cut`): a command whose output fails is not told, and the
next prompt brings the failure to light before anything else is read.
-/

namespace LineShell

variable {Dir State : Type}

namespace Trace

/-- The part of a trace in which all that standard output took fits into `room` bytes. -/
def within (room : Nat) : Trace Dir → Trace Dir
  | [] => []
  | .out bytes :: t =>
    if bytes.length ≤ room then .out bytes :: within (room - bytes.length) t else []
  | event :: t => event :: within room t

theorem within_append (room : Nat) (s t : Trace Dir) :
    within room (s ++ t)
      = if s.out.length ≤ room then s ++ within (room - s.out.length) t else within room s := by
  fun_induction within room s with
  | case1 room => simp
  | case2 room bytes s hfit ih =>
    have hsum : bytes.length + (out s).length ≤ room ↔ (out s).length ≤ room - bytes.length := by
      omega
    simp only [List.cons_append, within, hfit, if_true, ih, out_cons, List.length_append, hsum,
      Nat.sub_add_eq]
    split <;> rfl
  | case3 room bytes s hfit =>
    have hsum : ¬ bytes.length + (out s).length ≤ room := by omega
    simp only [List.cons_append, within, hfit, if_false, out_cons, List.length_append, hsum]
  | case4 room event s hout ih =>
    cases event with
    | out bytes => exact absurd rfl (hout bytes)
    | _ => by_cases hfit : (out s).length ≤ room <;> simp [within, ih, hfit]

theorem within_of_le {room : Nat} {t : Trace Dir} (h : t.out.length ≤ room) : within room t = t := by
  have := within_append room t []
  simpa [h, within] using this

theorem within_prefix (room : Nat) (t : Trace Dir) : within room t <+: t := by
  fun_induction within room t with
  | case1 => exact List.prefix_refl _
  | case2 room bytes t hfit ih => exact (List.prefix_cons_inj _).2 ih
  | case3 => exact List.nil_prefix
  | case4 room event t _ ih => exact (List.prefix_cons_inj _).2 ih

theorem length_out_within_le (room : Nat) (t : Trace Dir) : (within room t).out.length ≤ room := by
  fun_induction within room t with
  | case1 => simp
  | case2 room bytes t hfit ih =>
    simp only [out_cons, List.length_append]
    omega
  | case3 => simp
  | case4 room event t hout ih =>
    cases event with
    | out bytes => exact absurd rfl (hout bytes)
    | _ => simpa using ih

/-- A beginning of a trace belongs to that part exactly when its own output fits. -/
theorem prefix_within_iff {room : Nat} {s t : Trace Dir} :
    s <+: within room (s ++ t) ↔ s.out.length ≤ room := by
  constructor
  · rintro ⟨rest, h⟩
    have hlen := length_out_within_le room (s ++ t)
    rw [← h, out_append, List.length_append] at hlen
    omega
  · intro h
    rw [within_append, if_pos h]
    exact List.prefix_append _ _

end Trace

/-! ## One trace as the beginning of another -/

/-- The second trace is the first one up to where its output does not fit into `room` bytes: the
output is cut there, and so are the steps of the shell. -/
structure Cut (room : Nat) (whole cut : Trace Dir) : Prop where
  out : cut.out = whole.out.take room
  steps : cut.steps = (whole.within room).steps

theorem Cut.append {room : Nat} {s s' t t' : Trace Dir} (h : Cut room s s')
    (hfit : s.out.length ≤ room → Cut (room - s.out.length) t t')
    (hdead : room < s.out.length → t'.out = [] ∧ t'.steps = []) : Cut room (s ++ t) (s' ++ t') := by
  by_cases hroom : s.out.length ≤ room
  · obtain ⟨hout, hsteps⟩ := hfit hroom
    refine ⟨?_, ?_⟩
    · rw [Trace.out_append, Trace.out_append, List.take_append, h.out, hout]
    · rw [Trace.within_append, if_pos hroom, Trace.steps_append, Trace.steps_append, h.steps, hsteps,
        Trace.within_of_le hroom]
  · obtain ⟨hout, hsteps⟩ := hdead (by omega)
    refine ⟨?_, ?_⟩
    · rw [Trace.out_append, Trace.out_append, List.take_append_of_le_length (by omega), h.out, hout,
        List.append_nil]
    · rw [Trace.within_append, if_neg hroom, Trace.steps_append, h.steps, hsteps, List.append_nil]

theorem Cut.of_le {room : Nat} {t t' : Trace Dir} (hroom : t.out.length ≤ room)
    (hout : t'.out = t.out) (hsteps : t'.steps = t.steps) : Cut room t t' :=
  ⟨by rw [hout, List.take_of_length_le hroom], by rw [Trace.within_of_le hroom, hsteps]⟩

theorem Cut.eq_of_le {room : Nat} {t t' : Trace Dir} (h : Cut room t t')
    (hroom : t.out.length ≤ room) : t'.out = t.out ∧ t'.steps = t.steps :=
  ⟨by rw [h.out, List.take_of_length_le hroom], by rw [h.steps, Trace.within_of_le hroom]⟩

/-- A command on a dying output does what it does on one that never fails, up to the byte that does
not fit: a command that is launched prints nothing itself, and one that prints is not launched. -/
theorem Effect.cut {host : Host Dir State} {history : History} {bench bench' : Bench Dir}
    {launcher : State} {args : List String} {done done' : Dispatched Dir State} {room : Nat}
    {fault : Fault} (h : Effect host history bench launcher args done)
    (h' : Effect host history bench' launcher args done') (hdir : bench'.dir = bench.dir)
    (hout : bench.console.out.device.NeverFails) (hout' : bench'.console.out.DiesAfter room fault) :
    Cut room done.trace done'.trace := by
  refine ⟨?_, ?_⟩
  · rw [(h.out_of_neverFails hout).1, (h'.out_of_diesAfter hout').1]
  · by_cases hl : isLaunched args
    -- A launch stands behind no output of the shell, so the whole trace is within any room.
    · have hnothing : done.trace.out = [] := by
        rw [(h.out_of_neverFails hout).1, printed_of_isLaunched hl]
        rfl
      rw [Trace.within_of_le (by simp [hnothing]), h.steps_eq, h'.steps_eq, hdir]
    · obtain ⟨rest, hrest⟩ := h.trace_eq_cons
      have hsteps := h.steps_eq
      rw [hrest, if_neg hl] at hsteps
      have hnone : Trace.steps rest = [] := by simpa [Event.isStep] using hsteps
      have hwithin : (Trace.within room rest).steps = [] := by
        have hprefix := (Trace.within_prefix room rest).filter Event.isStep
        rwa [show rest.filter Event.isStep = [] from hnone, List.prefix_nil] at hprefix
      rw [h'.steps_eq, hrest, if_neg hl]
      simp [Trace.within, Event.isStep, hwithin]

/-! ## One run as the beginning of another -/

/-- The second run is the first one up to where its output does not fit; if all of it fits they come
to the same, and otherwise the second ends with the failure. -/
structure CutOff (room : Nat) (fault : Fault) (whole cut : Run Dir State) : Prop where
  trace : Cut room whole.trace cut.trace
  result : cut.result = if whole.trace.out.length ≤ room then whole.result else .error (.io fault)

/-- Two shells at the same point of their runs, the second with room for so many more bytes. -/
structure Beside (room : Nat) (fault : Fault) (whole cut : Head Dir State) : Prop where
  shell : cut.shell = whole.shell
  source : cut.source = whole.source
  prompt : 0 < (Utf8.encode whole.shell.prompt).length
  out : whole.console.out.device.NeverFails
  dies : cut.console.out.DiesAfter room fault

section
variable {host : Host Dir State} {room : Nat} {fault : Fault}

theorem CutOff.of_le {whole cut : Run Dir State} (hroom : whole.trace.out.length ≤ room)
    (hout : cut.trace.out = whole.trace.out) (hsteps : cut.trace.steps = whole.trace.steps)
    (hresult : cut.result = whole.result) : CutOff room fault whole cut :=
  ⟨.of_le hroom hout hsteps, by rw [if_pos hroom, hresult]⟩

theorem CutOff.following {whole cut : Run Dir State} {s s' : Trace Dir} (h : Cut room s s')
    (hfit : s.out.length ≤ room → CutOff (room - s.out.length) fault whole cut)
    (hdead : room < s.out.length →
      cut.trace.out = [] ∧ cut.trace.steps = [] ∧ cut.result = .error (.io fault)) :
    CutOff room fault (whole.following s) (cut.following s') := by
  refine ⟨h.append (fun hroom => (hfit hroom).trace) fun hroom => ⟨(hdead hroom).1, (hdead hroom).2.1⟩,
    ?_⟩
  show cut.result = if (s ++ whole.trace).out.length ≤ room then whole.result else _
  rw [Trace.out_append, List.length_append]
  by_cases hroom : s.out.length ≤ room
  · rw [(hfit hroom).result]
    exact ite_congr (by simp only [eq_iff_iff]; omega) (fun _ => rfl) fun _ => rfl
  · rw [(hdead (by omega)).2.2, if_neg (by omega)]

namespace Beside

variable {whole cut : Head Dir State}

theorem shown (h : Beside room fault whole cut) :
    ∃ out : Sink, out.device.NeverFails ∧
      whole.shown = ⟨[.out (Utf8.encode whole.shell.prompt), .flush true], none,
        { whole.console with out }⟩ :=
  Console.prompt_of_neverFails h.out _

theorem shown_of_le (h : Beside room fault whole cut)
    (hfit : (Utf8.encode whole.shell.prompt).length ≤ room) :
    ∃ out : Sink, out.DiesAfter (room - (Utf8.encode whole.shell.prompt).length) fault ∧
      cut.shown = ⟨[.out (Utf8.encode whole.shell.prompt), .flush true], none,
        { cut.console with out }⟩ := by
  obtain ⟨out, hdies, hshown⟩ := @Console.prompt_of_diesAfter Dir _ _ _ h.dies cut.shell.prompt
  rw [h.shell, if_pos hfit] at hshown
  rw [h.shell] at hdies
  exact ⟨out, hdies, by rw [Head.shown, h.shell, hshown]⟩

/-- Where the prompt does not fit any more, nothing else is done. -/
theorem run_of_lt (h : Beside room fault whole cut)
    (hroom : room < (Utf8.encode whole.shell.prompt).length) :
    cut.run host
      = ⟨[.out ((Utf8.encode whole.shell.prompt).take room)], .error (.io fault), whole.shell⟩ := by
  obtain ⟨out, -, hshown⟩ := @Console.prompt_of_diesAfter Dir _ _ _ h.dies cut.shell.prompt
  rw [h.shell, if_neg (by omega)] at hshown
  have hfault : cut.shown.fault? = some fault := by rw [Head.shown, h.shell, hshown]
  rw [run_of_last (.unshown fault hfault), Head.shown, h.shell, hshown]

theorem cutOff_of_lt (h : Beside room fault whole cut)
    (hroom : room < (Utf8.encode whole.shell.prompt).length) :
    CutOff room fault (whole.run host) (cut.run host) := by
  obtain ⟨out, -, hshown⟩ := h.shown
  obtain ⟨reading, later, hlater⟩ := whole.exists_run_trace host (by rw [hshown])
  have hlength : ¬ (whole.run host).trace.out.length ≤ room := by
    simp only [hlater, Trace.out_append, Trace.out_cons, List.length_append]
    omega
  rw [h.run_of_lt hroom]
  refine ⟨⟨?_, ?_⟩, by rw [if_neg hlength]⟩
  · simp only [hlater, Trace.out_append, Trace.out_cons, Trace.out_nil, List.append_nil]
    rw [List.take_append_of_le_length (by omega)]
  · rw [hlater, List.cons_append, Trace.within, if_neg (by omega)]
    rfl

/-- What is observed of a line, and where the two shells are after it. -/
theorem line (h : Beside room fault whole cut) (host : Host Dir State)
    (hfit : (Utf8.encode whole.shell.prompt).length ≤ room) (line : String) (rest : Source) :
    let trace := whole.shown.trace ++ .read (.line line) :: (whole.done host line).trace
    let trace' := cut.shown.trace ++ .read (.line line) :: (cut.done host line).trace
    Cut room trace trace' ∧
      Beside (room - trace.out.length) fault
        ⟨whole.shell.after host (words line), rest, (whole.done host line).bench.console⟩
        ⟨cut.shell.after host (words line), rest, (cut.done host line).bench.console⟩ := by
  obtain ⟨out, hout, hshown⟩ := h.shown
  obtain ⟨out', hdies, hshown'⟩ := h.shown_of_le hfit
  have heffect := whole.effect host line
  have heffect' := cut.effect host line
  rw [hshown] at heffect ⊢
  rw [hshown', h.shell] at heffect'
  rw [hshown', List.append_cons, List.append_cons _ _ (cut.done host line).trace]
  have hprompt : Trace.out ([.out (Utf8.encode whole.shell.prompt), .flush true]
      ++ [.read (.line line)] : Trace Dir) = Utf8.encode whole.shell.prompt := by simp
  refine ⟨?_, by rw [h.shell], rfl, h.prompt, (heffect.out_of_neverFails hout).2, ?_⟩
  · refine (Cut.of_le (by rwa [hprompt]) rfl rfl).append (fun _ => ?_) fun hroom => ?_
    · rw [hprompt]
      exact heffect.cut heffect' rfl hout hdies
    · rw [hprompt] at hroom
      omega
  · have hafter := (heffect'.out_of_diesAfter hdies).2
    rwa [Trace.out_append, hprompt, (heffect.out_of_neverFails hout).1, List.length_append,
      Nat.sub_add_eq]

theorem last (h : Beside room fault whole cut)
    (hfit : (Utf8.encode whole.shell.prompt).length ≤ room) {run : Run Dir State}
    (hlast : Last host whole run) : ∃ run', Last host cut run' ∧ CutOff room fault run run' := by
  obtain ⟨out, hout, hshown⟩ := h.shown
  obtain ⟨out', hdies, hshown'⟩ := h.shown_of_le hfit
  have hfault' : cut.shown.fault? = none := by rw [hshown']
  cases hlast with
  | unshown _ hfault =>
    rw [hshown] at hfault
    cases hfault
  | unread failure rest _ hread =>
    refine ⟨_, .unread failure rest hfault' (h.source ▸ hread), ?_⟩
    rw [hshown, hshown']
    exact .of_le (by simpa using hfit) rfl rfl rfl
  | ended rest _ hread =>
    refine ⟨_, .ended rest hfault' (h.source ▸ hread), ?_⟩
    rw [hshown, hshown']
    exact .of_le (by simpa using hfit) (by simp) (by simp) rfl
  | exited line rest _ hread hends =>
    refine ⟨_, .exited line rest hfault' (h.source ▸ hread) hends, ?_⟩
    obtain ⟨hcut, -⟩ := h.line host hfit line rest
    -- The command that ends the shell prints nothing, so nothing is cut here.
    have hprinted : (whole.shown.trace
        ++ .read (.line line) :: (whole.done host line).trace).out.length ≤ room := by
      have heffect := whole.effect host line
      rw [hshown] at heffect ⊢
      have hnothing := (heffect.out_of_neverFails hout).1
      rw [printed_of_endsShell hends] at hnothing
      simpa [hnothing, Utf8.encode] using hfit
    obtain ⟨hsame, hsteps⟩ := hcut.eq_of_le hprinted
    exact .of_le (by simpa using hprinted) (by simpa using hsame) (by simpa using hsteps) rfl

/-- Each turn of the one run is a turn of the other, until a prompt does not fit. -/
theorem cutOff (h : Beside room fault whole cut) :
    CutOff room fault (whole.run host) (cut.run host) := by
  refine turn_induction host (fun whole => ∀ (cut : Head Dir State) (room : Nat),
    Beside room fault whole cut → CutOff room fault (whole.run host) (cut.run host)) ?_ whole cut
    room h
  intro whole ih cut room h
  -- A prompt that does not fit ends the second run, whatever the first one goes on to do.
  by_cases hfit : (Utf8.encode whole.shell.prompt).length ≤ room
  case neg => exact h.cutOff_of_lt (Nat.lt_of_not_le hfit)
  rcases turn_or_last host whole with ⟨trace, next, hturn⟩ | ⟨run, hlast⟩
  · cases hturn with
    | mk line rest hfault hread hends =>
      obtain ⟨hcut, hbeside⟩ := h.line host hfit line rest
      have hturn : Turn host whole _ _ := .mk line rest hfault hread hends
      have hfault' : cut.shown.fault? = none := by
        obtain ⟨_, -, hshown'⟩ := h.shown_of_le hfit
        rw [hshown']
      have hturn' : Turn host cut _ _ := .mk line rest hfault' (h.source ▸ hread) hends
      rw [run_of_turn hturn, run_of_turn hturn']
      refine CutOff.following hcut (fun _ => ih _ _ hturn _ _ hbeside) fun hroom => ?_
      -- The command could not print all, so the next prompt finds no room at all.
      rw [show room - _ = 0 from Nat.sub_eq_zero_of_le (Nat.le_of_lt hroom)] at hbeside
      rw [hbeside.run_of_lt hbeside.prompt]
      exact ⟨rfl, rfl, rfl⟩
  · obtain ⟨run', hlast', hcut⟩ := h.last hfit hlast
    rwa [run_of_last hlast, run_of_last hlast']

end Beside

end

/-- A run on an output that dies after `room` bytes is a run on a working output, cut there: the
bytes taken are the first ones, the lines carried out are those whose prompt still fits, each seen
with the same history and launched in the same directory, and a run that does not fit ends with the
failure of the output. -/
theorem run_limited (host : Host Dir State) (shell : Shell Dir State) (source : Source)
    (device device' : Device) (err err' : Sink) (room : Nat) (denial : Denial)
    (hprompt : shell.prompt ≠ "") (hdevice : device.NeverFails) (hdevice' : device'.NeverFails) :
    let whole := shell.run host source { out := { device }, err }
    let cut := shell.run host source
      { out := { device := device'.limited room denial }, err := err' }
    let done := whole.trace.within room
    (∀ s t, whole.trace = s ++ t → (s <+: done ↔ s.out.length ≤ room)) ∧
      cut.trace.out = whole.trace.out.take room ∧
      cut.trace.steps = done.steps ∧
      cut.trace.lines = done.lines ∧
      cut.trace.launches = done.launches ∧
      cut.shell = (done.lines.map words).foldl (Shell.after host) shell ∧
      cut.shell.history.entries
        = shell.history.entries ++ done.lines.map (History.summary ∘ words) ∧
      cut.result
        = if whole.trace.out.length ≤ room then whole.result else .error (.io denial.fault) := by
  intro whole cut done
  have hbeside : Beside room denial.fault
      ⟨shell, source, { out := { device }, err }⟩
      ⟨shell, source, { out := { device := device'.limited room denial }, err := err' }⟩ :=
    ⟨rfl, rfl, Utf8.length_encode_pos hprompt, hdevice, Sink.diesAfter_limited hdevice' room denial⟩
  have hcut : CutOff room denial.fault whole cut := hbeside.cutOff
  have hlines : cut.trace.lines = done.lines := by
    rw [← Trace.lines_steps, hcut.trace.steps, Trace.lines_steps]
  have hlaunches : cut.trace.launches = done.launches := by
    rw [← Trace.launches_steps, hcut.trace.steps, Trace.launches_steps]
  have hshell : cut.shell = (done.lines.map words).foldl (Shell.after host) shell := by
    rw [← hlines]
    exact shell_run host ⟨shell, source, _⟩
  refine ⟨?_, hcut.trace.out, hcut.trace.steps, hlines, hlaunches, hshell, ?_, hcut.result⟩
  · intro s t hsplit
    rw [show done = Trace.within room (s ++ t) from congrArg _ hsplit]
    exact Trace.prefix_within_iff
  · rw [hshell, Shell.entries_foldl_after, List.map_map]

/-- An output that dies in the middle of a listing. -/
theorem run_limited_listing :
    let bytes := Utf8.encode "history\nls\n"
    let shell : Shell Unit (List Outcome) := { prompt := "> ", dir := (), launcher := [] }
    let host := Host.scripted fun _ _ => .error (.plain .notFound)
    let cut := shell.run host [.piece bytes]
      { out := { device := Device.reliable.limited 4 .takesNothing } }
    shell.prompt ≠ "" ∧ Device.reliable.NeverFails ∧
      cut.trace.out = Utf8.encode ">  1" ∧ cut.result = .error (.io .tookNothing) := by
  intro bytes shell host cut
  have hprompt : shell.prompt ≠ "" := by decide
  obtain ⟨-, hout, -, -, -, -, -, hresult⟩ :=
    run_limited host shell [.piece bytes] .reliable .reliable {} {} 4 .takesNothing hprompt
      Device.neverFails_reliable Device.neverFails_reliable
  obtain ⟨-, -, hwhole, -⟩ :=
    run_of_lines host _ ⟨shell, [.piece bytes], {}⟩ bytes rfl (Source.delivers_piece bytes)
      Device.neverFails_reliable Device.neverFails_reliable
  have htext : shell.transcript ((upToExit ((linesOf bytes).map Utf8.decode)).map words)
      = ">  1 history\n> > " := by decide
  rw [htext] at hwhole
  refine ⟨hprompt, Device.neverFails_reliable, ?_, ?_⟩
  · exact hout.trans ((congrArg (List.take 4) hwhole).trans (by decide))
  · exact hresult.trans (if_neg fun h => absurd (hwhole ▸ h) (by decide))

end LineShell
