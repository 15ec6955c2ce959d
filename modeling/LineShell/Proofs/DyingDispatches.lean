import LineShell.Proofs.Effects
/-!
# Commands on a standard output that dies

One list of commands is carried out on two consoles: on outputs that never fail, and on a standard
output that takes a number of bytes in all and denies every write after them. Each command goes alike on
both (`Dispatched.Confined`), whatever the commands before it printed; only one that prints can tell that
there is no room, and it tells it in one line on standard error.
-/

namespace LineShell

variable {Dir State : Type}

/-- A console on which nothing fails, and one that differs in its standard output: that has room for so
many more bytes, and then fails. -/
structure Console.Confined (room : Nat) (fault : Fault) (whole cut : Console) : Prop where
  out : whole.out.device.NeverFails
  err : whole.err.device.NeverFails
  closes : ∃ limit, cut.out.device.Closes limit (· = fault) ∧ limit - cut.out.past.taken = room
  err' : cut.err.device.NeverFails

/-- What a command comes to on either console, where the second has so much room. -/
structure Dispatched.Confined (args : List String) (room : Nat) (fault : Fault)
    (done done' : Dispatched Dir State) : Prop where
  signal : done'.signal = done.signal
  launches : done'.trace.launches = done.trace.launches
  dir : done'.bench.dir = done.bench.dir
  launcher : done'.launcher = done.launcher
  out : done'.trace.out = done.trace.out.take room
  err : done'.trace.err = done.trace.err
    ++ if room < done.trace.out.length then Utf8.encode (Console.diagnostic (.io fault)) else []
  prints : done.trace.out ≠ [] →
    done.trace.err = [] ∧ (args.head? = some "help" ∨ args.head? = some "history")

section
variable {host : Host Dir State} {history : History} {dir : Dir} {launcher : State} {room : Nat}
  {fault : Fault} {whole cut : Console}

/-- The two commands that print are never launched and end with no error of their own. -/
theorem failureOf_of_printed {entries : List String} {args : List String}
    (h : printed entries args ≠ "") :
    failureOf host dir launcher args = none ∧
      (args.head? = some "help" ∨ args.head? = some "history") := by
  cases args with
  | nil => exact absurd rfl h
  | cons name rest =>
    by_cases hhelp : name = "help"
    · subst hhelp
      exact ⟨rfl, .inl rfl⟩
    by_cases hhistory : name = "history"
    · subst hhistory
      exact ⟨rfl, .inr rfl⟩
    · exact absurd (by simp [printed, hhelp, hhistory]) h

theorem Console.Confined.dispatch (h : whole.Confined room fault cut) (args : List String) :
    let done := dispatch host history args ⟨whole, dir⟩ launcher
    let done' := dispatch host history args ⟨cut, dir⟩ launcher
    done.Confined args room fault done' ∧
      Console.Confined (room - done.trace.out.length) fault done.bench.console done'.bench.console := by
  intro done done'
  have heffect : Effect host history ⟨whole, dir⟩ launcher args done := effect_dispatch args
  have heffect' : Effect host history ⟨cut, dir⟩ launcher args done' := effect_dispatch args
  obtain ⟨limit, hcloses, rfl⟩ := h.closes
  obtain ⟨hout, hafter⟩ := heffect.out_of_neverFails h.out
  obtain ⟨herr, hafterErr⟩ := heffect.err_of_neverFails h.out h.err
  obtain ⟨herr', hafterErr'⟩ := heffect'.err_of_closes hcloses h.err'
  obtain ⟨hdevice, htaken⟩ := heffect'.out_advances
  have hout' : done'.trace.out = done.trace.out.take (limit - cut.out.past.taken) :=
    hout ▸ heffect'.out_of_closes hcloses
  constructor
  · obtain ⟨hsignal, hdir, hlauncher⟩ := heffect.agree heffect' rfl
    refine ⟨hsignal, ?_, hdir, hlauncher, hout', ?_, ?_⟩
    · rw [heffect.launches_eq, heffect'.launches_eq]
    · rw [herr, herr', hout]
    · intro hprints
      obtain ⟨hfailure, hname⟩ := @failureOf_of_printed Dir State host dir launcher history.entries args
        (by rintro hnothing; exact hprints (by rw [hout, hnothing]; rfl))
      exact ⟨by rw [herr, hfailure]; rfl, hname⟩
  · refine ⟨hafter, hafterErr, ⟨limit, hdevice ▸ hcloses, ?_⟩, hafterErr'⟩
    rw [htaken, hout', List.length_take]
    show limit - (cut.out.past.taken + _) = _
    omega

/-- Each command finds the room that the ones before it leave. -/
theorem Console.Confined.dispatchAll (h : whole.Confined room fault cut) (orders : List Order) :
    let dones := dispatchAll host history ⟨whole, dir⟩ launcher orders
    let dones' := dispatchAll host history ⟨cut, dir⟩ launcher orders
    dones.length = orders.length ∧ dones'.length = orders.length ∧
      dones'.flatMap (·.trace.out) = (dones.flatMap (·.trace.out)).take room ∧
      ∀ (k : Nat) (order : Order) (done done' : Dispatched Dir State),
        orders[k]? = some order → dones[k]? = some done → dones'[k]? = some done' →
          done.Confined order.args (room - ((dones.take k).flatMap (·.trace.out)).length) fault done' := by
  induction orders generalizing history dir launcher room whole cut with
  | nil => exact ⟨rfl, rfl, List.take_nil.symm, by simp⟩
  | cons order orders ih =>
    let found := order.historyAfter history
    let done := LineShell.dispatch host found order.args ⟨whole, dir⟩ launcher
    let done' := LineShell.dispatch host found order.args ⟨cut, dir⟩ launcher
    obtain ⟨hfirst, hconsole⟩ : done.Confined order.args room fault done' ∧
        Console.Confined _ fault done.bench.console done'.bench.console := h.dispatch order.args
    obtain ⟨hlength, hlength', hout, hlater⟩ :=
      @ih found (dirAfter host dir order.args) (launcherAfter host dir launcher order.args) _ _ _ hconsole
    simp only [dispatchAll_cons]
    refine ⟨congrArg (· + 1) hlength, congrArg (· + 1) hlength', ?_, ?_⟩
    · rw [List.flatMap_cons, List.flatMap_cons, List.take_append, hfirst.out, hout]
    · intro k order' one one' horder hone hone'
      cases k with
      | zero =>
        obtain rfl := Option.some.inj horder
        obtain rfl := Option.some.inj hone
        obtain rfl := Option.some.inj hone'
        exact hfirst
      | succ k =>
        rw [List.take_succ_cons, List.flatMap_cons, List.length_append, ← Nat.sub_sub]
        exact hlater k order' one one' horder hone hone'

end

/-- Commands one after another on an output that dies after `room` bytes. Just these bytes are taken of
what the commands would print. Each command gives the same signal, is launched alike and leads to the same
directory, and standard error takes the same of it; but one that prints, and comes to an end behind the
last byte taken, reports the failure in one line. Such a command is `help` or `history`, and has nothing
else to report. -/
theorem dispatchAll_of_closes (host : Host Dir State) (history : History) (dir : Dir) (launcher : State)
    (orders : List Order) (device device' : Device) (err err' : Sink) (room : Nat) (fault : Fault)
    (hdevice : device.NeverFails) (hdevice' : device'.Closes room (· = fault))
    (herr : err.device.NeverFails) (herr' : err'.device.NeverFails) :
    let whole := dispatchAll host history ⟨{ out := { device }, err }, dir⟩ launcher orders
    let cut := dispatchAll host history ⟨{ out := { device := device' }, err := err' }, dir⟩ launcher
      orders
    whole.length = orders.length ∧ cut.length = orders.length ∧
      cut.flatMap (·.trace.out) = (whole.flatMap (·.trace.out)).take room ∧
      ∀ (k : Nat) (order : Order) (done done' : Dispatched Dir State),
        orders[k]? = some order → whole[k]? = some done → cut[k]? = some done' →
        done'.signal = done.signal ∧
          done'.trace.launches = done.trace.launches ∧
          done'.bench.dir = done.bench.dir ∧
          done'.launcher = done.launcher ∧
          done'.trace.err = done.trace.err ++
            (if done.trace.out ≠ [] ∧ room < ((whole.take (k + 1)).flatMap (·.trace.out)).length
              then Utf8.encode ("shell: " ++ fault.message ++ "\n") else []) ∧
          (done.trace.out ≠ [] → done.trace.err = [] ∧
            (order.args.head? = some "help" ∨ order.args.head? = some "history")) := by
  intro whole cut
  have hconfined : Console.Confined room fault { out := { device }, err }
      { out := { device := device' }, err := err' } := ⟨hdevice, herr, ⟨room, hdevice', rfl⟩, herr'⟩
  obtain ⟨hlength, hlength', hout, hsteps⟩ :=
    @Console.Confined.dispatchAll Dir State host history dir launcher _ _ _ _ hconfined orders
  refine ⟨hlength, hlength', hout, ?_⟩
  intro k order done done' horder hdone hdone'
  have hstep := hsteps k order done done' horder hdone hdone'
  refine ⟨hstep.signal, hstep.launches, hstep.dir, hstep.launcher, ?_, hstep.prints⟩
  have htotal : ((whole.take (k + 1)).flatMap (·.trace.out)).length
      = ((whole.take k).flatMap (·.trace.out)).length + done.trace.out.length := by
    rw [List.take_add_one, hdone, List.flatMap_append, List.length_append]
    simp
  rw [hstep.err, htotal]
  -- Too little is left for this command exactly when it prints and the total is too much.
  refine congrArg _ (ite_congr (propext ?_) (fun _ => rfl) fun _ => rfl)
  rw [← List.length_pos_iff]
  show room - ((whole.take k).flatMap (·.trace.out)).length < _ ↔ _
  omega

/-- A listing that ends right at the last byte, and one that finds no room at all. -/
theorem dispatchAll_of_closes_listings :
    let host := Host.scripted fun _ _ => .error (.plain .notFound)
    let fault : Fault := .plain .other
    let device := Device.reliable.limited 11 (.fails fault (by decide))
    let orders : List Order := [⟨["history"], true⟩, ⟨["history"], false⟩]
    let cut := dispatchAll host {} ⟨{ out := { device } }, ()⟩ [] orders
    Device.reliable.NeverFails ∧ device.Closes 11 (· = fault) ∧
      cut.flatMap (·.trace.out) = Utf8.encode " 1 history\n" ∧
      cut.map (·.trace.err) = [[], Utf8.encode "shell: other error\n"] := by
  intro host fault device orders cut
  have hreliable := Device.neverFails_reliable
  have hcloses : device.Closes 11 (· = fault) := Device.closes_limited hreliable.takesAll 11 _
  -- What the two commands print on outputs that never fail.
  let history : History := ⟨["history"]⟩
  let first := dispatch host history ["history"] ⟨{}, ()⟩ []
  let second := dispatch host history ["history"] first.bench first.launcher
  have hfirst : Effect host history ⟨{}, ()⟩ [] ["history"] first := effect_dispatch _
  have hsecond : Effect host history first.bench first.launcher ["history"] second := effect_dispatch _
  have hlisting : Utf8.encode (printed history.entries ["history"]) = Utf8.encode " 1 history\n" :=
    congrArg Utf8.encode (by decide)
  obtain ⟨hout, hafter⟩ := hfirst.out_of_neverFails hreliable
  have hout' := (hsecond.out_of_neverFails hafter).1
  rw [hlisting] at hout hout'
  let first' := dispatch host history ["history"] ⟨{ out := { device } }, ()⟩ []
  let second' := dispatch host history ["history"] first'.bench first'.launcher
  obtain ⟨-, -, htaken, hsteps⟩ := dispatchAll_of_closes host {} () [] orders .reliable device {} {} 11
    fault hreliable hcloses hreliable hreliable
  obtain ⟨-, -, -, -, herr, hnone⟩ := hsteps 0 _ first first' rfl rfl rfl
  obtain ⟨-, -, -, -, herr', hnone'⟩ := hsteps 1 _ second second' rfl rfl rfl
  have hprints : first.trace.out ≠ [] := by rw [hout]; decide
  have hprints' : second.trace.out ≠ [] := by rw [hout']; decide
  rw [(hnone hprints).1] at herr
  rw [(hnone' hprints').1] at herr'
  have hfits : ¬ (first.trace.out ≠ [] ∧ 11 < (first.trace.out ++ []).length) := by
    rw [hout]
    decide
  have hover : second.trace.out ≠ [] ∧ 11 < (first.trace.out ++ (second.trace.out ++ [])).length :=
    ⟨hprints', by rw [hout, hout']; decide⟩
  change cut.flatMap (·.trace.out) = (first.trace.out ++ (second.trace.out ++ [])).take 11 at htaken
  rw [hout, hout'] at htaken
  refine ⟨hreliable, hcloses, htaken.trans (by decide), ?_⟩
  show [first'.trace.err, second'.trace.err] = _
  rw [show first'.trace.err = [] from herr.trans (if_neg hfits),
    show second'.trace.err = Utf8.encode "shell: other error\n" from herr'.trans (if_pos hover)]

end LineShell
