import LineShell.Proofs.Lines
import LineShell.Proofs.Turns
/-!
# How far a run can go

Every line that is read takes some of the bytes that the source holds, and is ended by one of its line feeds,
by one of its ends of input, or by the source's own end. There are only so many of these
(`Source.lineLimit`), so the loop of a shell is passed through only so many times, however empty its prompt
and its lines are and whatever becomes of its output (`run_terminates`).
-/

namespace LineShell

variable {Dir State : Type}

/-! ## What a line takes -/

namespace Source

/-- The bytes that an input will deliver. -/
def bytes (source : Source) : Bytes :=
  source.flatMap fun | .piece bytes => bytes | _ => []

@[simp] theorem bytes_nil : bytes [] = [] := rfl

@[simp] theorem bytes_cons (item : Item) (source : Source) :
    bytes (item :: source) = (match item with | .piece bytes => bytes | _ => []) ++ bytes source := rfl

/-- The line feeds and the ends of input that an input will deliver. -/
def lineEnds (source : Source) : Nat := source.bytes.count lineFeed + source.count .endOfInput

@[simp] theorem lineEnds_cons (item : Item) (source : Source) :
    lineEnds (item :: source)
      = (match item with | .piece bytes => bytes.count lineFeed | .endOfInput => 1 | .fault _ => 0)
        + lineEnds source := by
  unfold lineEnds
  cases item with
  | piece bytes => simp [Nat.add_assoc]
  | endOfInput => simp; omega
  | fault fault => simp

/-- How many lines can be read at most. The last one may be ended by the end of the source. -/
def lineLimit (source : Source) : Nat := if source = [] then 0 else source.lineEnds + 1

theorem lineLimit_le (source : Source) : source.lineLimit ≤ source.lineEnds + 1 := by
  unfold lineLimit
  split <;> omega

theorem of_ofBegun_eq_line {begun line : Bytes} (h : Reading.ofBegun begun = .line line) :
    line = begun ∧ line ≠ [] := by
  cases begun with
  | nil => cases h
  | cons b begun =>
    cases h
    exact ⟨rfl, List.cons_ne_nil _ _⟩

/-- A line takes what was begun and some bytes of the source, and with them something that ends lines, unless
it takes all of the source. -/
theorem of_readFrom_eq_line {begun line : Bytes} {source rest : Source}
    (h : readFrom begun source = (.line line, rest)) :
    line ≠ [] ∧ begun ++ source.bytes = line ++ rest.bytes ∧
      (rest = [] ∨ rest.lineEnds < source.lineEnds) := by
  fun_induction readFrom begun source with
  | case1 begun =>
    obtain ⟨hline, rfl⟩ := Prod.mk.inj h
    obtain ⟨rfl, hne⟩ := of_ofBegun_eq_line hline
    exact ⟨hne, rfl, .inl rfl⟩
  | case2 begun source =>
    obtain ⟨hline, rfl⟩ := Prod.mk.inj h
    obtain ⟨rfl, hne⟩ := of_ofBegun_eq_line hline
    exact ⟨hne, rfl, .inr (by simp)⟩
  | case3 begun fault source hkind ih =>
    obtain ⟨hne, hbytes, hends⟩ := ih h
    exact ⟨hne, hbytes, by simpa using hends⟩
  | case4 begun fault source hkind => cases h
  | case5 begun bytes source line more hcut =>
    obtain ⟨hline, rfl⟩ := Prod.mk.inj h
    cases hline
    obtain ⟨before, -, rfl, rfl⟩ := exists_of_cutLine? hcut
    exact ⟨by simp, by simp, .inr (by simp; omega)⟩
  | case6 begun bytes source hcut ih =>
    obtain ⟨hne, hbytes, hends⟩ := ih h
    refine ⟨hne, by simpa using hbytes, hends.imp_right fun hends => ?_⟩
    rw [lineEnds_cons]
    omega

/-- A line is what some bytes of the source are decoded to, one at least, and leaves a lower limit. -/
theorem exists_taken {source rest : Source} {line : String} (h : source.readLine = (.line line, rest)) :
    ∃ taken, taken ≠ [] ∧ line = Utf8.decode taken ∧ source.bytes = taken ++ rest.bytes ∧
      rest.lineLimit < source.lineLimit := by
  rcases hread : source.readBytes with ⟨reading, after⟩
  unfold readLine at h
  rw [hread] at h
  obtain ⟨hreading, hrest⟩ := Prod.mk.inj h
  obtain rfl : after = rest := hrest
  cases reading with
  | endOfInput | failed => cases hreading
  | line taken =>
    cases hreading
    obtain ⟨hne, hbytes, hends⟩ := of_readFrom_eq_line hread
    refine ⟨taken, hne, rfl, hbytes, ?_⟩
    have hsource : source ≠ [] := by
      rintro rfl
      exact hne (List.append_eq_nil_iff.1 hbytes.symm).1
    unfold lineLimit
    rw [if_neg hsource]
    rcases hends with rfl | hends
    · simp
    · split <;> omega

end Source

/-! ## One pass of the loop -/

/-- Passes through the loop once: what was observed and where the loop begins again, or what the run comes
to. -/
def Head.pass (host : Host Dir State) (head : Head Dir State) :
    (Trace Dir × Head Dir State) ⊕ Run Dir State :=
  let shown := head.shown
  match shown.fault? with
  | some fault => .inr ⟨shown.trace, .error (.io fault), head.shell⟩
  | none =>
    match head.source.readLine with
    | (.failed fault, _) =>
      .inr ⟨shown.trace ++ [.read (.failed fault)], .error (.read fault), head.shell⟩
    | (.endOfInput, _) =>
      .inr (head.shell.finish (shown.trace ++ [.read .endOfInput, .note .endOfInput]) shown.console)
    | (.line line, rest) =>
      let (trace, after, console, signal) := head.shell.execute host shown.console line
      let trace := shown.trace ++ .read (.line line) :: trace
      match signal with
      | .stop => .inr (after.finish trace console)
      | .proceed => .inl (trace, ⟨after, rest, console⟩)

/-- The run from here, if it needs no more than so many passes. -/
def Head.runWithin (host : Host Dir State) : Nat → Head Dir State → Option (Run Dir State)
  | 0, _ => none
  | passes + 1, head =>
    match head.pass host with
    | .inl (trace, next) => (next.runWithin host passes).map (·.following trace)
    | .inr run => some run

section
variable {host : Host Dir State} {head next : Head Dir State} {trace : Trace Dir} {run : Run Dir State}

theorem pass_of_turn (h : Turn host head trace next) : head.pass host = .inl (trace, next) := by
  cases h with
  | mk line rest hshown hread hends =>
    unfold Head.pass
    simp only [hshown, hread, head.execute_eq host line, hends]
    rfl

theorem pass_of_last (h : Last host head run) : head.pass host = .inr run := by
  unfold Head.pass
  cases h with
  | unshown fault hshown => simp only [hshown]
  | unread fault rest hshown hread => simp only [hshown, hread]
  | ended rest hshown hread => simp only [hshown, hread]
  | exited line rest hshown hread hends =>
    simp only [hshown, hread, head.execute_eq host line, hends, if_true]

/-- A turn brings the limit down. -/
theorem Turn.lineLimit_lt (h : Turn host head trace next) :
    next.source.lineLimit < head.source.lineLimit := by
  cases h with
  | mk line rest hshown hread hends =>
    obtain ⟨taken, -, -, -, hlimit⟩ := Source.exists_taken hread
    exact hlimit

/-- A run needs no more passes than there are lines to read, and one to find that there are none. -/
theorem runWithin_of_lineLimit_lt (host : Host Dir State) (head : Head Dir State) {passes : Nat}
    (h : head.source.lineLimit < passes) : head.runWithin host passes = some (head.run host) := by
  induction passes generalizing head with
  | zero => exact absurd h (Nat.not_lt_zero _)
  | succ passes ih =>
    rcases turn_or_last host head with ⟨trace, next, hturn⟩ | ⟨run, hlast⟩
    · have hnext := ih next (Nat.lt_of_lt_of_le hturn.lineLimit_lt (Nat.le_of_lt_succ h))
      simp only [Head.runWithin, pass_of_turn hturn, hnext, Option.map_some, run_of_turn hturn]
    · simp only [Head.runWithin, pass_of_last hlast, run_of_last hlast]

/-! ## What is read in a run -/

theorem Head.dispatches_line (host : Host Dir State) (head : Head Dir State) (line : String) :
    (head.shown.trace ++ .read (.line line) :: (head.done host line).trace).dispatches.map Prod.fst
      = [words line] := by
  rw [← Trace.dispatches_steps, head.steps_line, Shell.map_fst_dispatches_stepsOf]
  rfl

theorem Shell.dispatches_finish (shell : Shell Dir State) (trace : Trace Dir) (console : Console) :
    (shell.finish trace console).trace.dispatches = trace.dispatches := by
  rw [← Trace.dispatches_steps, Shell.steps_finish, Trace.dispatches_steps]

theorem Head.dispatches_shown (head : Head Dir State) : head.shown.trace.dispatches = [] := by
  rw [Head.shown, ← Trace.dispatches_steps, Console.steps_prompt, Trace.dispatches_nil]

/-- The commands of the run are read from the beginning of the source, each from some bytes of its own, and
there are no more of them than the source's limit. -/
def Run.ReadOff (run : Run Dir State) (source : Source) : Prop :=
  ∃ taken rest, source.bytes = List.flatten taken ++ rest ∧ (∀ bytes ∈ taken, bytes ≠ []) ∧
    run.trace.dispatches.map Prod.fst = taken.map (words ∘ Utf8.decode) ∧ taken.length ≤ source.lineLimit

theorem readOff_of_dispatches_eq_nil (source : Source) (h : run.trace.dispatches = []) :
    run.ReadOff source :=
  ⟨[], source.bytes, rfl, by simp, by simp [h], Nat.zero_le _⟩

theorem readOff_of_last (h : Last host head run) : run.ReadOff head.source := by
  cases h with
  | unshown => exact readOff_of_dispatches_eq_nil _ head.dispatches_shown
  | unread => exact readOff_of_dispatches_eq_nil _ (by simp [head.dispatches_shown])
  | ended => exact readOff_of_dispatches_eq_nil _ (by simp [Shell.dispatches_finish, head.dispatches_shown])
  | exited line rest hshown hread =>
    obtain ⟨taken, hne, rfl, hbytes, hlimit⟩ := Source.exists_taken hread
    refine ⟨[taken], rest.bytes, by simpa using hbytes, by simpa using hne, ?_, Nat.succ_le_of_lt ?_⟩
    · rw [Shell.dispatches_finish, head.dispatches_line]
      rfl
    · exact Nat.lt_of_le_of_lt (Nat.zero_le _) hlimit

/-- A turn takes the bytes of its line, and those of the lines behind it are taken from what it leaves. -/
theorem readOff_of_turn (h : Turn host head trace next) (hlater : run.ReadOff next.source) :
    (run.following trace).ReadOff head.source := by
  obtain ⟨later, behind, hbytes', hne', hdispatches, hlength⟩ := hlater
  cases h with
  | mk line rest hshown hread hends =>
    obtain ⟨taken, hne, rfl, hbytes, hlimit⟩ := Source.exists_taken hread
    refine ⟨taken :: later, behind, ?_, List.forall_mem_cons.2 ⟨hne, hne'⟩, ?_, ?_⟩
    · rw [hbytes, hbytes', List.flatten_cons, List.append_assoc]
    · unfold Run.following
      rw [Trace.dispatches_append, List.map_append, head.dispatches_line, hdispatches]
      rfl
    · exact Nat.succ_le_of_lt (Nat.lt_of_le_of_lt hlength hlimit)

theorem readOff_run (host : Host Dir State) (head : Head Dir State) : (head.run host).ReadOff head.source :=
  run_induction host (fun head run => run.ReadOff head.source) (fun _ _ hlast => readOff_of_last hlast)
    (fun _ _ _ _ hturn hlater => readOff_of_turn hturn hlater) head

end

/-- A run ends. Whatever is read, whatever the prompt is, whatever becomes of both streams and of the programs
that are launched, the loop is passed through at most once for every line feed and every end of input that the
source holds, once for a line behind them, and once more. No more lines than that are dispatched, each read
from one byte or more that no other line is read from. -/
theorem run_terminates (host : Host Dir State) (shell : Shell Dir State) (source : Source)
    (console : Console) :
    let head : Head Dir State := ⟨shell, source, console⟩
    let run := shell.run host source console
    let limit := source.bytes.count lineFeed + source.count .endOfInput + 1
    head.runWithin host (limit + 1) = some run ∧ run.trace.dispatches.length ≤ limit ∧
      ∃ taken rest, source.bytes = List.flatten taken ++ rest ∧ (∀ bytes ∈ taken, bytes ≠ []) ∧
        run.trace.dispatches.map Prod.fst = taken.map (words ∘ Utf8.decode) := by
  intro head run limit
  have hlimit : source.lineLimit ≤ limit := source.lineLimit_le
  obtain ⟨taken, rest, hbytes, hne, hdispatches, hlength⟩ := readOff_run host head
  refine ⟨runWithin_of_lineLimit_lt host head (Nat.lt_succ_of_le hlimit), ?_, taken, rest, hbytes, hne,
    hdispatches⟩
  calc run.trace.dispatches.length
      = (run.trace.dispatches.map Prod.fst).length := (List.length_map _).symm
    _ = taken.length := by rw [show run.trace.dispatches.map Prod.fst = _ from hdispatches, List.length_map]
    _ ≤ limit := hlength.trans hlimit

end LineShell
