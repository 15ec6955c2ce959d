import LineShell.Decimal
import LineShell.Invocation
import LineShell.Proofs.Arguments
import LineShell.Proofs.Reaping
import LineShell.Proofs.Registrations
import LineShell.Proofs.Routing
/-!
# Programs that cannot be started

Three things can stand in the way of a program: an argument that cannot be passed on, a process that cannot be
made, and a process that cannot become the program. Whichever it is, standard error gets one line about it. A
forked child says it by itself if it cannot become the program, and then the shell has nothing to add; all else
the shell says. `dispatch_of_obstacle` goes through the three for both ways to launch.
-/

namespace LineShell

variable {Dir State : Type}

/-! ## Texts on one line -/

/-- A literal text is made of its characters, so this is what to apply where one is to be looked through. -/
theorem not_mem_toList_ofList {c : Char} {chars : List Char} (h : c ∉ chars) :
    c ∉ (String.ofList chars).toList := by
  rwa [String.toList_ofList]

theorem newline_not_mem_append {one two : String} (h : '\n' ∉ one.toList) (h' : '\n' ∉ two.toList) :
    '\n' ∉ (one ++ two).toList := by
  simp [h, h']

theorem newline_not_mem_toString (n : Int) : '\n' ∉ (toString n).toList := by
  cases n with
  | ofNat n => exact Decimal.newline_not_mem_repr n
  | negSucc n => simpa [toString, Int.repr] using Decimal.newline_not_mem_repr (n + 1)

theorem Errno.newline_not_mem_text (e : Errno) : '\n' ∉ e.text.toList := by
  unfold text
  split
  case h_133 => exact newline_not_mem_append (not_mem_toList_ofList (by decide)) (newline_not_mem_toString _)
  all_goals exact not_mem_toList_ofList (by decide)

theorem Errno.newline_not_mem_childText (e : Errno) : '\n' ∉ e.childText.toList := by
  unfold childText
  split
  case h_20 =>
    split
    · exact e.newline_not_mem_text
    · exact not_mem_toList_ofList (by decide)
  all_goals exact not_mem_toList_ofList (by decide)

theorem FaultKind.newline_not_mem_text (kind : FaultKind) : '\n' ∉ kind.text.toList := by
  cases kind <;> exact not_mem_toList_ofList (by decide)

/-- A failure that brings no text of its own is told in one line. -/
theorem Fault.newline_not_mem_message {fault : Fault} (h : ∀ kind text, fault ≠ .described kind text) :
    '\n' ∉ fault.message.toList := by
  cases fault with
  | system errno =>
    refine newline_not_mem_append (newline_not_mem_append (newline_not_mem_append ?_ ?_) ?_) ?_
    · exact errno.newline_not_mem_text
    · exact not_mem_toList_ofList (by decide)
    · exact newline_not_mem_toString errno.code
    · exact not_mem_toList_ofList (by decide)
  | plain kind => exact kind.newline_not_mem_text
  | described kind text => exact absurd rfl (h kind text)
  | nulAt offset =>
    exact newline_not_mem_append (not_mem_toList_ofList (by decide)) (Decimal.newline_not_mem_repr offset)
  | tookNothing | nulInPath | nulInArguments | emptyCommand => exact not_mem_toList_ofList (by decide)

/-! ## What can stand in the way -/

/-- What keeps a program from being started. -/
inductive Obstacle where
  /-- Some argument cannot be passed on. -/
  | unfit
  /-- No process can be made. -/
  | noProcess (errno : Errno)
  /-- The process cannot become the program. -/
  | noProgram (errno : Errno)
  deriving DecidableEq, Repr

/-- What stands in the way of the program that these arguments name. -/
def Kernel.obstacle? (kernel : Kernel Dir) (rules : StartRules) (dir : Dir) (args : List String) :
    Option Obstacle :=
  if Unfit args then some .unfit
  else
    match kernel.fork, kernel.exec rules dir (args.map Utf8.encode) with
    | .error errno, _ => some (.noProcess errno)
    | .ok _, .error errno => some (.noProgram errno)
    | .ok _, .ok _ => none

section
variable {kernel : Kernel Dir} {rules : StartRules} {dir : Dir} {args : List String} {errno : Errno}

/-- Nothing stands in the way of just the programs that are started. -/
theorem obstacle?_eq_none_iff :
    kernel.obstacle? rules dir args = none ↔ ∃ child life, Starts kernel rules dir args child life := by
  unfold Kernel.obstacle?
  constructor
  · intro h
    split at h
    · cases h
    · rename_i hfit
      obtain ⟨hne, hpassed⟩ := not_unfit_iff.1 hfit
      split at h
      · cases h
      · cases h
      · rename_i child life hfork hexec
        exact ⟨child, life, hne, hpassed, hfork, hexec⟩
  · rintro ⟨child, life, hne, hpassed, hfork, hexec⟩
    rw [if_neg (not_unfit_iff.2 ⟨hne, hpassed⟩), hfork, hexec]

theorem unfit_of_obstacle? (h : kernel.obstacle? rules dir args = some .unfit) : Unfit args := by
  unfold Kernel.obstacle? at h
  split at h
  · assumption
  · split at h <;> cases h

theorem of_obstacle?_noProcess (h : kernel.obstacle? rules dir args = some (.noProcess errno)) :
    ¬ Unfit args ∧ kernel.fork = .error errno := by
  unfold Kernel.obstacle? at h
  split at h
  · cases h
  · rename_i hfit
    split at h <;> cases h
    exact ⟨hfit, ‹_›⟩

theorem of_obstacle?_noProgram (h : kernel.obstacle? rules dir args = some (.noProgram errno)) :
    ¬ Unfit args ∧ (∃ child, kernel.fork = .ok child) ∧
      kernel.exec rules dir (args.map Utf8.encode) = .error errno := by
  unfold Kernel.obstacle? at h
  split at h
  · cases h
  · rename_i hfit
    split at h <;> cases h
    exact ⟨hfit, ⟨_, ‹_›⟩, ‹_›⟩

end

/-! ## Launches that come upon an obstacle -/

/-- What a launch by fork and exec comes to behind an obstacle. Only a child that could not become the program
says something, and it ended. -/
inductive Obstacle.LeadsTo (name : String) : Obstacle → Launch → Prop
  | unfit (offset : Nat) : LeadsTo name .unfit { outcome := .failed (.nulAt offset) }
  | noProcess (errno : Errno) : LeadsTo name (.noProcess errno) { outcome := .failed (.system errno) }
  | noProgram (errno : Errno) :
      LeadsTo name (.noProgram errno)
        { outcome := .exited execFailure, notes := [.spawnedChild name],
          err := Utf8.encode (execDiagnostic errno) }

/-- What spawning fails with behind an obstacle. It learns of a process that could not be made and of one that
could not become the program in the same way. -/
def Obstacle.fault : Obstacle → Fault
  | .unfit => .nulInArguments
  | .noProcess errno | .noProgram errno => .system errno

section
variable {kernel : Kernel Dir} {dir : Dir} {name : String} {rest : List String} {errno : Errno}

theorem forkExec_of_noProcess (hfit : ¬ Unfit (name :: rest)) (hfork : kernel.fork = .error errno) :
    forkExec kernel dir (name :: rest) = ⟨{ outcome := .failed (.system errno) }, [.fork]⟩ := by
  obtain ⟨-, hpassed⟩ := not_unfit_iff.1 hfit
  unfold forkExec
  simp only [argumentVector_of_forall hpassed, List.map_cons, hfork]

/-- A child that could not become the program is waited for once, and ended with the status for that. -/
theorem forkExec_of_noProgram {child : Pid} (hfit : ¬ Unfit (name :: rest)) (hfork : kernel.fork = .ok child)
    (hexec : kernel.exec .forked dir ((name :: rest).map Utf8.encode) = .error errno) :
    forkExec kernel dir (name :: rest) =
      { launch :=
          { outcome := .exited execFailure, notes := [.spawnedChild name],
            err := Utf8.encode (execDiagnostic errno) }
        calls := [.fork, .exec ((name :: rest).map Utf8.encode), .exit execFailure, .wait child] } := by
  obtain ⟨-, hpassed⟩ := not_unfit_iff.1 hfit
  rw [List.map_cons] at hexec
  unfold forkExec
  simp only [argumentVector_of_forall hpassed, List.map_cons, hfork, hexec]
  rfl

/-- Every obstacle to a launch by fork and exec leads to a launch of its own. -/
theorem leadsTo_forkExec {obstacle : Obstacle}
    (h : kernel.obstacle? .forked dir (name :: rest) = some obstacle) :
    obstacle.LeadsTo name (forkExec kernel dir (name :: rest)).launch := by
  cases obstacle with
  | unfit =>
    have hnul := (unfit_of_obstacle? h).resolve_left (List.cons_ne_nil _ _)
    obtain ⟨before, head, tail, after, hargs, hbefore, hhead⟩ := exists_first_nul hnul
    rw [hargs, forkExec_of_error (argumentVector_of_error hbefore (argumentBytes_of_nul hhead tail)) kernel]
    exact .unfit _
  | noProcess errno =>
    obtain ⟨hfit, hfork⟩ := of_obstacle?_noProcess h
    rw [forkExec_of_noProcess hfit hfork]
    exact .noProcess errno
  | noProgram errno =>
    obtain ⟨hfit, ⟨child, hfork⟩, hexec⟩ := of_obstacle?_noProgram h
    rw [forkExec_of_noProgram hfit hfork hexec]
    exact .noProgram errno

/-- Every obstacle to spawning is a failed launch, and nothing is said or noted in it. -/
theorem launch_spawn_of_obstacle? {obstacle : Obstacle}
    (h : kernel.obstacle? .spawned dir (name :: rest) = some obstacle) :
    (spawn kernel dir (name :: rest)).launch = { outcome := .failed obstacle.fault } := by
  have hholds (hfit : ¬ Unfit (name :: rest)) : (name :: rest).any holdsNul = false := by
    simpa [holdsNul] using (not_unfit_iff.1 hfit).2
  cases obstacle with
  | unfit =>
    rw [spawn_of_nul ((unfit_of_obstacle? h).resolve_left (List.cons_ne_nil _ _)) kernel]
    rfl
  | noProcess errno =>
    obtain ⟨hfit, hfork⟩ := of_obstacle?_noProcess h
    unfold spawn
    simp only [hholds hfit, hfork]
    rfl
  | noProgram errno =>
    obtain ⟨hfit, ⟨child, hfork⟩, hexec⟩ := of_obstacle?_noProgram h
    unfold spawn
    simp only [hholds hfit, hfork, hexec]
    rfl

end

/-! ## What a dispatch leaves on standard error -/

/-- Of a launch standard error has what the program wrote, and behind it what the shell wrote. -/
theorem allErr_of_isLaunched {host : Host Dir State} {history : History} {bench : Bench Dir}
    {launcher : State} {args : List String} {done : Dispatched Dir State}
    (h : Effect host history bench launcher args done) (hl : isLaunched args) :
    done.trace.childErr = (host.launch bench.dir args launcher).1.err ∧
      done.trace.allErr = done.trace.childErr ++ done.trace.err := by
  cases h with
  | blank | exit | moved | notMoved => cases hl
  | printed _ _ _ _ hname | notPrinted _ _ _ _ _ _ hname => rcases hname with rfl | rfl <;> cases hl
  | launched _ _ _ _ _ _ _ hflush hlaunch =>
    subst hflush
    simp [Console.flush, hlaunch]
  | notLaunched _ _ _ _ _ _ _ _ _ hflush hlaunch hreport =>
    subst hflush hreport
    simp [Console.flush, Console.report, hlaunch]

/-- Who writes to standard error. -/
inductive Speaker where
  | shell
  | child
  deriving DecidableEq, Repr

/-- Standard error gets this text, in one line behind the shell's name, and nothing else. One speaker writes
it all. -/
structure Trace.Diagnosed (trace : Trace Dir) (speaker : Speaker) (text : String) : Prop where
  line : linesOf trace.allErr = [Utf8.encode ("shell: " ++ text ++ "\n")]
  alone :
    match speaker with
    | .shell => trace.err = trace.allErr ∧ trace.childErr = []
    | .child => trace.childErr = trace.allErr ∧ trace.err = []

/-- A text without a newline is one line. -/
theorem linesOf_diagnostic {text : String} (h : '\n' ∉ text.toList) :
    linesOf (Utf8.encode ("shell: " ++ text ++ "\n")) = [Utf8.encode ("shell: " ++ text ++ "\n")] := by
  have hline : '\n' ∉ ("shell: " ++ text).toList :=
    newline_not_mem_append (not_mem_toList_ofList (by decide)) h
  simpa [String.join_cons] using linesOf_encode_join (List.forall_mem_singleton.2 hline)

section
variable (host : Host Dir State) (history : History) {bench : Bench Dir} (launcher : State)
  {args : List String}

theorem raised?_of_isLaunched (hl : isLaunched args) :
    raised? host history args bench launcher =
      match (host.launch bench.dir args launcher).1.outcome with
      | .failed fault => some (.launch fault)
      | .exited _ | .killed _ => none := by
  cases args with
  | nil => cases hl
  | cons name rest =>
    have hfind := (@find?_eq_none_iff_isLaunched Dir name rest).2 hl
    unfold raised?
    cases (host.launch bench.dir (name :: rest) launcher).1.outcome <;> simp only [hfind]

/-- What a launch fails with, the shell says, if the launch wrote nothing. -/
theorem diagnosed_of_failed {fault : Fault} (hl : isLaunched args) (herr : bench.console.err.device.TakesAll)
    (hlaunch : (host.launch bench.dir args launcher).1 = { outcome := .failed fault })
    (htext : ∀ kind text, fault ≠ .described kind text) :
    let done := dispatch host history args bench launcher
    done.signal = .proceed ∧ done.trace.Diagnosed .shell fault.message := by
  intro done
  have heffect : Effect host history bench launcher args done := effect_dispatch args
  have hraised := @raised?_of_isLaunched _ _ host history bench launcher _ hl
  simp only [hlaunch] at hraised
  obtain ⟨hsignal, hsaid⟩ := (err_dispatch host history args bench launcher).2 _ hraised
  obtain ⟨hchild, hall⟩ := allErr_of_isLaunched heffect hl
  rw [hlaunch] at hchild
  rw [hchild, List.nil_append] at hall
  refine ⟨hsignal, ?_, hall.symm, hchild⟩
  rw [hall, hsaid, Console.report_of_takesAll _ herr, Trace.err_cons, Trace.err_nil, List.append_nil]
  exact linesOf_diagnostic (Fault.newline_not_mem_message htext)

/-- What a child says that could not become the program is all: for the shell it is a program that ended. -/
theorem diagnosed_of_stillborn {errno : Errno} {code : Int} (hl : isLaunched args)
    (houtcome : (host.launch bench.dir args launcher).1.outcome = .exited code)
    (hsaid : (host.launch bench.dir args launcher).1.err = Utf8.encode (execDiagnostic errno)) :
    let done := dispatch host history args bench launcher
    done.signal = .proceed ∧ done.trace.Diagnosed .child errno.childText := by
  intro done
  have heffect : Effect host history bench launcher args done := effect_dispatch args
  have hraised := @raised?_of_isLaunched _ _ host history bench launcher _ hl
  simp only [houtcome] at hraised
  have hsilent : done.trace.err = [] := ((err_dispatch host history args bench launcher).1 hraised).1
  obtain ⟨hchild, hall⟩ := allErr_of_isLaunched heffect hl
  rw [hsilent, List.append_nil] at hall
  refine ⟨?_, ?_, hall.symm, hsilent⟩
  · rw [heffect.signal_eq, endsShell_of_isLaunched hl]
    rfl
  · rw [hall, hchild, hsaid]
    exact linesOf_diagnostic errno.newline_not_mem_childText

end

/-! ## Both ways to launch -/

/-- How an obstacle to a launch by fork and exec is told of. -/
def Obstacle.ToldForking (trace : Trace Dir) : Obstacle → Prop
  | .unfit => ∃ offset, trace.Diagnosed .shell (Fault.nulAt offset).message
  | .noProcess errno => trace.Diagnosed .shell (Fault.system errno).message
  | .noProgram errno => trace.Diagnosed .child errno.childText

section
variable {kernel : Kernel Dir} {bench : Bench Dir} {name : String} {rest : List String} {obstacle : Obstacle}

/-- What is said when a launch by fork and exec comes upon an obstacle. -/
theorem forking_of_obstacle (changeDir : ChangeDir Dir) (history : History) (hl : isLaunched (name :: rest))
    (herr : bench.console.err.device.TakesAll)
    (h : kernel.obstacle? .forked bench.dir (name :: rest) = some obstacle) :
    let done := dispatch (.forking changeDir kernel) history (name :: rest) bench ()
    done.signal = .proceed ∧ obstacle.ToldForking done.trace := by
  intro done
  let host := Host.forking changeDir kernel
  obtain ⟨launch, hlaunch⟩ : ∃ launch, (host.launch bench.dir (name :: rest) ()).1 = launch := ⟨_, rfl⟩
  have hleads : obstacle.LeadsTo name launch := hlaunch ▸ leadsTo_forkExec h
  cases hleads with
  | unfit offset =>
    obtain ⟨hsignal, hsaid⟩ := diagnosed_of_failed host history () hl herr hlaunch (by simp)
    exact ⟨hsignal, offset, hsaid⟩
  | noProcess errno => exact diagnosed_of_failed host history () hl herr hlaunch (by simp)
  | noProgram errno =>
    exact diagnosed_of_stillborn host history () hl (congrArg Launch.outcome hlaunch)
      (congrArg Launch.err hlaunch)

/-- What is said when spawning comes upon an obstacle. -/
theorem spawning_of_obstacle (changeDir : ChangeDir Dir) (history : History) (hl : isLaunched (name :: rest))
    (herr : bench.console.err.device.TakesAll)
    (h : kernel.obstacle? .spawned bench.dir (name :: rest) = some obstacle) :
    let done := dispatch (.spawning changeDir kernel) history (name :: rest) bench ()
    done.signal = .proceed ∧ done.trace.Diagnosed .shell obstacle.fault.message :=
  diagnosed_of_failed (.spawning changeDir kernel) history () hl herr (launch_spawn_of_obstacle? h)
    (by cases obstacle <;> simp [Obstacle.fault])

end

/-- What a dispatch leaves when something stands in the way of the program. Standard error has exactly one line
about it, the shell goes on, and no child is left behind. If a forked child could not become the program, the
line is the child's, which ended with status 127; otherwise, and whenever programs are spawned, it is the
shell's. Nothing stands in the way of just those programs that are started. -/
theorem dispatch_of_obstacle (changeDir : ChangeDir Dir) (kernel : Kernel Dir) (history : History)
    (name : String) (rest : List String) (bench : Bench Dir) (hname : name ∉ Registry.standardNames)
    (herr : bench.console.err.device.TakesAll) :
    let args := name :: rest
    let forked := dispatch (.forking changeDir kernel) history args bench ()
    let spawned := dispatch (.spawning changeDir kernel) history args bench ()
    let forking := forkExec kernel bench.dir args
    let spawning := spawn kernel bench.dir args
    (∀ rules, kernel.obstacle? rules bench.dir args = none ↔
      ∃ child life, Starts kernel rules bench.dir args child life) ∧
    (∀ obstacle, kernel.obstacle? .forked bench.dir args = some obstacle →
      forked.signal = .proceed ∧ obstacle.ToldForking forked.trace ∧
      (∀ errno, obstacle = .noProgram errno →
        .exit 127 ∈ forking.calls ∧ forking.launch.outcome = .exited 127) ∧
      kernel.keptAfter bench.dir forking.calls = []) ∧
    ∀ obstacle, kernel.obstacle? .spawned bench.dir args = some obstacle →
      spawned.signal = .proceed ∧ spawned.trace.Diagnosed .shell obstacle.fault.message ∧
      kernel.keptAfter bench.dir spawning.calls = [] := by
  intro args forked spawned forking spawning
  have hl : isLaunched args := by simpa [args, isLaunched, Registry.standardNames] using hname
  refine ⟨fun rules => obstacle?_eq_none_iff, fun obstacle h => ?_, fun obstacle h => ?_⟩
  · obtain ⟨hsignal, hsaid⟩ := forking_of_obstacle changeDir history hl herr h
    refine ⟨hsignal, hsaid, ?_, kernel.keptAfter_forkExec bench.dir args⟩
    rintro errno rfl
    obtain ⟨hfit, ⟨child, hfork⟩, hexec⟩ := of_obstacle?_noProgram h
    rw [show forking = _ from forkExec_of_noProgram hfit hfork hexec]
    exact ⟨by simp [execFailure], rfl⟩
  · obtain ⟨hsignal, hsaid⟩ := spawning_of_obstacle changeDir history hl herr h
    exact ⟨hsignal, hsaid, kernel.keptAfter_spawn bench.dir args⟩

/-- A program that is not there, one that must not be run, and one behind too many links: in a child that says
so, and behind a spawn of which the shell does. The two do not word every failure alike. -/
theorem dispatch_of_obstacle_missing :
    let kernel (errno : Errno) : Kernel Unit := { fork := .ok 7, exec := fun _ _ _ => .error errno }
    let bench : Bench Unit := ⟨{}, ()⟩
    let nowhere : ChangeDir Unit := fun _ _ => .error .nulInPath
    let forked (errno : Errno) := dispatch (.forking nowhere (kernel errno)) {} ["nope"] bench ()
    let spawned (errno : Errno) := dispatch (.spawning nowhere (kernel errno)) {} ["nope"] bench ()
    "nope" ∉ Registry.standardNames ∧ bench.console.err.device.TakesAll ∧
      (kernel .noEntry).obstacle? .forked () ["nope"] = some (.noProgram .noEntry) ∧
      (kernel .noEntry).obstacle? .spawned () ["nope"] = some (.noProgram .noEntry) ∧
      (kernel .noEntry).keptAfter () (forkExec (kernel .noEntry) () ["nope"]).calls = [] ∧
      linesOf (forked .noEntry).trace.allErr = [Utf8.encode "shell: No such file or directory\n"] ∧
      linesOf (spawned .noEntry).trace.allErr
        = [Utf8.encode "shell: No such file or directory (os error 2)\n"] ∧
      linesOf (forked .accessDenied).trace.allErr = [Utf8.encode "shell: Permission denied\n"] ∧
      linesOf (spawned .accessDenied).trace.allErr
        = [Utf8.encode "shell: Permission denied (os error 13)\n"] ∧
      linesOf (forked .tooManyLinks).trace.allErr
        = [Utf8.encode "shell: Too many symbolic links encountered\n"] ∧
      linesOf (spawned .tooManyLinks).trace.allErr
        = [Utf8.encode "shell: Too many levels of symbolic links (os error 40)\n"] := by
  intro kernel bench nowhere forked spawned
  have hname : "nope" ∉ Registry.standardNames := by decide
  have herr : bench.console.err.device.TakesAll := Device.neverFails_reliable.takesAll
  have hfit : ¬ Unfit ["nope"] := by decide
  have hobstacle (errno : Errno) (rules : StartRules) :
      (kernel errno).obstacle? rules () ["nope"] = some (.noProgram errno) := by
    simp [Kernel.obstacle?, hfit, kernel]
  have hsaid (errno : Errno) :
      linesOf (forked errno).trace.allErr = [Utf8.encode ("shell: " ++ errno.childText ++ "\n")] ∧
        linesOf (spawned errno).trace.allErr
          = [Utf8.encode ("shell: " ++ (Fault.system errno).message ++ "\n")] ∧
        (kernel errno).keptAfter () (forkExec (kernel errno) () ["nope"]).calls = [] := by
    obtain ⟨-, hforking, hspawning⟩ :=
      dispatch_of_obstacle nowhere (kernel errno) {} "nope" [] bench hname herr
    obtain ⟨-, hchild, -, hkept⟩ := hforking _ (hobstacle errno .forked)
    obtain ⟨-, hshell, -⟩ := hspawning _ (hobstacle errno .spawned)
    exact ⟨hchild.line, hshell.line, hkept⟩
  obtain ⟨hmissing, hmissing', hkept⟩ := hsaid .noEntry
  obtain ⟨hdenied, hdenied', -⟩ := hsaid .accessDenied
  obtain ⟨hlooping, hlooping', -⟩ := hsaid .tooManyLinks
  exact ⟨hname, herr, hobstacle _ _, hobstacle _ _, hkept, hmissing, hmissing', hdenied, hdenied', hlooping,
    hlooping'⟩

end LineShell
