import LineShell.Proofs.Launching
/-!
# Children that are waited for

The system keeps a child until a wait for it tells of its end. `Kernel.keptAfter` follows the requests of a
launch and says which children are kept after them. No launch leaves any, whatever became of its child and
however often the child stopped or the waiting was interrupted.
-/

namespace LineShell

variable {Dir : Type}

/-- A child that the system keeps. -/
structure Child where
  pid : Pid
  /-- What waiting for it is still to tell, in order. -/
  ahead : List Change
  deriving DecidableEq, Repr

/-- The child behind one wait for it, unless that told of its end. -/
def Child.waited? (child : Child) : Option Child :=
  match child.ahead with
  | [] => some child
  | change :: ahead => if change.isEnd then none else some { child with ahead }

namespace Kernel

/-- The children that are kept behind one more request. A forked child becomes the program, or ends by itself.
Waiting for a spawned child tells of nothing but its end. -/
def keep (kernel : Kernel Dir) (dir : Dir) (children : List Child) : SystemCall → List Child
  | .fork =>
    match kernel.fork with
    | .ok pid => ⟨pid, []⟩ :: children
    | .error _ => children
  | .exec argv =>
    match children, kernel.exec .forked dir argv with
    | child :: others, .ok life => { child with ahead := life.changes } :: others
    | children, _ => children
  | .exit code =>
    match children with
    | child :: others => { child with ahead := [.exited code] } :: others
    | [] => []
  | .spawn argv =>
    match kernel.fork, kernel.exec .spawned dir argv with
    | .ok pid, .ok life => ⟨pid, life.changes.filter Change.isEnd⟩ :: children
    | _, _ => children
  | .wait pid => children.filterMap fun child => if child.pid = pid then child.waited? else some child

/-- The children that are kept behind these requests. -/
def keptAfter (kernel : Kernel Dir) (dir : Dir) (calls : List SystemCall) : List Child :=
  calls.foldl (kernel.keep dir) []

theorem keep_wait_of_end {change : Change} (h : change.isEnd) (kernel : Kernel Dir) (dir : Dir) (pid : Pid)
    (ahead : List Change) : kernel.keep dir [⟨pid, change :: ahead⟩] (.wait pid) = [] := by
  simp [keep, Child.waited?, h]

theorem keep_wait_of_not_end {change : Change} (h : change.isEnd = false) (kernel : Kernel Dir) (dir : Dir)
    (pid : Pid) (ahead : List Change) :
    kernel.keep dir [⟨pid, change :: ahead⟩] (.wait pid) = [⟨pid, ahead⟩] := by
  simp [keep, Child.waited?, h]

/-- What is no end of a child leaves it to be waited for again. -/
theorem foldl_keep_of_not_end (kernel : Kernel Dir) (dir : Dir) (pid : Pid) {before : List Change}
    (h : ∀ change ∈ before, change.isEnd = false) (ahead : List Change) :
    (List.replicate before.length (.wait pid)).foldl (kernel.keep dir) [⟨pid, before ++ ahead⟩]
      = [⟨pid, ahead⟩] := by
  induction before with
  | nil => rfl
  | cons change before ih =>
    rw [List.forall_mem_cons] at h
    rw [List.length_cons, List.replicate_succ, List.foldl_cons, List.cons_append, keep_wait_of_not_end h.1,
      ih h.2]

/-- Waiting for reports up to the final one leaves no child. -/
theorem foldl_keep_waits (kernel : Kernel Dir) (dir : Dir) (pid : Pid) {changes : List Change}
    (h : ∃ change ∈ changes, change.isEnd) :
    (List.replicate (awaitEnd (changes.map Change.report) (exists_isFinal_of_exists_isEnd h)).2
      (.wait pid)).foldl (kernel.keep dir) [⟨pid, changes⟩] = [] := by
  obtain ⟨last, hfind⟩ := Option.isSome_iff_exists.1 (List.find?_isSome.2 h)
  obtain ⟨hend, before, ahead, rfl, hbefore⟩ := List.find?_eq_some_iff_append.1 hfind
  have hidle : ∀ change ∈ before, change.isEnd = false := by simpa using hbefore
  have hunsettled : ∀ report ∈ before.map Change.report, report.outcome? = none := by
    intro report hreport
    obtain ⟨change, hmem, rfl⟩ := List.mem_map.1 hreport
    exact Change.outcome?_report_eq_none_iff.2 (hidle change hmem)
  obtain ⟨outcome, houtcome⟩ := Option.isSome_iff_exists.1 (last.isFinal_report.trans hend)
  simp only [List.map_append, List.map_cons]
  rw [awaitEnd_append hunsettled houtcome, List.length_map, List.replicate_succ', List.foldl_append,
    kernel.foldl_keep_of_not_end dir pid hidle]
  exact kernel.keep_wait_of_end hend dir pid ahead

/-- A launch by fork and exec leaves no child, whether or not its child became the program. -/
theorem keptAfter_forkExec (kernel : Kernel Dir) (dir : Dir) (args : List String) :
    kernel.keptAfter dir (forkExec kernel dir args).calls = [] := by
  unfold forkExec keptAfter
  rcases hvector : argumentVector args with fault | _ | ⟨program, argv⟩
  · rfl
  · rfl
  · cases hfork : kernel.fork with
    | error errno => simp [keep, hfork]
    | ok child =>
      cases hexec : kernel.exec .forked dir (program :: argv) with
      | ok life =>
        simp only [hfork, hexec, List.cons_append, List.nil_append, List.foldl_cons, keep]
        exact kernel.foldl_keep_waits dir child life.ends
      | error errno =>
        simp only [hfork, hexec, List.cons_append, List.nil_append, List.foldl_cons, keep]
        exact kernel.foldl_keep_waits dir child (Execution.stillborn errno).ends

/-- Neither does a launch by spawning. -/
theorem keptAfter_spawn (kernel : Kernel Dir) (dir : Dir) (args : List String) :
    kernel.keptAfter dir (spawn kernel dir args).calls = [] := by
  unfold spawn keptAfter
  cases args with
  | nil => rfl
  | cons name rest =>
    cases hholds : (name :: rest).any holdsNul with
    | true => simp [Attempt.refused]
    | false =>
      simp only [Bool.false_eq_true, if_false]
      cases hfork : kernel.fork with
      | error errno => simp [keep, hfork]
      | ok child =>
        cases hexec : kernel.exec .spawned dir ((name :: rest).map Utf8.encode) with
        | error errno =>
          simp only [List.foldl_cons, List.foldl_nil, keep, hfork, hexec]
        | ok life =>
          simp only [List.foldl_cons, List.foldl_nil, keep, hfork, hexec]
          -- The first thing that a wait tells of is an end.
          cases hends : life.changes.filter Change.isEnd with
          | nil =>
            obtain ⟨change, hmem, hend⟩ := life.ends
            exact absurd hend (List.filter_eq_nil_iff.1 hends change hmem)
          | cons change ahead =>
            have hend : change.isEnd := (List.mem_filter.1 (hends ▸ List.mem_cons_self)).2
            exact kernel.keep_wait_of_end hend dir child ahead

end Kernel

end LineShell
