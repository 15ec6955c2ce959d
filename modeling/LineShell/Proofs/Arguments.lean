import LineShell.Proofs.Decoding
import LineShell.Proofs.Launching
/-!
# Arguments that cannot be passed on

For the system an argument ends at its first zero byte, so a vector is passed on only if none of its arguments
holds one. Both ways to launch look at this before they ask anything of the system, each in an order of its
own: one looks through the arguments and then for a program, the other for a program first.
`launch_checks_arguments` says that both refuse the same vectors, and hand on all others byte for byte.
-/

namespace LineShell

/-- There is no program to start, or some argument holds the character that is written as a zero byte. -/
def Unfit (args : List String) : Prop := args = [] ∨ ∃ arg ∈ args, '\x00' ∈ arg.toList

instance : DecidablePred Unfit := fun args =>
  inferInstanceAs (Decidable (args = [] ∨ ∃ arg ∈ args, '\x00' ∈ arg.toList))

/-! ## Zero bytes -/

theorem Utf8.zero_mem_encode_iff {text : String} : 0 ∈ encode text ↔ '\x00' ∈ text.toList := by
  have h := @mem_decode_iff 0 (by decide) (encode text)
  rw [decode_encode] at h
  exact h.symm

theorem not_unfit_iff {args : List String} :
    ¬ Unfit args ↔ args ≠ [] ∧ ∀ arg ∈ args, 0 ∉ Utf8.encode arg := by
  simp [Unfit, Utf8.zero_mem_encode_iff]

/-- Where an argument holds a zero byte, there is a first one in the first such argument. -/
theorem exists_first_nul {args : List String} (h : ∃ arg ∈ args, '\x00' ∈ arg.toList) :
    ∃ before head tail after, args = before ++ (head ++ "\x00" ++ tail) :: after ∧
      (∀ arg ∈ before, '\x00' ∉ arg.toList) ∧ '\x00' ∉ head.toList := by
  induction args with
  | nil => simp at h
  | cons arg args ih =>
    by_cases harg : '\x00' ∈ arg.toList
    · obtain ⟨head, tail, hlist, hhead⟩ := List.eq_append_cons_of_mem harg
      have hwhole : String.ofList head ++ "\x00" ++ String.ofList tail = arg :=
        String.toList_inj.1 (by simp [hlist])
      exact ⟨[], String.ofList head, String.ofList tail, args, by rw [hwhole, List.nil_append], by simp,
        by simpa using hhead⟩
    · obtain ⟨bad, hmem, hbad⟩ := h
      have hlater : bad ∈ args := by
        rcases List.mem_cons.1 hmem with rfl | hmem
        · exact absurd hbad harg
        · exact hmem
      obtain ⟨before, head, tail, after, rfl, hbefore, hhead⟩ := ih ⟨bad, hlater, hbad⟩
      exact ⟨arg :: before, head, tail, after, rfl, List.forall_mem_cons.2 ⟨harg, hbefore⟩, hhead⟩

/-! ## The check before a fork -/

theorem argumentBytes_of_nul {head : String} (h : '\x00' ∉ head.toList) (tail : String) :
    argumentBytes (head ++ "\x00" ++ tail) = .error (.nulAt (Utf8.encode head).length) := by
  have hhead : 0 ∉ Utf8.encode head := fun hmem => h (Utf8.zero_mem_encode_iff.1 hmem)
  have hbytes : Utf8.encode (head ++ "\x00" ++ tail) = Utf8.encode head ++ 0 :: Utf8.encode tail := by
    rw [Utf8.encode_append, Utf8.encode_append, List.append_assoc]
    rfl
  have hoffset : (Utf8.encode (head ++ "\x00" ++ tail)).idxOf? 0 = some (Utf8.encode head).length := by
    have hnone : (Utf8.encode head).findIdx? (· == 0) = none := by
      rw [List.findIdx?_eq_none_iff]
      intro b hb
      simpa using fun hzero : b = 0 => hhead (hzero ▸ hb)
    rw [hbytes, List.idxOf?, List.findIdx?_append, hnone]
    simp [List.findIdx?_cons]
  simp only [argumentBytes, hoffset]

/-- The first argument that cannot be passed on decides the failure. -/
theorem argumentVector_of_error {before after : List String} {arg : String} {fault : Fault}
    (hbefore : ∀ arg ∈ before, '\x00' ∉ arg.toList) (harg : argumentBytes arg = .error fault) :
    argumentVector (before ++ arg :: after) = .error fault := by
  induction before with
  | nil => simp only [List.nil_append, argumentVector, harg]
  | cons first before ih =>
    rw [List.forall_mem_cons] at hbefore
    have hfirst : 0 ∉ Utf8.encode first := fun hmem => hbefore.1 (Utf8.zero_mem_encode_iff.1 hmem)
    simp only [List.cons_append, argumentVector, argumentBytes_of_not_mem hfirst, ih hbefore.2]

section
variable {Dir : Type} {dir : Dir} {args : List String}

theorem forkExec_of_error {fault : Fault} (h : argumentVector args = .error fault) (kernel : Kernel Dir) :
    forkExec kernel dir args = .refused fault := by
  simp only [forkExec, h]

/-- What is fit is handed to a child, once there is one. -/
theorem calls_forkExec (h : ¬ Unfit args) (kernel : Kernel Dir) :
    (∀ errno, kernel.fork = .error errno → (forkExec kernel dir args).calls = [.fork]) ∧
      ∀ child, kernel.fork = .ok child → ∃ waits,
        (forkExec kernel dir args).calls = .fork :: .exec (args.map Utf8.encode) :: waits ∧
          ∀ call ∈ waits, call = .exit execFailure ∨ call = .wait child := by
  obtain ⟨hne, hpassed⟩ := not_unfit_iff.1 h
  obtain ⟨name, rest, rfl⟩ := List.exists_cons_of_ne_nil hne
  unfold forkExec
  rw [argumentVector_of_forall hpassed, List.map_cons]
  constructor
  · intro errno hfork
    simp only [hfork]
  · intro child hfork
    cases hexec : kernel.exec .forked dir (Utf8.encode name :: rest.map Utf8.encode) with
    | ok life =>
      simp only [hfork, hexec]
      exact ⟨_, rfl, fun call hcall => .inr (List.eq_of_mem_replicate hcall)⟩
    | error errno =>
      simp only [hfork, hexec]
      refine ⟨_, rfl, fun call hcall => ?_⟩
      rcases List.mem_cons.1 hcall with rfl | hcall
      · exact .inl rfl
      · exact .inr (List.eq_of_mem_replicate hcall)

/-! ## The check before a program is spawned -/

theorem any_holdsNul : args.any holdsNul = true ↔ ∃ arg ∈ args, '\x00' ∈ arg.toList := by
  simp [holdsNul, Utf8.zero_mem_encode_iff]

theorem spawn_of_nul (h : ∃ arg ∈ args, '\x00' ∈ arg.toList) (kernel : Kernel Dir) :
    spawn kernel dir args = .refused .nulInArguments := by
  have hholds : args.any holdsNul = true := any_holdsNul.2 h
  cases args with
  | nil => simp at h
  | cons name rest => simp only [spawn, hholds, if_true]

/-- What is fit is started in one request, and then there may be one more, for the child. -/
theorem calls_spawn (h : ¬ Unfit args) (kernel : Kernel Dir) :
    ∃ waits, (spawn kernel dir args).calls = .spawn (args.map Utf8.encode) :: waits ∧
      ∀ call ∈ waits, ∃ child, kernel.fork = .ok child ∧ call = .wait child := by
  obtain ⟨hne, hpassed⟩ := not_unfit_iff.1 h
  obtain ⟨name, rest, rfl⟩ := List.exists_cons_of_ne_nil hne
  have hholds : (name :: rest).any holdsNul = false := by simpa [holdsNul] using hpassed
  unfold spawn
  cases hfork : kernel.fork with
  | error errno => exact ⟨[], by simp [hholds], by simp⟩
  | ok child =>
    cases hexec : kernel.exec .spawned dir ((name :: rest).map Utf8.encode) with
    | error errno =>
      simp only [hholds, hexec]
      exact ⟨[], rfl, by simp⟩
    | ok life =>
      simp only [hholds, hexec]
      exact ⟨[.wait child], rfl, by simp⟩

end

/-! ## Both ways to launch -/

theorem refused_of_unfit {Dir : Type} {dir : Dir} {args : List String} (h : Unfit args) (kernel : Kernel Dir) :
    ∃ fault fault', forkExec kernel dir args = .refused fault ∧ fault.kind = .invalidInput ∧
      spawn kernel dir args = .refused fault' ∧ fault'.kind = .invalidInput := by
  rcases h with rfl | h
  · exact ⟨.emptyCommand, .emptyCommand, rfl, rfl, rfl, rfl⟩
  · have hspawn : spawn kernel dir args = .refused .nulInArguments := spawn_of_nul h kernel
    obtain ⟨before, head, tail, after, rfl, hbefore, hhead⟩ := exists_first_nul h
    have hvector := @argumentVector_of_error _ after _ _ hbefore (argumentBytes_of_nul hhead tail)
    exact ⟨_, _, forkExec_of_error hvector kernel, rfl, hspawn, rfl⟩

/-- Which argument vectors are refused before there is a process. Both ways to launch refuse exactly the unfit
ones, with a failure of invalid input, and ask nothing of the system for them; without any argument the text is
that of an empty command, and the launch by fork and exec tells at which byte of the first bad argument the
first zero byte is. Any other vector is forked for just once, and spawned once, with the bytes of all arguments
as they are. -/
theorem launch_checks_arguments {Dir : Type} (kernel : Kernel Dir) (dir : Dir) (args : List String) :
    let forked := forkExec kernel dir args
    let spawned := spawn kernel dir args
    let argv := args.map Utf8.encode
    (.fork ∉ forked.calls ↔ Unfit args) ∧
    (spawned.calls = [] ↔ Unfit args) ∧
    (Unfit args → ∃ fault fault',
      forked = { launch := { outcome := .failed fault }, calls := [] } ∧ fault.kind = .invalidInput ∧
      spawned = { launch := { outcome := .failed fault' }, calls := [] } ∧ fault'.kind = .invalidInput) ∧
    (args = [] → forked = { launch := { outcome := .failed .emptyCommand }, calls := [] } ∧
      spawned = { launch := { outcome := .failed .emptyCommand }, calls := [] } ∧
      Fault.emptyCommand.message = "empty command") ∧
    (∀ before head tail after, args = before ++ (head ++ "\x00" ++ tail) :: after →
      (∀ arg ∈ before, '\x00' ∉ arg.toList) → '\x00' ∉ head.toList →
        ∃ fault, forked = { launch := { outcome := .failed fault }, calls := [] } ∧ fault.message
          = "nul byte found in provided data at position: " ++ (Utf8.encode head).length.repr) ∧
    (¬ Unfit args →
      (∃ later, forked.calls = .fork :: later ∧ .fork ∉ later ∧
        (∀ errno, kernel.fork = .error errno → later = []) ∧
        ∀ child, kernel.fork = .ok child → ∃ waits, later = .exec argv :: waits ∧
          ∀ call ∈ waits, call = .exit execFailure ∨ call = .wait child) ∧
      ∃ waits, spawned.calls = .spawn argv :: waits ∧
        ∀ call ∈ waits, ∃ child, kernel.fork = .ok child ∧ call = .wait child) := by
  intro forked spawned argv
  refine ⟨⟨?_, ?_⟩, ⟨?_, ?_⟩, fun h => refused_of_unfit h kernel, ?_, ?_, ?_⟩
  · intro hforks
    by_contra hfit
    obtain ⟨hfailed, hforked⟩ := @calls_forkExec _ dir _ hfit kernel
    refine hforks ?_
    cases hfork : kernel.fork with
    | error errno => exact hfailed errno hfork ▸ List.mem_singleton_self _
    | ok child =>
      obtain ⟨waits, hcalls, -⟩ := hforked child hfork
      exact hcalls ▸ List.mem_cons_self
  · intro h
    obtain ⟨fault, fault', hforked, -⟩ := @refused_of_unfit _ dir _ h kernel
    simp [forked, hforked, Attempt.refused]
  · intro hcalls
    by_contra hfit
    obtain ⟨waits, hspawned, -⟩ := @calls_spawn _ dir _ hfit kernel
    simp [spawned, hspawned] at hcalls
  · intro h
    obtain ⟨fault, fault', -, -, hspawned, -⟩ := @refused_of_unfit _ dir _ h kernel
    simp [spawned, hspawned, Attempt.refused]
  · rintro rfl
    exact ⟨rfl, rfl, rfl⟩
  · rintro before head tail after rfl hbefore hhead
    have hvector := @argumentVector_of_error _ after _ _ hbefore (argumentBytes_of_nul hhead tail)
    exact ⟨_, forkExec_of_error hvector kernel, rfl⟩
  · intro hfit
    obtain ⟨hfailed, hforked⟩ := @calls_forkExec _ dir _ hfit kernel
    refine ⟨?_, calls_spawn hfit kernel⟩
    cases hfork : kernel.fork with
    | error errno =>
      exact ⟨[], hfailed errno hfork, by simp, fun _ _ => rfl, fun _ h => nomatch h⟩
    | ok child =>
      obtain ⟨waits, hcalls, hwaits⟩ := hforked child hfork
      refine ⟨_, hcalls, ?_, fun _ h => (nomatch h), ?_⟩
      · intro hmem
        rcases List.mem_cons.1 hmem with h | hmem
        · cases h
        · rcases hwaits _ hmem with h | h <;> cases h
      · rintro _ ⟨⟩
        exact ⟨waits, rfl, hwaits⟩

/-- A zero byte behind a character of two bytes, more of them behind it, a vector without any argument, and one
that can be passed on. -/
theorem launch_checks_arguments_accents :
    let life : Execution := { changes := [.exited 0], ends := ⟨.exited 0, by simp, rfl⟩ }
    let kernel : Kernel Unit := { fork := .ok 7, exec := fun _ _ _ => .ok life }
    let bad := ["echo", "é" ++ "\x00" ++ "b\x00", "\x00"]
    Unfit bad ∧
      (∃ fault, (forkExec kernel () bad).launch.outcome = .failed fault ∧
        fault.message = "nul byte found in provided data at position: 2") ∧
      (forkExec kernel () bad).calls = [] ∧
      (∃ fault, (spawn kernel () bad).launch.outcome = .failed fault ∧ fault.kind = .invalidInput) ∧
      (spawn kernel () bad).calls = [] ∧
      (forkExec kernel () []).launch.outcome = .failed .emptyCommand ∧ (forkExec kernel () []).calls = [] ∧
      (spawn kernel () []).launch.outcome = .failed .emptyCommand ∧ (spawn kernel () []).calls = [] ∧
      ¬ Unfit ["ls", "é"] ∧ ∃ waits,
        (spawn kernel () ["ls", "é"]).calls = .spawn [[0x6C, 0x73], [0xC3, 0xA9]] :: waits := by
  intro life kernel bad
  have hbad : Unfit bad := by decide
  have hfit : ¬ Unfit ["ls", "é"] := by decide
  obtain ⟨-, -, hrefused, -, hfirst, -⟩ := launch_checks_arguments kernel () bad
  obtain ⟨-, -, -, hempty, -, -⟩ := launch_checks_arguments kernel () []
  obtain ⟨-, -, -, -, -, hpassed⟩ := launch_checks_arguments kernel () ["ls", "é"]
  obtain ⟨fault, hforked, hmessage⟩ := hfirst ["echo"] "é" "b\x00" ["\x00"] rfl (by decide) (by decide)
  obtain ⟨-, fault', -, -, hspawned, hkind⟩ := hrefused hbad
  obtain ⟨hnone, hnone', -⟩ := hempty rfl
  obtain ⟨waits, hcalls, -⟩ := (hpassed hfit).2
  rw [hforked, hspawned, hnone, hnone']
  exact ⟨hbad, ⟨fault, rfl, hmessage.trans (by decide)⟩, rfl, ⟨fault', rfl, hkind⟩, rfl, rfl, rfl, rfl, rfl,
    hfit, waits, hcalls⟩

end LineShell
