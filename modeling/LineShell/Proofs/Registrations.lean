import LineShell.Builtin.Registry
import LineShell.Proofs.Consoles
import LineShell.Proofs.Segments
/-!
# Registering builtins

A table comes about by registering builtins one after another, under any names and some of them perhaps
again (`Registry.Registered`). The builtin that is found under a name is the first of that name; a later
one changes what is found under its own name, and that only if the name is new. `help` lists the names,
each on a line of its own, so a name is listed exactly when it is found (`Registry.find?_registered`).
-/

namespace LineShell

variable {Dir : Type}

namespace Registry

/-- The table holds just these builtins, registered one after another in this order. The first of them
may be the standard ones. -/
inductive Registered : Registry Dir → List (Builtin Dir) → Prop
  | empty : Registered empty []
  | standard : Registered standard [.cd, .help, .exit, .history]
  | register {registry : Registry Dir} {builtins : List (Builtin Dir)} (builtin : Builtin Dir) :
      Registered registry builtins → Registered (registry.register builtin) (builtins ++ [builtin])

section
variable {registry : Registry Dir} {builtins : List (Builtin Dir)} {builtin : Builtin Dir} {name : String}

theorem Registered.builtins_eq (h : Registered registry builtins) : registry.builtins = builtins := by
  induction h with
  | empty | standard => rfl
  | register builtin _ ih => rw [builtins_register, ih]

/-- The names go along with the builtins. -/
theorem Registered.names_eq_map (h : Registered registry builtins) :
    registry.names = builtins.map (·.name) := by
  rw [registry.names_eq, h.builtins_eq]

/-- What is found stands in the table, and no builtin of that name stands before it. -/
theorem find?_eq_some_iff :
    registry.find? name = some builtin ↔ ∃ before after,
      registry.builtins = before ++ builtin :: after ∧ builtin.name = name ∧
        ∀ earlier ∈ before, earlier.name ≠ name := by
  unfold find?
  rw [List.find?_eq_some_iff_append]
  constructor
  · rintro ⟨hname, before, after, htable, hbefore⟩
    exact ⟨before, after, htable, by simpa using hname, by simpa using hbefore⟩
  · rintro ⟨before, after, htable, hname, hbefore⟩
    exact ⟨by simpa using hname, before, after, htable, by simpa using hbefore⟩

/-! What registering one more builtin changes. -/

theorem find?_register (registry : Registry Dir) (builtin : Builtin Dir) (name : String) :
    (registry.register builtin).find? name
      = (registry.find? name).or (if builtin.name = name then some builtin else none) := by
  unfold find?
  rw [builtins_register, List.find?_append, List.find?_singleton]
  simp only [beq_iff_eq]

theorem find?_register_of_mem (builtin : Builtin Dir) (h : name ∈ registry.names) :
    (registry.register builtin).find? name = registry.find? name := by
  obtain ⟨found, hfound⟩ := Option.isSome_iff_exists.1 ((isSome_find?_iff registry name).2 h)
  rw [find?_register, hfound, Option.some_or]

theorem find?_register_of_not_mem (h : builtin.name ∉ registry.names) :
    (registry.register builtin).find? builtin.name = some builtin := by
  rw [find?_register, find?_eq_none_iff.2 h, Option.none_or, if_pos rfl]

theorem find?_register_of_ne (registry : Registry Dir) (h : name ≠ builtin.name) :
    (registry.register builtin).find? name = registry.find? name := by
  rw [find?_register, if_neg (Ne.symm h), Option.or_none]

end

end Registry

/-! ## What `help` writes -/

/-- Lines that hold no line feed are cut apart again. -/
theorem linesOf_flatMap {lines : List Bytes} (h : ∀ line ∈ lines, lineFeed ∉ line) :
    linesOf (lines.flatMap (· ++ [lineFeed])) = lines.map (· ++ [lineFeed]) := by
  induction lines with
  | nil => rfl
  | cons line lines ih =>
    rw [List.forall_mem_cons] at h
    rw [List.flatMap_cons, List.append_assoc, List.singleton_append, linesOf_append_cons h.1, ih h.2,
      List.map_cons]

/-- Lines of text without a newline, each with one behind it, are the lines of what is written. -/
theorem linesOf_encode_join {lines : List String} (h : ∀ line ∈ lines, '\n' ∉ line.toList) :
    linesOf (Utf8.encode (String.join (lines.map (· ++ "\n"))))
      = lines.map fun line => Utf8.encode (line ++ "\n") := by
  have hwritten : Utf8.encode (String.join (lines.map (· ++ "\n")))
      = (lines.map Utf8.encode).flatMap (· ++ [lineFeed]) := by
    rw [← flatten_map_encode, List.map_map, List.flatMap_map]
    simp only [Function.comp_def, Utf8.encode_append]
    rfl
  rw [hwritten, linesOf_flatMap, List.map_map]
  · simp only [Function.comp_def, Utf8.encode_append]
    rfl
  · intro bytes hbytes hfeed
    obtain ⟨line, hline, rfl⟩ := List.mem_map.1 hbytes
    refine h line hline ?_
    rwa [← newline_mem_decode_iff, Utf8.decode_encode] at hfeed

namespace Builtin

/-- The lines that `help` writes for these names. -/
def helpLines (names : List String) : List String :=
  ["Type program names and arguments, and hit enter.", "The following are built-in commands:"]
    ++ names.map ("  " ++ ·) ++ ["Use the man command for information on other programs."]

theorem join_helpPieces_eq_lines (names : List String) :
    String.join (helpPieces names) = String.join ((helpLines names).map (· ++ "\n")) := by
  have hnames : String.join (names.flatMap fun name => ["  ", name, "\n"])
      = String.join (names.map fun name => "  " ++ name ++ "\n") := by
    induction names with
    | nil => rfl
    | cons name names ih => simp [String.join_cons, ih, String.append_assoc]
  simp [helpPieces, helpLines, helpHeader, helpFooter, String.join_append, hnames, Function.comp_def]

/-- The lines around the names are not indented, so none of them passes for one of a name. -/
theorem mem_helpLines_iff {names : List String} {name : String} :
    "  " ++ name ∈ helpLines names ↔ name ∈ names := by
  have hindented {line : String} (h : line.toList.head? ≠ some ' ') : "  " ++ name ≠ line := by
    rintro rfl
    simp at h
  constructor
  · intro h
    rcases List.mem_append.1 h with h | h
    · rcases List.mem_append.1 h with h | h
      · rcases List.mem_cons.1 h with h | h
        · exact absurd h (hindented (by decide))
        · exact absurd (List.mem_singleton.1 h) (hindented (by decide))
      · obtain ⟨other, hmem, heq⟩ := List.mem_map.1 h
        exact (String.append_right_inj _).1 heq ▸ hmem
    · exact absurd (List.mem_singleton.1 h) (hindented (by decide))
  · intro h
    exact List.mem_append_left _ (List.mem_append_right _ (List.mem_map_of_mem h))

theorem newline_not_mem_helpLines {names : List String} (h : ∀ name ∈ names, '\n' ∉ name.toList) :
    ∀ line ∈ helpLines names, '\n' ∉ line.toList := by
  have hnames : ∀ line ∈ names.map ("  " ++ ·), '\n' ∉ line.toList := by
    simpa using h
  simp only [helpLines, List.forall_mem_append, List.forall_mem_cons]
  exact ⟨⟨by decide, hnames⟩, by decide⟩

/-- On an output that takes all, `help` writes its lines. -/
theorem help_of_takesAll (context : Context Dir) (args : List String) {bench : Bench Dir}
    (h : bench.console.out.device.TakesAll) :
    (help.run context args bench).result = .ok .proceed ∧
      (help.run context args bench).trace
        = [.out (Utf8.encode (String.join ((helpLines context.names).map (· ++ "\n"))))] := by
  obtain ⟨htrace, hfault⟩ := @Console.print_of_takesAll Dir _ h (helpPieces context.names)
  rw [join_helpPieces_eq_lines] at htrace
  unfold help
  simp only [Bench.printThen, htrace, hfault, and_self]

end Builtin

/-- A table of builtins, whatever was registered. Its names are those of the builtins in the order of
their registration. A name is found exactly when it is among them, and finds the builtin registered
first under it. One more builtin changes nothing under a name that is there and nothing under the name
of another; under its own, if that is new, it is found where nothing was. `help` writes a line for each
name, in order, between two lines and one more, and a name has a line exactly when it is found. -/
theorem Registry.find?_registered {registry : Registry Dir} {builtins : List (Builtin Dir)}
    (h : registry.Registered builtins) :
    registry.names = builtins.map (·.name) ∧
      (∀ name, (registry.find? name).isSome ↔ name ∈ registry.names) ∧
      (∀ name builtin, registry.find? name = some builtin ↔ ∃ before after,
        builtins = before ++ builtin :: after ∧ builtin.name = name ∧
          ∀ earlier ∈ before, earlier.name ≠ name) ∧
      (∀ builtin : Builtin Dir,
        (∀ name ∈ registry.names, (registry.register builtin).find? name = registry.find? name) ∧
        (builtin.name ∉ registry.names → registry.find? builtin.name = none ∧
          (registry.register builtin).find? builtin.name = some builtin) ∧
        ∀ name, name ≠ builtin.name →
          (registry.register builtin).find? name = registry.find? name) ∧
      ∀ (history : History) (changeDir : ChangeDir Dir) (args : List String) (bench : Bench Dir),
        bench.console.out.device.TakesAll →
          let reply := Builtin.help.run ⟨history, registry.names, changeDir⟩ args bench
          let lines := ["Type program names and arguments, and hit enter.",
              "The following are built-in commands:"]
            ++ builtins.map (fun builtin => "  " ++ builtin.name)
            ++ ["Use the man command for information on other programs."]
          reply.result = .ok .proceed ∧
            reply.trace.out = Utf8.encode (String.join (lines.map (· ++ "\n"))) ∧
            reply.trace.err = [] ∧
            ((∀ name ∈ registry.names, '\n' ∉ name.toList) →
              linesOf reply.trace.out = lines.map fun line => Utf8.encode (line ++ "\n")) ∧
            ∀ name, "  " ++ name ∈ lines ↔ (registry.find? name).isSome := by
  refine ⟨h.names_eq_map, isSome_find?_iff registry, ?_, ?_, ?_⟩
  · intro name builtin
    rw [find?_eq_some_iff, h.builtins_eq]
  · intro builtin
    exact ⟨fun name hname => find?_register_of_mem builtin hname,
      fun hnew => ⟨find?_eq_none_iff.2 hnew, find?_register_of_not_mem hnew⟩,
      fun name hname => find?_register_of_ne registry hname⟩
  · intro history changeDir args bench hout reply lines
    obtain ⟨hresult, htrace⟩ :=
      Builtin.help_of_takesAll ⟨history, registry.names, changeDir⟩ args hout
    have hlines : Builtin.helpLines registry.names = lines := by
      simp only [Builtin.helpLines, h.names_eq_map, List.map_map, lines, Function.comp_def]
    rw [show (⟨history, registry.names, changeDir⟩ : Context Dir).names = registry.names from rfl,
      hlines] at htrace
    have hout : reply.trace.out = Utf8.encode (String.join (lines.map (· ++ "\n"))) := by
      rw [show reply.trace = _ from htrace]
      exact List.append_nil _
    refine ⟨hresult, hout, by rw [show reply.trace = _ from htrace]; rfl, ?_, ?_⟩
    · intro hnames
      rw [hout]
      exact linesOf_encode_join (hlines ▸ Builtin.newline_not_mem_helpLines hnames)
    · intro name
      rw [← hlines, Builtin.mem_helpLines_iff, isSome_find?_iff]

/-- A second `help` behind the standard builtins, and a name that is new. The first `help` is still the one
that is found, and the name is listed twice. -/
theorem Registry.find?_registered_twice :
    let again : Builtin Unit := { name := "help", run := fun _ _ bench => ⟨[], bench, .ok .stop⟩ }
    let jobs : Builtin Unit := { name := "jobs", run := fun _ _ bench => ⟨[], bench, .ok .proceed⟩ }
    let registry := Registry.standard.register again
    let larger := registry.register jobs
    let reply := Builtin.help.run ⟨{}, larger.names, fun _ _ => .error .nulInPath⟩ ["help"] ⟨{}, ()⟩
    Registered larger [.cd, .help, .exit, .history, again, jobs] ∧
      larger.names = ["cd", "help", "exit", "history", "help", "jobs"] ∧
      larger.find? "help" = some .help ∧ registry.find? "jobs" = none ∧
      larger.find? "jobs" = some jobs ∧
      linesOf reply.trace.out = ["Type program names and arguments, and hit enter.\n",
        "The following are built-in commands:\n", "  cd\n", "  help\n", "  exit\n", "  history\n",
        "  help\n", "  jobs\n",
        "Use the man command for information on other programs.\n"].map Utf8.encode := by
  intro again jobs registry larger reply
  have hregistry : registry.Registered _ := .register again .standard
  have hlarger : larger.Registered _ := .register jobs hregistry
  obtain ⟨-, -, -, hadded, -⟩ := find?_registered hregistry
  obtain ⟨hnames, -, hfound, -, hhelp⟩ := find?_registered hlarger
  obtain ⟨-, hnew, -⟩ := hadded jobs
  obtain ⟨hnone, hjobs⟩ := hnew (by decide)
  obtain ⟨-, -, -, hlines, -⟩ := hhelp {} (fun _ _ => .error .nulInPath) ["help"] ⟨{}, ()⟩
    Device.neverFails_reliable.takesAll
  refine ⟨hlarger, hnames, (hfound "help" .help).2 ⟨[.cd], _, rfl, rfl, ?_⟩, hnone, hjobs, hlines ?_⟩
  · intro earlier hmem
    rw [List.mem_singleton.1 hmem]
    decide
  · decide

end LineShell
