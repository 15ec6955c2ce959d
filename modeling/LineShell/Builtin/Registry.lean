import LineShell.Builtin.Standard
/-!
# The table of builtins

Builtins are looked up by exact name, and the one registered first under a name is found. Their names
stand in a table of their own, which is what `help` is shown; registering a builtin adds to both tables,
so they never differ.
-/

namespace LineShell

/-- Builtins in the order they were registered, and beside them their names. -/
structure Registry (Dir : Type) where
  builtins : List (Builtin Dir) := []
  /-- The names, as often as they were registered. -/
  names : List String := []
  names_eq : names = builtins.map (·.name) := by rfl

namespace Registry

variable {Dir : Type}

/-- No builtins. -/
def empty : Registry Dir := {}

/-- Adds a builtin at the end of the table, and its name at the end of the names. -/
def register (registry : Registry Dir) (builtin : Builtin Dir) : Registry Dir where
  builtins := registry.builtins ++ [builtin]
  names := registry.names ++ [builtin.name]
  names_eq := by rw [registry.names_eq, List.map_append, List.map_singleton]

/-- The first builtin with exactly this name. -/
def find? (registry : Registry Dir) (name : String) : Option (Builtin Dir) :=
  registry.builtins.find? (·.name == name)

/-- The table a shell starts with. -/
def standard : Registry Dir :=
  (((empty.register Builtin.cd).register Builtin.help).register Builtin.exit).register
    Builtin.history

/-- The names of the standard builtins. -/
def standardNames : List String := ["cd", "help", "exit", "history"]

@[simp] theorem names_empty : (empty : Registry Dir).names = [] := rfl

@[simp] theorem builtins_register (registry : Registry Dir) (builtin : Builtin Dir) :
    (registry.register builtin).builtins = registry.builtins ++ [builtin] := rfl

@[simp] theorem names_register (registry : Registry Dir) (builtin : Builtin Dir) :
    (registry.register builtin).names = registry.names ++ [builtin.name] := rfl

theorem names_standard : (standard : Registry Dir).names = standardNames := rfl

/-- A name is found exactly when it is in the table. -/
theorem isSome_find?_iff (registry : Registry Dir) (name : String) :
    (registry.find? name).isSome ↔ name ∈ registry.names := by
  simp [find?, registry.names_eq]

theorem find?_eq_none_iff {registry : Registry Dir} {name : String} :
    registry.find? name = none ↔ name ∉ registry.names := by
  rw [← isSome_find?_iff, Option.not_isSome_iff_eq_none]

theorem find?_standard (name : String) :
    (standard : Registry Dir).find? name =
      if name = "cd" then some Builtin.cd
      else if name = "help" then some Builtin.help
      else if name = "exit" then some Builtin.exit
      else if name = "history" then some Builtin.history
      else none := by
  simp only [standard, register, empty, find?, Builtin.cd, Builtin.help, Builtin.exit,
    Builtin.history, List.nil_append, List.cons_append, List.find?_cons, List.find?_nil]
  repeat' split
  all_goals simp_all

/-- What is found among the standard builtins is one of the four. -/
theorem eq_of_find?_standard {name : String} {builtin : Builtin Dir} (h : standard.find? name = some builtin) :
    builtin = .cd ∨ builtin = .help ∨ builtin = .exit ∨ builtin = .history := by
  have hmem : builtin ∈ [Builtin.cd, .help, .exit, .history] := List.mem_of_find?_eq_some h
  simpa only [List.mem_cons, List.not_mem_nil, or_false] using hmem

end Registry

end LineShell
