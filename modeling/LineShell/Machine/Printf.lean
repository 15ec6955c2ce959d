import LineShell.Machine.Printf.Round
/-!
# The two ways of formatted printing

The program `printf` and the command of the same name differ in the escapes, flags and conversions
they know, in what they make of numbers that are too large, and in every complaint.
-/

namespace LineShell.Printf

/-- The manner of the program `printf`, under a name. -/
def Manner.ofProgram (name : String) : Manner where
  format :=
    { zeroFirst := false, extended := true, strict := true, quotes := true, numbered := true }
  argument :=
    { zeroFirst := true, extended := true, strict := true, quotes := true, numbered := true }
  guards := true
  flags := ['-', '0', '+', ' ', '#', '\x27', 'I']
  sizes := ['h', 'l', 'L', 'j', 't', 'z']
  kind := .extended
  readsQuote := false
  warns := true
  complainer := name ++ ": "
  wording problem arg :=
    Quoted.forPerson arg ++ ": " ++ match problem with
      | .notNumber => "expected a numeric value"
      | .notWhole => "value not completely converted"
      | .outOfRange => "Numerical result out of range"
  knows flags more precise form :=
    match form with
    | 'b' | 'q' => !more
    | 's' => !flags.any ['#', '0', '\x27', 'I'].contains
    | 'c' => !flags.any ['#', '0', '\x27', 'I'].contains && !precise
    | 'd' | 'i' => !flags.contains '#'
    | 'u' => !flags.any ['#', 'I'].contains
    | 'o' | 'x' | 'X' | 'a' | 'A' | 'e' | 'E' => !flags.any ['\x27', 'I'].contains
    | 'f' | 'F' | 'g' | 'G' => true
    | _ => false
  unknown text _ := text ++ Octets.toBytes ": invalid conversion specification"
  measure isPrecision n arg :=
    if largest < n.natAbs ∧ (isPrecision = false ∨ 0 < n) then
      let what := if isPrecision then "precision" else "field width"
      .error ("invalid " ++ what ++ ": " ++ Quoted.forPerson arg)
    else .ok n
  tooLarge := "write error"
  goesOn := true
  failure := 1
  forgives := true

/-- The manner of the command language, whose complaints begin in a given way. -/
def Manner.ofScript (complainer : String) : Manner where
  format := { zeroFirst := false, canStop := false }
  argument := { zeroFirst := true }
  guards := false
  flags := ['-', '0', '+', ' ', '#']
  sizes := []
  kind := .double
  readsQuote := true
  warns := false
  complainer
  wording problem arg :=
    arg ++ ": " ++ match problem with
      | .notNumber => "expected numeric value"
      | .notWhole => "not completely converted"
      | .outOfRange => "Numerical result out of range"
  knows _ _ _ form :=
    floatingForms.contains form || ['s', 'b', 'c', 'd', 'i', 'u', 'o', 'x', 'X'].contains form
  unknown text isFormed :=
    if isFormed then text ++ Octets.toBytes ": invalid directive"
    else Octets.toBytes "missing format character"
  measure _ n _ := .ok (n.bmod 4294967296)
  tooLarge := "xvsnprintf failed"
  goesOn := false
  failure := 2
  forgives := false

/-- The program `printf`, under a name. -/
def runProgram (name : String) : List String → Printed
  | [] | ["--"] =>
    Utility.complain (name ++ ": missing operand\n" ++ Utility.helpHint name) 1
  | "--" :: format :: args | format :: args => run (.ofProgram name) format args

end LineShell.Printf
