import LineShell.Machine.Printf.Floating
/-!
# Formatted printing: formats

A format is cut at its conversions. Programs differ in the escapes and conversions they know and in
how they word their complaints, which a `Manner` says.
-/

namespace LineShell.Printf

/-- How formatted printing is done. -/
structure Manner where
  /-- The escapes that a format knows. -/
  format : Escape.Style
  /-- The escapes that an argument knows. -/
  argument : Escape.Style
  /-- Whether a backslash keeps a percent sign from beginning a conversion. -/
  guards : Bool
  /-- The flags of conversions. -/
  flags : List Char
  /-- The letters that tell the size of a number, which does not matter here. -/
  sizes : List Char
  /-- Which numbers with a floating point there are. -/
  kind : Kind
  /-- Whether a quote alone is a number, which is zero. -/
  readsQuote : Bool
  /-- Whether arguments, and parts of them, that are not used are remarked upon. -/
  warns : Bool
  /-- What complaints begin with. -/
  complainer : String
  /-- How a problem with an argument is worded. -/
  wording : Problem → String → String
  /-- Whether a conversion is known: its flags, whether it says more, whether it has a precision,
  and its form. -/
  knows : List Char → Bool → Bool → Char → Bool
  /-- How a conversion is complained of that is not known, by its text and whether its form is
  there. -/
  unknown : Bytes → Bool → Bytes
  /-- The number that an argument gives as a width or, with `true`, as a precision; or how it is
  complained of, by its text, as one that is too large. -/
  measure : Bool → Int → String → Except String Int
  /-- How a field that is too large is complained of. -/
  tooLarge : String
  /-- Whether output goes on behind a field that is too large. -/
  goesOn : Bool
  /-- The status when output is given up. -/
  failure : Nat
  /-- Whether an escape that stops output makes up for earlier complaints. -/
  forgives : Bool

/-! ## Conversions -/

/-- A measure in a conversion: given there, or by an argument. -/
inductive Measure where
  | fixed (n : Nat)
  | argument
  deriving DecidableEq, Repr

/-- How an argument is printed. -/
structure Conversion where
  /-- The flags, which are signs of their own. -/
  flags : List Char
  /-- How wide the field is; and how much of a text is kept, or how many digits a number has at
  least. -/
  extent : Measure × Option Measure
  form : Char
  deriving DecidableEq, Repr

/-- Reads a measure. -/
def measure : List Char → Measure × List Char
  | '*' :: rest => (.argument, rest)
  | cs => (.fixed (Decimal.leading cs).1, (Decimal.leading cs).2)

/-- Reads a precision, if there is one. -/
def precision : List Char → Option Measure × List Char
  | '.' :: rest => (some (measure rest).1, (measure rest).2)
  | cs => (none, cs)

theorem length_measure_le (cs : List Char) : (measure cs).2.length ≤ cs.length := by
  unfold measure
  split
  · simp
  · exact Decimal.length_leading_le cs

theorem length_precision_le (cs : List Char) : (precision cs).2.length ≤ cs.length := by
  unfold precision
  split
  · rename_i rest
    have := length_measure_le rest
    simp only [List.length_cons]
    omega
  · exact Nat.le_refl _

/-- What a conversion says before its form, and what follows. -/
def front (manner : Manner) (cs : List Char) : (Measure × Option Measure) × List Char :=
  let width := measure (cs.dropWhile manner.flags.contains)
  let kept := precision width.2
  ((width.1, kept.1), kept.2.dropWhile manner.sizes.contains)

theorem length_front_le (manner : Manner) (cs : List Char) :
    (front manner cs).2.length ≤ cs.length := by
  have h1 := (List.dropWhile_sublist manner.flags.contains (l := cs)).length_le
  have h2 := length_measure_le (cs.dropWhile manner.flags.contains)
  have h3 := length_precision_le (measure (cs.dropWhile manner.flags.contains)).2
  have h4 := (List.dropWhile_sublist manner.sizes.contains
    (l := (precision (measure (cs.dropWhile manner.flags.contains)).2).2)).length_le
  simp only [front]
  omega

/-- Reads a conversion, behind its percent sign. -/
def conversion? (manner : Manner) (cs : List Char) : Option (Conversion × List Char) :=
  let (extent, rest) := front manner cs
  match rest with
  | form :: rest =>
    let flags := cs.takeWhile manner.flags.contains
    if manner.knows flags (rest.length + 1 < cs.length) extent.2.isSome form then
      some (⟨flags, extent, form⟩, rest)
    else none
  | [] => none

/-- A conversion takes up some of the format. -/
theorem length_of_conversion? {manner : Manner} {cs rest : List Char} {conversion : Conversion}
    (h : conversion? manner cs = some (conversion, rest)) : rest.length < cs.length := by
  have hle := length_front_le manner cs
  unfold conversion? at h
  simp only at h
  split at h
  · rename_i form rest' hk
    split at h
    · obtain ⟨-, rfl⟩ := Prod.mk.inj (Option.some.inj h)
      rw [hk, List.length_cons] at hle
      omega
    · simp at h
  · simp at h

/-- The bytes of a percent sign and of what follows it, up to the first byte that is out of place.
-/
def outOfPlace (manner : Manner) (cs : List Char) : Bytes :=
  let rest := (front manner cs).2
  Octets.toBytes (String.ofList ('%' :: cs.take (cs.length - rest.length))) ++
    (Octets.toBytes (String.ofList (rest.take 1))).take 1

/-- A piece of a format. -/
inductive Directive where
  /-- Bytes that are printed as they are. -/
  | text (bytes : Bytes)
  | argument (conversion : Conversion)
  /-- What is no known conversion, as far as it can be read: its measures, its text, and whether
  something stands where its form should. -/
  | unknown (extent : Measure × Option Measure) (text : Bytes) (isFormed : Bool)
  /-- The end of output. -/
  | ending (ending : Escape.Ending)
  deriving DecidableEq, Repr

/-- What stands before the first percent sign that begins something. -/
def plain (manner : Manner) : List Char → List Char
  | [] | '%' :: _ => []
  | '\\' :: '%' :: rest => '\\' :: (if manner.guards then '%' :: plain manner rest else [])
  | '\\' :: c :: rest => '\\' :: c :: plain manner rest
  | c :: rest => c :: plain manner rest

/-- Cuts a format at its conversions, up to the first that is not known and up to the end of output.
-/
def directives (manner : Manner) (cs : List Char) : List Directive :=
  match Escape.expand manner.format (plain manner cs) with
  | (bytes, some ending) => [.text bytes, .ending ending]
  | (bytes, none) =>
    match _hd : cs.drop (plain manner cs).length with
    | [] => [.text bytes]
    | _ :: '%' :: rest => .text (bytes ++ [37]) :: directives manner rest
    | _ :: rest =>
      match _hc : conversion? manner rest with
      | none =>
        let (extent, behind) := front manner rest
        [.text bytes, .unknown extent (outOfPlace manner rest) (!behind.isEmpty)]
      | some (conversion, rest') => .text bytes :: .argument conversion :: directives manner rest'
termination_by cs.length
decreasing_by
  all_goals
    have h := congrArg List.length _hd
    simp only [List.length_drop, List.length_cons] at h
  · omega
  · have := length_of_conversion? _hc
    omega

end LineShell.Printf
