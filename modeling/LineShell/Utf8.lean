/-!
# Text as bytes

Streams and programs carry bytes, the shell works on text. `Utf8.encode` writes text as UTF-8 and
`Utf8.decode` reads any bytes as text: what is valid is kept, and each maximal invalid part becomes
one replacement character. `decode` looks at one byte at a time and remembers only the character it
is in the middle of, so a byte that stands for itself always ends whatever came before it.
-/

namespace LineShell

/-- What streams carry. -/
abbrev Bytes := List UInt8

namespace Utf8

/-- The UTF-8 form of a text. -/
def encode (text : String) : Bytes := text.toList.flatMap String.utf8EncodeChar

/-- A character begun but not finished: the bits read so far, the range the next byte must lie in,
and how many bytes must follow after that one. -/
structure Unfinished where
  bits : Nat
  low : UInt8
  high : UInt8
  after : Nat
  deriving DecidableEq, Repr

/-- What stands for a maximal invalid part. -/
def replacement : Char := '\uFFFD'

/-- What a byte outside the single-byte range begins, if it can begin anything. The narrower ranges
shut out long spellings, surrogates and values past the last code point. -/
def begins? (b : UInt8) : Option Unfinished :=
  let n := b.toNat
  if n < 0xC2 then none
  else if n < 0xE0 then some ⟨n - 0xC0, 0x80, 0xBF, 0⟩
  else if n = 0xE0 then some ⟨n - 0xE0, 0xA0, 0xBF, 1⟩
  else if n = 0xED then some ⟨n - 0xE0, 0x80, 0x9F, 1⟩
  else if n < 0xF0 then some ⟨n - 0xE0, 0x80, 0xBF, 1⟩
  else if n = 0xF0 then some ⟨n - 0xF0, 0x90, 0xBF, 2⟩
  else if n < 0xF4 then some ⟨n - 0xF0, 0x80, 0xBF, 2⟩
  else if n = 0xF4 then some ⟨n - 0xF0, 0x80, 0x8F, 2⟩
  else none

/-- A byte met between characters: the characters it completes, and what it begins. -/
def first (b : UInt8) : List Char × Option Unfinished :=
  if b < 0x80 then ([Char.ofNat b.toNat], none)
  else match begins? b with
    | some u => ([], some u)
    | none => ([replacement], none)

/-- A byte met in any state. One that cannot go on with the unfinished character ends it as an
invalid part and is then met afresh. -/
def next : Option Unfinished → UInt8 → List Char × Option Unfinished
  | none, b => first b
  | some u, b =>
    if u.low ≤ b ∧ b ≤ u.high then
      let bits := u.bits * 64 + b.toNat % 64
      match u.after with
      | 0 => ([Char.ofNat bits], none)
      | n + 1 => ([], some ⟨bits, 0x80, 0xBF, n⟩)
    else (replacement :: (first b).1, (first b).2)

/-- The characters of some bytes, begun in a given state. -/
def decodeFrom : Option Unfinished → Bytes → List Char
  | none, [] => []
  | some _, [] => [replacement]
  | state, b :: rest => (next state b).1 ++ decodeFrom (next state b).2 rest

/-- The text of some bytes, with one replacement character for each maximal invalid part. -/
def decode (bytes : Bytes) : String := String.ofList (decodeFrom none bytes)

@[simp] theorem encode_empty : encode "" = [] := rfl

@[simp] theorem encode_append (s t : String) : encode (s ++ t) = encode s ++ encode t := by
  simp [encode]

theorem length_encode_pos {text : String} (h : text ≠ "") : 0 < (encode text).length := by
  rw [List.length_pos_iff]
  intro hnil
  unfold encode at hnil
  cases hlist : text.toList with
  | nil => exact h (String.toList_eq_nil_iff.1 hlist)
  | cons c cs =>
    rw [hlist, List.flatMap_cons, List.append_eq_nil_iff] at hnil
    have hlength := String.length_utf8EncodeChar c
    rw [hnil.1] at hlength
    exact absurd hlength.symm (Nat.pos_iff_ne_zero.1 c.utf8Size_pos)

/-- A byte that stands for itself ends what came before it and begins nothing. -/
theorem next_single {b : UInt8} (hb : b < 0x80) (state : Option Unfinished)
    (low : ∀ u ∈ state, 0x80 ≤ u.low) :
    next state b = ((state.map fun _ => replacement).toList ++ [Char.ofNat b.toNat], none) := by
  cases state with
  | none => simp [next, first, hb]
  | some u =>
    have hu : ¬ u.low ≤ b := fun h =>
      absurd (UInt8.lt_of_le_of_lt (UInt8.le_trans (low u rfl) h) hb) (by simp)
    simp [next, first, hb, hu]

end Utf8

end LineShell
