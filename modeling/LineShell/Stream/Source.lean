import LineShell.Fault
import LineShell.Utf8
/-!
# Input, line by line

A `Source` is what an input will deliver: pieces of bytes, ends of input, and failures, in order. A
line is read up to and including the next line feed, over as many pieces as it takes; interruptions
are passed over. An end of input ends the line that was begun, and counts as the end of input only
if none was. A failure loses the bytes of the line that was begun.

Every line that is read makes the source smaller (`readLine_weight`), so reading line after line
comes to an end.
-/

namespace LineShell

/-- One thing that reading meets. -/
inductive Item where
  | piece (bytes : Bytes)
  | endOfInput
  | fault (fault : Fault)
  deriving DecidableEq, Repr

/-- What an input will deliver. Past its last item the input is at its end for ever. -/
abbrev Source := List Item

/-- What an attempt to read a line comes to. -/
inductive Reading (Line : Type) where
  | line (line : Line)
  | endOfInput
  | failed (fault : Fault)
  deriving DecidableEq, Repr

namespace Reading

/-- The reading of another form of the line. -/
def map {A B : Type} (f : A → B) : Reading A → Reading B
  | .line l => .line (f l)
  | .endOfInput => .endOfInput
  | .failed fault => .failed fault

/-- What the bytes read before an end of input come to. -/
def ofBegun : Bytes → Reading Bytes
  | [] => .endOfInput
  | begun => .line begun

end Reading

/-- The byte that ends a line. -/
def lineFeed : UInt8 := 0x0A

/-- The bytes up to and including the first line feed, and those behind it; nothing if there is no
line feed. -/
def cutLine? (bytes : Bytes) : Option (Bytes × Bytes) :=
  match bytes.dropWhile (· != lineFeed) with
  | [] => none
  | feed :: rest => some (bytes.takeWhile (· != lineFeed) ++ [feed], rest)

namespace Source

/-- Reads the rest of a line of which some bytes were read already. -/
def readFrom (begun : Bytes) : Source → Reading Bytes × Source
  | [] => (.ofBegun begun, [])
  | .endOfInput :: rest => (.ofBegun begun, rest)
  | .fault fault :: rest =>
    if fault.kind = .interrupted then readFrom begun rest else (.failed fault, rest)
  | .piece bytes :: rest =>
    match cutLine? bytes with
    | some (line, more) => (.line (begun ++ line), .piece more :: rest)
    | none => readFrom (begun ++ bytes) rest

/-- Reads a line, and tells what the input will deliver after it. -/
def readBytes (source : Source) : Reading Bytes × Source := readFrom [] source

/-- Reads a line as text. -/
def readLine (source : Source) : Reading String × Source :=
  (source.readBytes.1.map Utf8.decode, source.readBytes.2)

/-- What is left to read: every byte counts, and every item. -/
def weight : Source → Nat
  | [] => 0
  | .piece bytes :: rest => bytes.length + 1 + weight rest
  | _ :: rest => 1 + weight rest

theorem length_of_cutLine? {bytes line more : Bytes} (h : cutLine? bytes = some (line, more)) :
    line.length + more.length = bytes.length := by
  unfold cutLine? at h
  split at h
  · simp at h
  · rename_i feed rest hd
    obtain ⟨rfl, rfl⟩ := Prod.mk.inj (Option.some.inj h)
    have := congrArg List.length
      (List.takeWhile_append_dropWhile (p := (· != lineFeed)) (l := bytes))
    rw [hd] at this
    simp only [List.length_append, List.length_cons, List.length_nil] at this ⊢
    omega

theorem pos_of_cutLine? {bytes line more : Bytes} (h : cutLine? bytes = some (line, more)) :
    0 < line.length := by
  unfold cutLine? at h
  split at h
  · simp at h
  · obtain ⟨rfl, rfl⟩ := Prod.mk.inj (Option.some.inj h)
    simp

theorem readFrom_weight (begun : Bytes) (source : Source) :
    (readFrom begun source).2.weight ≤ source.weight ∧
      (∀ line, (readFrom begun source).1 = .line line → begun = [] →
        (readFrom begun source).2.weight < source.weight) := by
  fun_induction readFrom begun source with
  | case1 begun =>
    refine ⟨Nat.le_refl _, ?_⟩
    rintro line h rfl
    simp [Reading.ofBegun] at h
  | case2 begun rest =>
    simp only [weight]
    exact ⟨by omega, fun _ _ _ => by omega⟩
  | case3 begun fault rest _ ih =>
    simp only [weight]
    exact ⟨by omega, fun line h hb => by have := ih.2 line h hb; omega⟩
  | case4 begun fault rest _ =>
    simp only [weight]
    exact ⟨by omega, fun _ _ _ => by omega⟩
  | case5 begun bytes rest line more hc =>
    have h1 := length_of_cutLine? hc
    have h2 := pos_of_cutLine? hc
    simp only [weight]
    exact ⟨by omega, fun _ _ _ => by omega⟩
  | case6 begun bytes rest _ ih =>
    simp only [weight]
    exact ⟨by omega, fun _ _ _ => by omega⟩

/-- Reading a line uses up some of the source. -/
theorem readLine_weight {source rest : Source} {line : String}
    (h : source.readLine = (.line line, rest)) : rest.weight < source.weight := by
  obtain ⟨h1, rfl⟩ := Prod.mk.inj h
  have h1' : source.readBytes.1.map Utf8.decode = .line line := h1
  cases hr : source.readBytes.1 with
  | line bytes => exact (readFrom_weight [] source).2 bytes hr rfl
  | endOfInput => simp [hr, Reading.map] at h1'
  | failed fault => simp [hr, Reading.map] at h1'

end Source

end LineShell
