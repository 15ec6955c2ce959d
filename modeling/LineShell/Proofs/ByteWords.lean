import LineShell.Words
import LineShell.Proofs.Decoding
import Mathlib.Data.List.TakeWhile
/-!
# Words are cut between bytes

A line is read as text before it is cut into words. `words_decode` says that the bytes could have been
cut first: the words are the runs of bytes between separating bytes, each read on its own. What is
invalid or broken off stays in its word, because every separator is a byte that stands for itself.
-/

namespace LineShell

/-! ## Maximal runs -/

/-- The maximal runs of elements that do not cut, in order. Behind a run the list ends or cuts. -/
inductive Runs {α : Type} (cut : α → Bool) : List α → List (List α) → Prop
  | nil : Runs cut [] []
  | skip {a xs runs} : cut a = true → Runs cut xs runs → Runs cut (a :: xs) runs
  | run {xs rest runs} : xs ≠ [] → (∀ a ∈ xs, cut a = false) → (∀ a ∈ rest.head?, cut a = true) →
      Runs cut rest runs → Runs cut (xs ++ rest) (xs :: runs)

section
variable {α : Type} {cut : α → Bool} {xs : List α} {runs : List (List α)}

theorem Runs.eq_filter (h : Runs cut xs runs) : runs = (xs.splitOnP cut).filter (!·.isEmpty) := by
  induction h with
  | nil => rw [List.splitOnP_nil]; rfl
  | skip ha _ ih =>
    rw [List.splitOnP_cons_eq_if_modifyHead, if_pos ha, ih]
    rfl
  | @run xs rest runs hne hxs hrest _ ih =>
    cases rest with
    | nil =>
      rw [List.append_nil, List.splitOnP_eq_singleton hxs, ih]
      simp [hne]
    | cons d rest =>
      have hd : cut d = true := hrest d rfl
      rw [List.splitOnP_cons_eq_if_modifyHead, if_pos hd] at ih
      rw [List.splitOnP_append_cons_of_forall_mem hxs d hd, ih]
      simp [hne]

theorem exists_runs (cut : α → Bool) (xs : List α) : ∃ runs, Runs cut xs runs := by
  induction hlength : xs.length using Nat.strongRecOn generalizing xs with
  | ind n ih =>
    cases xs with
    | nil => exact ⟨[], .nil⟩
    | cons a xs =>
      rw [List.length_cons] at hlength
      cases ha : cut a with
      | true =>
        obtain ⟨runs, hruns⟩ := ih xs.length (by omega) xs rfl
        exact ⟨runs, .skip ha hruns⟩
      | false =>
        -- The run goes on as far as nothing cuts, and there a shorter list begins.
        have hle := (List.dropWhile_sublist (!cut ·) (l := xs)).length_le
        obtain ⟨runs, hruns⟩ := ih _ (by omega) (xs.dropWhile (!cut ·)) rfl
        refine ⟨(a :: xs.takeWhile (!cut ·)) :: runs, ?_⟩
        have hrun : Runs cut (a :: xs.takeWhile (!cut ·) ++ xs.dropWhile (!cut ·)) _ :=
          .run (List.cons_ne_nil _ _) ?_ ?_ hruns
        · rwa [List.cons_append, List.takeWhile_append_dropWhile] at hrun
        · intro x hx
          rcases List.mem_cons.1 hx with rfl | hx
          · exact ha
          · simpa using List.mem_takeWhile_imp hx
        · intro x hx
          have hstop := List.head?_dropWhile_not (!cut ·) xs
          rw [Option.mem_def.1 hx] at hstop
          simpa using hstop

/-- A list has exactly one list of maximal runs. -/
theorem runs_iff : Runs cut xs runs ↔ runs = (xs.splitOnP cut).filter (!·.isEmpty) := by
  constructor
  · exact Runs.eq_filter
  · rintro rfl
    obtain ⟨runs, hruns⟩ := exists_runs cut xs
    exact hruns.eq_filter ▸ hruns

end

/-- The words of a line are its maximal runs of characters that are no delimiters. -/
theorem words_of_runs {line : String} {runs : List (List Char)} (h : Runs isDelimiter line.toList runs) :
    words line = runs.map String.ofList := by
  rw [words, runsOf, ← h.eq_filter]

/-! ## Bytes that separate -/

/-- The bytes that separate words. -/
def separators : Bytes := [0x20, 0x09, 0x0D, 0x0A, 0x07]

/-- The maximal runs of bytes that separate nothing, in order. -/
def byteRuns (bytes : Bytes) : List Bytes := (bytes.splitOnP separators.contains).filter (!·.isEmpty)

theorem mem_separators_iff {b : UInt8} :
    b ∈ separators ↔ b = 0x20 ∨ b = 0x09 ∨ b = 0x0D ∨ b = 0x0A ∨ b = 0x07 := by
  simp [separators]

theorem lt_of_separates {b : UInt8} (h : separators.contains b = true) : b < 0x80 := by
  rcases mem_separators_iff.1 (List.contains_iff_mem.1 h) with rfl | rfl | rfl | rfl | rfl <;> decide

theorem isDelimiter_of_separates {b : UInt8} (h : separators.contains b = true) :
    isDelimiter (Char.ofNat b.toNat) = true := by
  rcases mem_separators_iff.1 (List.contains_iff_mem.1 h) with rfl | rfl | rfl | rfl | rfl <;> decide

theorem exists_separates_of_isDelimiter {c : Char} (h : isDelimiter c = true) :
    ∃ b, separators.contains b = true ∧ c = Char.ofNat b.toNat := by
  have hmem : c ∈ separators.map fun b => Char.ofNat b.toNat := List.contains_iff_mem.1 h
  obtain ⟨b, hb, rfl⟩ := List.mem_map.1 hmem
  exact ⟨b, List.contains_iff_mem.2 hb, rfl⟩

/-- Reading makes no delimiter out of bytes that separate nothing. -/
theorem isDelimiter_of_mem_decode {run : Bytes} (hrun : ∀ b ∈ run, separators.contains b = false)
    {c : Char} (hc : c ∈ (Utf8.decode run).toList) : isDelimiter c = false := by
  by_contra hdelimiter
  rw [Bool.not_eq_false] at hdelimiter
  obtain ⟨b, hb, rfl⟩ := exists_separates_of_isDelimiter hdelimiter
  have hmem : b ∈ run := (Utf8.mem_decode_iff (lt_of_separates hb)).1 hc
  rw [hrun b hmem] at hb
  cases hb

/-! ## Cutting before reading -/

/-- A byte that separates is read as a delimiter, and what is behind it afresh. -/
theorem toList_decode_append_cons (before after : Bytes) {d : UInt8}
    (hd : separators.contains d = true) :
    (Utf8.decode (before ++ d :: after)).toList
      = (Utf8.decode before).toList ++ Char.ofNat d.toNat :: (Utf8.decode after).toList := by
  rw [Utf8.decode_append_single (lt_of_separates hd)]
  simp

/-- The runs of the text are the runs of the bytes, each read on its own. -/
theorem Runs.decode {bytes : Bytes} {runs : List Bytes} (h : Runs separators.contains bytes runs) :
    Runs isDelimiter (Utf8.decode bytes).toList (runs.map fun run => (Utf8.decode run).toList) := by
  induction h with
  | nil => exact .nil
  | @skip d bytes runs hd _ ih =>
    have hcut := toList_decode_append_cons [] bytes hd
    rw [List.nil_append] at hcut
    rw [hcut]
    exact .skip (isDelimiter_of_separates hd) ih
  | @run run rest runs hne hrun hrest _ ih =>
    -- The run stays one: it is not read as nothing, and no delimiter appears in it.
    have hnil : (Utf8.decode run).toList ≠ [] :=
      fun h => hne (Utf8.decode_eq_empty_iff.1 (String.toList_eq_nil_iff.1 h))
    have hnone : ∀ c ∈ (Utf8.decode run).toList, isDelimiter c = false :=
      fun c hc => isDelimiter_of_mem_decode hrun hc
    cases rest with
    | nil =>
      have hend : ∀ c ∈ (Utf8.decode []).toList.head?, isDelimiter c = true := by simp
      simpa using Runs.run hnil hnone hend ih
    | cons d rest =>
      have hd : separators.contains d = true := hrest d rfl
      have hcut := toList_decode_append_cons [] rest hd
      rw [List.nil_append] at hcut
      rw [toList_decode_append_cons run rest hd]
      rw [hcut] at ih
      refine .run hnil hnone ?_ ih
      rintro c ⟨⟩
      exact isDelimiter_of_separates hd

/-- The words of some bytes are their maximal runs without a separating byte, each read on its own.
There is one list of such runs for any bytes, and one way to read them. -/
theorem words_decode (bytes : Bytes) :
    words (Utf8.decode bytes) = (byteRuns bytes).map Utf8.decode
      ∧ (∀ runs, Runs separators.contains bytes runs ↔ runs = byteRuns bytes)
      ∧ (∀ part text, Utf8.Lossy part text.toList ↔ Utf8.decode part = text) := by
  refine ⟨?_, fun runs => runs_iff, fun part text => Utf8.lossy_iff⟩
  have hruns : Runs separators.contains bytes (byteRuns bytes) := runs_iff.2 rfl
  rw [words_of_runs hruns.decode, List.map_map]
  exact List.map_congr_left fun run _ => String.ofList_toList

/-- A character that a space breaks off does not swallow it, and its last byte is a word of its own. -/
example : words (Utf8.decode [0x6C, 0xE2, 0x82, 0x20, 0xAC, 0x09]) = ["l\uFFFD", "\uFFFD"] := by decide

end LineShell
