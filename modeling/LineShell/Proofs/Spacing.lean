import LineShell.Proofs.ByteWords
/-!
# Words and the gaps between them

A line is its words with a gap before the first and one behind each. A gap holds delimiters only, and only
the gaps at the two ends of the line can be empty. `words_eq_iff` says that these are all the lines with
given words, and that a line has only one such form.
-/

namespace LineShell

/-- Nothing but delimiters. -/
def IsGap (text : String) : Prop := ∀ c ∈ text.toList, c ∈ delimiters

/-- Something, and no delimiter in it. -/
def IsWord (text : String) : Prop := text ≠ "" ∧ ∀ c ∈ text.toList, c ∉ delimiters

/-- A gap, and words with a gap behind each. -/
def spaced (before : String) (ts behind : List String) : String :=
  before ++ String.join (List.zipWith (· ++ ·) ts behind)

/-- There is a gap before the words and one behind each, and none between two words is empty. -/
structure Gaps (ts : List String) (before : String) (behind : List String) : Prop where
  length_eq : behind.length = ts.length
  delimiters_only : ∀ gap ∈ before :: behind, IsGap gap
  inner : ∀ gap ∈ behind.dropLast, gap ≠ ""

/-! ## Characters -/

theorem isDelimiter_iff {c : Char} : isDelimiter c = true ↔ c ∈ delimiters := List.contains_iff_mem

theorem isDelimiter_eq_false_iff {c : Char} : isDelimiter c = false ↔ c ∉ delimiters := by
  rw [← isDelimiter_iff, Bool.not_eq_true]

theorem isGap_empty : IsGap "" := by simp [IsGap]

theorem isGap_append {s t : String} : IsGap (s ++ t) ↔ IsGap s ∧ IsGap t := by
  simp only [IsGap, String.toList_append, List.forall_mem_append]

theorem IsWord.toList_ne_nil {word : String} (h : IsWord word) : word.toList ≠ [] :=
  fun hnil => h.1 (String.toList_eq_nil_iff.1 hnil)

/-! ## One word more -/

section
variable {before gap word : String} {ts behind : List String}

theorem spaced_cons : spaced before (word :: ts) (gap :: behind) = before ++ (word ++ spaced gap ts behind) := by
  simp [spaced, String.append_assoc]

theorem append_spaced (text : String) : text ++ spaced before ts behind = spaced (text ++ before) ts behind :=
  (String.append_assoc ..).symm

theorem gaps_nil_iff : Gaps [] before behind ↔ IsGap before ∧ behind = [] := by
  constructor
  · intro h
    exact ⟨h.delimiters_only before List.mem_cons_self, List.length_eq_zero_iff.1 h.length_eq⟩
  · rintro ⟨hbefore, rfl⟩
    exact ⟨rfl, by simpa using hbefore, by simp⟩

theorem gaps_cons_iff :
    Gaps (word :: ts) before behind ↔
      ∃ gap later, behind = gap :: later ∧ IsGap before ∧ (ts ≠ [] → gap ≠ "") ∧ Gaps ts gap later := by
  constructor
  · rintro ⟨hlength, hgaps, hinner⟩
    cases behind with
    | nil => cases hlength
    | cons gap later =>
      rw [List.forall_mem_cons] at hgaps
      have hlater : later.length = ts.length := Nat.succ.inj hlength
      refine ⟨gap, later, rfl, hgaps.1, fun hts => ?_, hlater, hgaps.2, fun s hs => ?_⟩
      · refine hinner gap ?_
        rw [List.dropLast_cons_of_ne_nil (by rintro rfl; exact hts (List.length_eq_zero_iff.1 hlater.symm))]
        exact List.mem_cons_self
      · cases later with
        | nil => cases hs
        | cons => exact hinner s (List.mem_cons_of_mem _ hs)
  · rintro ⟨gap, later, rfl, hbefore, hgap, hlength, hgaps, hinner⟩
    refine ⟨congrArg (· + 1) hlength, List.forall_mem_cons.2 ⟨hbefore, hgaps⟩, ?_⟩
    cases later with
    | nil => simp
    | cons =>
      rw [List.dropLast_cons_cons, List.forall_mem_cons]
      exact ⟨hgap (by rintro rfl; cases hlength), hinner⟩

/-- Behind a word its gap begins, or nothing follows. -/
theorem Gaps.head_mem (h : Gaps ts gap behind) (hgap : ts ≠ [] → gap ≠ "") :
    ∀ c ∈ (spaced gap ts behind).toList.head?, c ∈ delimiters := by
  intro c hc
  by_cases hempty : gap = ""
  · obtain rfl : ts = [] := by
      by_contra hts
      exact hgap hts hempty
    obtain ⟨-, rfl⟩ := gaps_nil_iff.1 h
    simp [spaced, hempty] at hc
  · cases hlist : gap.toList with
    | nil => exact absurd (String.toList_eq_nil_iff.1 hlist) hempty
    | cons first rest =>
      obtain rfl : first = c := by simpa [spaced, hlist] using hc
      exact h.delimiters_only gap List.mem_cons_self first (by simp [hlist])

end

/-! ## Lines of these words -/

theorem Runs.skip_all {α : Type} {cut : α → Bool} {gap xs : List α} {runs : List (List α)}
    (hgap : ∀ a ∈ gap, cut a = true) (h : Runs cut xs runs) : Runs cut (gap ++ xs) runs := by
  induction gap with
  | nil => exact h
  | cons a gap ih =>
    rw [List.forall_mem_cons] at hgap
    exact .skip hgap.1 (ih hgap.2)

/-- Words with gaps between them are the maximal runs of their line. -/
theorem Gaps.runs {before : String} {ts behind : List String} (h : Gaps ts before behind)
    (hwords : ∀ t ∈ ts, IsWord t) :
    Runs isDelimiter (spaced before ts behind).toList (ts.map String.toList) := by
  induction ts generalizing before behind with
  | nil =>
    obtain ⟨hbefore, rfl⟩ := gaps_nil_iff.1 h
    have hnil : Runs isDelimiter (before.toList ++ []) [] :=
      .skip_all (fun c hc => isDelimiter_iff.2 (hbefore c hc)) .nil
    simpa [spaced] using hnil
  | cons t ts ih =>
    obtain ⟨gap, later, rfl, hbefore, hgap, hlater⟩ := gaps_cons_iff.1 h
    rw [List.forall_mem_cons] at hwords
    rw [spaced_cons, String.toList_append, String.toList_append, List.map_cons]
    refine .skip_all (fun c hc => isDelimiter_iff.2 (hbefore c hc)) (.run hwords.1.toList_ne_nil ?_ ?_ ?_)
    · exact fun c hc => isDelimiter_eq_false_iff.2 (hwords.1.2 c hc)
    · exact fun c hc => isDelimiter_iff.2 (hlater.head_mem hgap c hc)
    · exact ih hlater hwords.2

theorem Gaps.words_spaced {before : String} {ts behind : List String} (h : Gaps ts before behind)
    (hwords : ∀ t ∈ ts, IsWord t) : words (spaced before ts behind) = ts := by
  rw [words_of_runs (h.runs hwords), List.map_map]
  simp

/-- Maximal runs are words, and what is around them are gaps. -/
theorem Runs.exists_gaps {cs : List Char} {runs : List (List Char)} (h : Runs isDelimiter cs runs) :
    (∀ t ∈ runs.map String.ofList, IsWord t) ∧ ∃ before behind,
      Gaps (runs.map String.ofList) before behind ∧
        String.ofList cs = spaced before (runs.map String.ofList) behind := by
  induction h with
  | nil => exact ⟨by simp, "", [], gaps_nil_iff.2 ⟨isGap_empty, rfl⟩, rfl⟩
  | @skip a cs runs ha _ ih =>
    obtain ⟨hwords, before, behind, hgaps, hline⟩ := ih
    refine ⟨hwords, String.ofList [a] ++ before, behind, ⟨hgaps.length_eq, ?_, hgaps.inner⟩, ?_⟩
    · obtain ⟨hbefore, hbehind⟩ := List.forall_mem_cons.1 hgaps.delimiters_only
      refine List.forall_mem_cons.2 ⟨isGap_append.2 ⟨?_, hbefore⟩, hbehind⟩
      simpa [IsGap] using isDelimiter_iff.1 ha
    · rw [← append_spaced, ← hline, ← String.ofList_append, List.singleton_append]
  | @run run rest runs hne hrun hrest _ ih =>
    obtain ⟨hwords, gap, behind, hgaps, hline⟩ := ih
    have hword : IsWord (String.ofList run) :=
      ⟨by simpa using hne, by simpa using fun c hc => isDelimiter_eq_false_iff.1 (hrun c hc)⟩
    refine ⟨List.forall_mem_cons.2 ⟨hword, hwords⟩, "", gap :: behind,
      gaps_cons_iff.2 ⟨gap, behind, rfl, isGap_empty, ?_, hgaps⟩, ?_⟩
    · -- If a word followed at once, its first character would cut.
      rintro hnext rfl
      cases runs with
      | nil => exact hnext rfl
      | cons next runs =>
        obtain ⟨gap, later, rfl, -, -, -⟩ := gaps_cons_iff.1 hgaps
        obtain ⟨hfirst, -⟩ := List.forall_mem_cons.1 hwords
        have hrest' : rest = next ++ (spaced gap (runs.map String.ofList) later).toList := by
          rw [← @String.toList_ofList rest, hline, List.map_cons, spaced_cons]
          simp
        cases next with
        | nil => exact hfirst.1 rfl
        | cons c next =>
          have hc : isDelimiter c = true := hrest c (by simp [hrest'])
          exact hfirst.2 c (by simp) (isDelimiter_iff.1 hc)
    · rw [List.map_cons, spaced_cons, ← hline, String.ofList_append, String.empty_append]

theorem exists_gaps_words (line : String) :
    (∀ t ∈ words line, IsWord t) ∧ ∃ before behind,
      Gaps (words line) before behind ∧ line = spaced before (words line) behind := by
  obtain ⟨runs, hruns⟩ := exists_runs isDelimiter line.toList
  have h := hruns.exists_gaps
  rwa [← words_of_runs hruns, String.ofList_toList] at h

theorem isWord_of_mem_words {line word : String} (h : word ∈ words line) : IsWord word :=
  (exists_gaps_words line).1 word h

/-! ## One form for each line -/

/-- The gap before a word is as long as delimiters go. -/
theorem takeWhile_gap {gap word : String} (hgap : IsGap gap) (hword : IsWord word) (text : String) :
    (gap ++ (word ++ text)).toList.takeWhile isDelimiter = gap.toList := by
  rw [String.toList_append, List.takeWhile_append_of_pos fun c hc => isDelimiter_iff.2 (hgap c hc)]
  cases hlist : word.toList with
  | nil => exact absurd hlist hword.toList_ne_nil
  | cons c cs =>
    have hc : isDelimiter c = false := isDelimiter_eq_false_iff.2 (hword.2 c (by simp [hlist]))
    simp [hlist, hc]

theorem Gaps.unique {ts behind behind' : List String} {before before' : String}
    (h : Gaps ts before behind) (h' : Gaps ts before' behind') (hwords : ∀ t ∈ ts, IsWord t)
    (heq : spaced before ts behind = spaced before' ts behind') : before' = before ∧ behind' = behind := by
  induction ts generalizing before before' behind behind' with
  | nil =>
    obtain ⟨-, rfl⟩ := gaps_nil_iff.1 h
    obtain ⟨-, rfl⟩ := gaps_nil_iff.1 h'
    exact ⟨by simpa [spaced] using heq.symm, rfl⟩
  | cons t ts ih =>
    obtain ⟨gap, later, rfl, hbefore, -, hlater⟩ := gaps_cons_iff.1 h
    obtain ⟨gap', later', rfl, hbefore', -, hlater'⟩ := gaps_cons_iff.1 h'
    rw [List.forall_mem_cons] at hwords
    rw [spaced_cons, spaced_cons] at heq
    obtain rfl : before' = before := by
      rw [← String.toList_inj, ← takeWhile_gap hbefore hwords.1, heq, takeWhile_gap hbefore' hwords.1]
    obtain ⟨rfl, rfl⟩ := ih hlater hlater' hwords.2
      ((String.append_right_inj _).1 ((String.append_right_inj _).1 heq))
    exact ⟨rfl, rfl⟩

/-! ## Nothing is lost -/

theorem Runs.flatten_eq {α : Type} {cut : α → Bool} {xs : List α} {runs : List (List α)}
    (h : Runs cut xs runs) : runs.flatten = xs.filter (!cut ·) := by
  induction h with
  | nil => rfl
  | skip ha _ ih => simp [ha, ih]
  | run _ hrun _ _ ih =>
    rw [List.flatten_cons, ih, List.filter_append]
    congr 1
    exact (List.filter_eq_self.2 fun a ha => by simp [hrun a ha]).symm

/-- Only delimiters are left out of the words. -/
theorem toList_join_words (line : String) :
    (String.join (words line)).toList = line.toList.filter (· ∉ delimiters) := by
  obtain ⟨runs, hruns⟩ := exists_runs isDelimiter line.toList
  have hfilter : line.toList.filter (!isDelimiter ·) = line.toList.filter (· ∉ delimiters) := by
    simp [isDelimiter]
  rw [words_of_runs hruns, String.toList_join, List.flatMap_map, ← hfilter, ← hruns.flatten_eq]
  simp [List.flatMap]

/-- Separators between words are gaps. -/
theorem gaps_of_separators {ts separators : List String} (hne : ts ≠ [])
    (hlength : separators.length = ts.length - 1) (hgaps : ∀ separator ∈ separators, IsGap separator)
    (hseparators : ∀ separator ∈ separators, separator ≠ "") :
    Gaps ts "" (separators ++ [""]) where
  length_eq := by
    have hpos := List.length_pos_iff.2 hne
    rw [List.length_append, hlength, List.length_singleton]
    omega
  delimiters_only := by
    rw [List.forall_mem_cons, List.forall_mem_append, List.forall_mem_singleton]
    exact ⟨isGap_empty, hgaps, isGap_empty⟩
  inner := by simpa using hseparators

/-- The words of a line. They are `ts` exactly when these are words and the line is these words with gaps
around them, and then the line tells the gaps. All characters but the delimiters are kept, in their order,
and words joined by separators, whatever delimiters these are, are the words of what they are joined to. -/
theorem words_eq_iff (line : String) (ts : List String) :
    (words line = ts ↔ (∀ t ∈ ts, IsWord t) ∧
      ∃ before behind, Gaps ts before behind ∧ line = spaced before ts behind) ∧
    (∀ before behind before' behind', (∀ t ∈ ts, IsWord t) →
      Gaps ts before behind → line = spaced before ts behind →
      Gaps ts before' behind' → line = spaced before' ts behind' →
        before' = before ∧ behind' = behind) ∧
    (String.join (words line)).toList = line.toList.filter (· ∉ delimiters) ∧
    ∀ separators : List String, (∀ t ∈ ts, IsWord t) → separators.length = ts.length - 1 →
      (∀ separator ∈ separators, IsGap separator ∧ separator ≠ "") →
        words (String.join (List.zipWith (· ++ ·) ts (separators ++ [""]))) = ts := by
  refine ⟨⟨?_, ?_⟩, ?_, toList_join_words line, ?_⟩
  · rintro rfl
    exact exists_gaps_words line
  · rintro ⟨hwords, before, behind, hgaps, rfl⟩
    exact hgaps.words_spaced hwords
  · intro before behind before' behind' hwords hgaps hline hgaps' hline'
    exact hgaps.unique hgaps' hwords (hline.symm.trans hline')
  · intro separators hwords hlength hseparators
    by_cases hne : ts = []
    · subst hne
      exact (by decide : words "" = [])
    · have hgaps := gaps_of_separators hne hlength (fun s hs => (hseparators s hs).1)
        fun s hs => (hseparators s hs).2
      simpa [spaced] using hgaps.words_spaced hwords

/-- Gaps of several delimiters, at both ends too, and a separator that is the bell. -/
theorem words_eq_iff_gaps :
    let ts := ["ls", "-l", "é\x00"]
    let line := spaced "\t" ts [" \x07", "\r\n", "\n"]
    Gaps ts "\t" [" \x07", "\r\n", "\n"] ∧ (∀ t ∈ ts, IsWord t) ∧ words line = ts ∧
      (∀ before behind, Gaps ts before behind → line = spaced before ts behind →
        before = "\t" ∧ behind = [" \x07", "\r\n", "\n"]) ∧
      words (String.join (List.zipWith (· ++ ·) ts (["\x07", " \n"] ++ [""]))) = ts := by
  intro ts line
  have hgaps : Gaps ts "\t" [" \x07", "\r\n", "\n"] := ⟨rfl, by simp [IsGap, delimiters], by simp⟩
  have hwords : ∀ t ∈ ts, IsWord t := by simp [ts, IsWord, delimiters]
  obtain ⟨hiff, hunique, -, hjoined⟩ := words_eq_iff line ts
  exact ⟨hgaps, hwords, hiff.2 ⟨hwords, _, _, hgaps, rfl⟩,
    fun before behind hother hline => hunique _ _ _ _ hwords hgaps rfl hother hline,
    hjoined _ hwords rfl (by simp [IsGap, delimiters])⟩

end LineShell
