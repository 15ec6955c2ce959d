import LineShell.Decimal
import LineShell.Proofs.Effects
import LineShell.Proofs.Registrations
import LineShell.Proofs.Spacing
import Mathlib.Data.List.Forall2
/-!
# Reading entries and listings back

An entry keeps two words of its line, and these are the words of the entry. A listing is cut into lines
again at its newlines, since no entry holds one, and each line gives back its number and its entry, since
a number ends at the first space (`History.listed?`). So a listing tells the history it is of.
-/

namespace LineShell

variable {Dir : Type}

/-! ## Entries -/

namespace History

/-- The history of some lines, recorded one after another. -/
def ofLines (lines : List String) : History :=
  lines.foldl (fun history line => history.record (words line)) {}

theorem entries_ofLines (lines : List String) :
    (ofLines lines).entries = lines.map (summary ∘ words) := by
  have hfrom : ∀ history : History,
      (lines.foldl (fun history line => history.record (words line)) history).entries
        = history.entries ++ lines.map (summary ∘ words) := by
    induction lines with
    | nil => simp
    | cons line lines ih => simp [ih]
  exact hfrom {}

theorem summary_take (ts : List String) : summary (ts.take 2) = summary ts := by
  match ts with
  | [] | [_] | _ :: _ :: _ => rfl

theorem words_summary {ts : List String} (h : ∀ t ∈ ts, IsWord t) : words (summary ts) = ts.take 2 := by
  match ts with
  | [] => decide
  | [t] =>
    have hgaps : Gaps [t] "" [""] := @gaps_of_separators [t] [] (by simp) rfl (by simp) (by simp)
    simpa [spaced, summary] using hgaps.words_spaced h
  | t :: u :: more =>
    have hgaps : Gaps [t, u] "" [" ", ""] :=
      @gaps_of_separators [t, u] [" "] (by simp) rfl (by simp [IsGap, delimiters]) (by simp)
    have hwords : ∀ s ∈ [t, u], IsWord s := fun s hs => h s (by simp at hs ⊢; tauto)
    simpa [spaced, summary, String.append_assoc] using hgaps.words_spaced hwords

theorem newline_not_mem_summary {ts : List String} (h : ∀ t ∈ ts, IsWord t) :
    '\n' ∉ (summary ts).toList := by
  have hword : ∀ t ∈ ts, '\n' ∉ t.toList := fun t ht hmem => (h t ht).2 '\n' hmem (by decide)
  match ts with
  | [] => decide
  | [t] => exact hword t (by simp)
  | t :: u :: more => simp [summary, hword t, hword u]

theorem newline_not_mem_ofLines (lines : List String) :
    ∀ entry ∈ (ofLines lines).entries, '\n' ∉ entry.toList := by
  rw [entries_ofLines]
  intro entry hentry
  obtain ⟨line, -, rfl⟩ := List.mem_map.1 hentry
  exact newline_not_mem_summary fun t => isWord_of_mem_words

/-- The words of an entry are recorded as the same entry. -/
theorem summary_words_summary (line : String) :
    summary (words (summary (words line))) = summary (words line) := by
  rw [words_summary fun t => isWord_of_mem_words, summary_take]

/-! ## Lines of a listing -/

/-- Reads a line of a listing: a space, a number up to the next space, and the rest of the line. -/
def listed? (line : String) : Option (Nat × String) :=
  match line.toList with
  | ' ' :: cs =>
    match Decimal.leading cs with
    | (number, ' ' :: rest) =>
      if cs.head?.any Char.isDigit then some (number, String.ofList (rest.takeWhile (· != '\n'))) else none
    | _ => none
  | _ => none

end History

/-- A number is read up to the first character that is no digit. -/
theorem Decimal.leading_repr (n : Nat) {c : Char} (hc : c.isDigit = false) (rest : List Char) :
    leading (n.repr.toList ++ c :: rest) = (n, c :: rest) := by
  have hdigits : ∀ d ∈ n.repr.toList, d.isDigit = true := by
    rw [Nat.toList_repr]
    exact fun d hd => Nat.isDigit_of_mem_toDigits (by decide) (by decide) hd
  unfold leading
  rw [List.takeWhile_append_of_pos hdigits, List.dropWhile_append_of_pos hdigits]
  have hvalue := @Nat.ofDigitChars_toDigits 10 n (by decide) (by decide)
  simp only [Nat.ofDigitChars, Nat.mul_comm 10] at hvalue
  simpa [hc, Nat.toList_repr] using hvalue

namespace History

theorem listed?_listingLine (number : Nat) {entry : String} (h : '\n' ∉ entry.toList) :
    listed? (listingLine number entry ++ "\n") = some (number, entry) := by
  have hline : (listingLine number entry ++ "\n").toList
      = ' ' :: (number.repr.toList ++ ' ' :: (entry.toList ++ ['\n'])) := by
    simp [listingLine]
  have hrest : (entry.toList ++ ['\n']).takeWhile (· != '\n') = entry.toList := by
    rw [List.takeWhile_append_of_pos]
    · simp
    · intro c hc
      simpa using fun heq : c = '\n' => h (heq ▸ hc)
  have hdigit : (number.repr.toList ++ ' ' :: (entry.toList ++ ['\n'])).head?.any Char.isDigit = true := by
    cases hlist : number.repr.toList with
    | nil => exact absurd (Nat.toList_repr ▸ hlist) Nat.toDigits_ne_nil
    | cons d digits =>
      have hd : d ∈ Nat.toDigits 10 number := by
        rw [← Nat.toList_repr, hlist]
        exact List.mem_cons_self
      simpa using Nat.isDigit_of_mem_toDigits (by decide) (by decide) hd
  unfold listed?
  rw [hline]
  simp only [Decimal.leading_repr number (by decide : ' '.isDigit = false), hdigit, if_true, hrest,
    String.ofList_toList]

theorem newline_not_mem_listing {history : History} (h : ∀ entry ∈ history.entries, '\n' ∉ entry.toList) :
    ∀ line ∈ history.listing, '\n' ∉ line.toList := by
  intro line hline
  unfold listing at hline
  obtain ⟨i, hi, rfl⟩ := List.mem_mapIdx.1 hline
  simp only [listingLine, String.toList_append, List.mem_append]
  rintro (((hmem | hmem) | hmem) | hmem)
  · simp at hmem
  · exact Decimal.newline_not_mem_repr (i + 1) hmem
  · simp at hmem
  · exact h _ (List.getElem_mem hi) hmem

/-- The lines of a listing give back the numbers from one on, and the entries. -/
theorem map_listed?_linesOf {history : History} (h : ∀ entry ∈ history.entries, '\n' ∉ entry.toList) :
    (linesOf (Utf8.encode (String.join (history.listing.map (· ++ "\n"))))).map (listed? ∘ Utf8.decode)
      = history.entries.mapIdx fun i entry => some (i + 1, entry) := by
  rw [linesOf_encode_join (newline_not_mem_listing h), List.map_map, listing]
  refine List.ext_getElem (by simp) fun i hi _ => ?_
  rw [List.length_map, List.length_mapIdx] at hi
  simp only [List.getElem_map, List.getElem_mapIdx, Function.comp_apply, Utf8.decode_encode]
  exact listed?_listingLine (i + 1) (h _ (List.getElem_mem hi))

/-- Entries behind their numbers can be told. -/
theorem eq_of_mapIdx_eq {entries entries' : List String}
    (h : entries.mapIdx (fun i entry => some (i + 1, entry))
      = entries'.mapIdx fun i entry => some (i + 1, entry)) : entries = entries' := by
  refine List.ext_getElem? fun i => ?_
  have hi := congrArg (·[i]?) h
  simp only [List.getElem?_mapIdx] at hi
  refine Option.map_injective (fun entry entry' heq => ?_) hi
  exact (Prod.mk.inj (Option.some.inj heq)).2

end History

/-! ## What `history` writes -/

namespace Builtin

/-- On an output that takes all, `history` writes its listing line by line. -/
theorem history_of_takesAll (context : Context Dir) (args : List String) {bench : Bench Dir}
    (h : bench.console.out.device.TakesAll) :
    (history.run context args bench).trace
      = [.out (Utf8.encode (String.join (context.history.listing.map (· ++ "\n"))))] := by
  obtain ⟨htrace, -⟩ := @Console.print_of_takesAll Dir _ h (historyPieces context.history)
  rw [join_historyPieces_eq_lines] at htrace
  unfold history
  simp only [Bench.printThen, htrace]

/-- What `history` writes of some lines is read back as their entries, numbered. -/
theorem map_listed?_history (lines names : List String) (changeDir : ChangeDir Dir) (args : List String)
    {bench : Bench Dir} (h : bench.console.out.device.TakesAll) :
    (linesOf (history.run ⟨History.ofLines lines, names, changeDir⟩ args bench).trace.out).map
        (History.listed? ∘ Utf8.decode)
      = (History.ofLines lines).entries.mapIdx fun i entry => some (i + 1, entry) := by
  rw [history_of_takesAll _ args h,
    ← History.map_listed?_linesOf (History.newline_not_mem_ofLines lines)]
  simp

/-- The history of some lines, read back. It has an entry for each line, in order: the words of the entry
are the first two words of the line, or the fewer there are, and they are recorded as the entry again. What
`history` writes of it, on an output that takes all, has a line for each entry, and reading these lines
gives the numbers from one on and the entries. So other lines of which it writes the same have the same
history. -/
theorem history_reads_back (lines : List String) :
    let recorded := History.ofLines lines
    List.Forall₂ (fun line entry => words entry = (words line).take 2 ∧
        ∀ before : History, (before.record (words entry)).entries = before.entries ++ [entry])
      lines recorded.entries ∧
    ∀ (names : List String) (changeDir : ChangeDir Dir) (args : List String) (bench : Bench Dir),
      bench.console.out.device.TakesAll →
        let text := (history.run ⟨recorded, names, changeDir⟩ args bench).trace.out
        (linesOf text).length = recorded.entries.length ∧
        (linesOf text).map (History.listed? ∘ Utf8.decode)
          = recorded.entries.mapIdx (fun i entry => some (i + 1, entry)) ∧
        ∀ (lines' names' : List String) (changeDir' : ChangeDir Dir) (args' : List String)
          (bench' : Bench Dir), bench'.console.out.device.TakesAll →
            (history.run ⟨History.ofLines lines', names', changeDir'⟩ args' bench').trace.out = text →
              History.ofLines lines' = recorded := by
  intro recorded
  refine ⟨?_, ?_⟩
  · rw [History.entries_ofLines, List.forall₂_map_right_iff, List.forall₂_same]
    intro line _
    refine ⟨History.words_summary fun t => isWord_of_mem_words, fun before => ?_⟩
    rw [History.entries_record, Function.comp_apply, History.summary_words_summary]
  · intro names changeDir args bench hout text
    have htext := map_listed?_history lines names changeDir args hout
    refine ⟨by simpa using congrArg List.length htext, htext, ?_⟩
    intro lines' names' changeDir' args' bench' hout' heq
    have htext' := map_listed?_history lines' names' changeDir' args' hout'
    rw [heq, htext] at htext'
    exact congrArg History.mk (History.eq_of_mapIdx_eq htext'.symm)

/-- Words that are digits, an empty entry, and other lines with the same history. -/
theorem history_reads_back_digits :
    let recorded := History.ofLines ["7 8 9\n", "\n", "history"]
    let text (recorded : History) := (history.run ⟨recorded, [], fun _ _ => .error .nulInPath⟩ ["history"]
      (⟨{}, ()⟩ : Bench Unit)).trace.out
    text recorded = Utf8.encode " 1 7 8\n 2 \n 3 history\n" ∧
      (linesOf (text recorded)).map (History.listed? ∘ Utf8.decode)
        = [some (1, "7 8"), some (2, ""), some (3, "history")] ∧
      History.ofLines ["\t7 8\r\n", "", " history"] = recorded := by
  intro recorded text
  have hreliable : ({} : Console).out.device.TakesAll := Device.neverFails_reliable.takesAll
  obtain ⟨-, hback⟩ := @history_reads_back Unit ["7 8 9\n", "\n", "history"]
  obtain ⟨-, hread, hsame⟩ := hback [] (fun _ _ => .error .nulInPath) ["history"] ⟨{}, ()⟩ hreliable
  have htext (lines : List String) : text (History.ofLines lines)
      = Utf8.encode (String.join ((History.ofLines lines).listing.map (· ++ "\n"))) := by
    rw [show text _ = Trace.out _ from congrArg Trace.out (history_of_takesAll _ _ hreliable)]
    exact List.append_nil _
  refine ⟨(htext _).trans (by decide), hread, ?_⟩
  refine hsame _ [] (fun _ _ => .error .nulInPath) ["history"] ⟨{}, ()⟩ hreliable ?_
  exact (htext _).trans ((by decide : _ = _).trans (htext _).symm)

end Builtin

end LineShell
