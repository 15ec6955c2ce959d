import LineShell.Stream.Source
import Mathlib.Data.List.TakeWhile
/-!
# The lines of an input

`linesOf` cuts bytes behind every line feed. A source that `Delivers` bytes, in whatever pieces and
with whatever interruptions between them, is read as exactly these lines (`readLine_of_delivers`).
More generally a source `Leads` through some bytes to another source when it delivers these bytes first
and then whatever the other one holds, be it failures; `readFrom_of_leads` says how far a read goes on
such a way. A read fails exactly when a failure other than an interruption is met before the line is
complete (`readLine_eq_failed_iff`).
-/

namespace LineShell

/-- Bytes cut behind every line feed. What follows the last one is a line too, unless it is empty. -/
def linesOf : Bytes → List Bytes
  | [] => []
  | b :: rest =>
    if b = lineFeed then [b] :: linesOf rest
    else match linesOf rest with
      | [] => [[b]]
      | line :: lines => (b :: line) :: lines

theorem linesOf_of_not_mem {bytes : Bytes} (hne : bytes ≠ []) (h : lineFeed ∉ bytes) :
    linesOf bytes = [bytes] := by
  induction bytes with
  | nil => exact absurd rfl hne
  | cons b rest ih =>
    have hb : b ≠ lineFeed := fun e => h (e ▸ List.mem_cons_self)
    have hrest : lineFeed ∉ rest := fun m => h (List.mem_cons_of_mem _ m)
    by_cases hnil : rest = []
    · simp [linesOf, hb, hnil]
    · simp [linesOf, hb, ih hnil hrest]

theorem linesOf_append_cons {before : Bytes} (h : lineFeed ∉ before) (rest : Bytes) :
    linesOf (before ++ lineFeed :: rest) = (before ++ [lineFeed]) :: linesOf rest := by
  induction before with
  | nil => simp [linesOf]
  | cons b before ih =>
    have hb : b ≠ lineFeed := fun e => h (e ▸ List.mem_cons_self)
    have hbefore : lineFeed ∉ before := fun m => h (List.mem_cons_of_mem _ m)
    simp [linesOf, hb, ih hbefore]

namespace Source

/-! ## Cutting a piece -/

theorem cutLine?_of_not_mem {bytes : Bytes} (h : lineFeed ∉ bytes) : cutLine? bytes = none := by
  have hdrop : bytes.dropWhile (· != lineFeed) = [] := by
    rw [List.dropWhile_eq_nil_iff]
    intro b hb
    simpa using fun e : b = lineFeed => h (e ▸ hb)
  simp [cutLine?, hdrop]

theorem cutLine?_append_cons {before : Bytes} (h : lineFeed ∉ before) (rest : Bytes) :
    cutLine? (before ++ lineFeed :: rest) = some (before ++ [lineFeed], rest) := by
  have hall : ∀ b ∈ before, (b != lineFeed) = true := by
    intro b hb
    simpa using fun e : b = lineFeed => h (e ▸ hb)
  have hdrop : (before ++ lineFeed :: rest).dropWhile (· != lineFeed) = lineFeed :: rest := by
    rw [List.dropWhile_append_of_pos hall]
    simp
  have htake : (before ++ lineFeed :: rest).takeWhile (· != lineFeed) = before := by
    rw [List.takeWhile_append_of_pos hall]
    simp
  simp [cutLine?, hdrop, htake]

/-- Bytes hold no line feed, or fall apart at the first one. -/
theorem not_mem_or_eq_append (bytes : Bytes) :
    lineFeed ∉ bytes ∨ ∃ before rest, lineFeed ∉ before ∧ bytes = before ++ lineFeed :: rest := by
  by_cases h : lineFeed ∈ bytes
  · obtain ⟨before, rest, rfl, hbefore⟩ := List.eq_append_cons_of_mem h
    exact .inr ⟨before, rest, hbefore, rfl⟩
  · exact .inl h

theorem cutLine?_eq_none_iff {bytes : Bytes} : cutLine? bytes = none ↔ lineFeed ∉ bytes := by
  refine ⟨fun hcut hmem => ?_, cutLine?_of_not_mem⟩
  obtain ⟨before, rest, rfl, hbefore⟩ := List.eq_append_cons_of_mem hmem
  rw [cutLine?_append_cons hbefore] at hcut
  cases hcut

theorem exists_of_cutLine? {bytes line more : Bytes} (h : cutLine? bytes = some (line, more)) :
    ∃ before, lineFeed ∉ before ∧ bytes = before ++ lineFeed :: more ∧ line = before ++ [lineFeed] := by
  rcases not_mem_or_eq_append bytes with hmem | ⟨before, rest, hbefore, rfl⟩
  · rw [cutLine?_of_not_mem hmem] at h
    cases h
  · rw [cutLine?_append_cons hbefore] at h
    obtain ⟨rfl, rfl⟩ := Prod.mk.inj (Option.some.inj h)
    exact ⟨before, hbefore, rfl, rfl⟩

/-! ## Sources without failures -/

/-- The source holds just these bytes, in some pieces, perhaps with interruptions between them. -/
inductive Delivers : Source → Bytes → Prop
  | nil : Delivers [] []
  | piece {source bytes} (part : Bytes) : Delivers source bytes →
      Delivers (.piece part :: source) (part ++ bytes)
  | interruption {source bytes fault} : fault.kind = .interrupted → Delivers source bytes →
      Delivers (.fault fault :: source) bytes

theorem delivers_piece (bytes : Bytes) : Delivers [.piece bytes] bytes := by
  simpa using Delivers.nil.piece bytes

/-! ## From one source to another -/

/-- The source delivers these bytes, perhaps with interruptions between them, before it is another
one. The last bytes may come in one piece with the first of the other. -/
inductive Leads : Source → Bytes → Source → Prop
  | here (rest : Source) : Leads rest [] rest
  | piece {source bytes rest} (part : Bytes) : Leads source bytes rest →
      Leads (.piece part :: source) (part ++ bytes) rest
  | interruption {source bytes rest fault} : fault.kind = .interrupted → Leads source bytes rest →
      Leads (.fault fault :: source) bytes rest
  | glued (part more : Bytes) (others : Source) :
      Leads (.piece (part ++ more) :: others) part (.piece more :: others)

/-- What delivers bytes leads through them to whatever is put behind it. -/
theorem Delivers.leads {source : Source} {bytes : Bytes} (h : source.Delivers bytes) (rest : Source) :
    Leads (source ++ rest) bytes rest := by
  induction h with
  | nil => exact .here rest
  | piece part _ ih => exact .piece part ih
  | interruption hkind _ ih => exact .interruption hkind ih

/-- Bytes without a line feed may be read with what is begun or with what follows. -/
theorem readFrom_piece_append {part : Bytes} (h : lineFeed ∉ part) (begun more : Bytes) (others : Source) :
    readFrom begun (.piece (part ++ more) :: others)
      = readFrom (begun ++ part) (.piece more :: others) := by
  rcases not_mem_or_eq_append more with hmore | ⟨before, after, hbefore, rfl⟩
  · have hboth : lineFeed ∉ part ++ more := by simp [h, hmore]
    simp only [readFrom, cutLine?_of_not_mem hboth, cutLine?_of_not_mem hmore, List.append_assoc]
  · have hboth : lineFeed ∉ part ++ before := by simp [h, hbefore]
    have hcut := cutLine?_append_cons hboth after
    rw [List.append_assoc] at hcut
    simp only [readFrom, hcut, cutLine?_append_cons hbefore, List.append_assoc]

/-- Reading on from a begun line either reads all the bytes on the way and is then in the other source,
or ends at their first line feed and leaves the rest of the way. -/
theorem readFrom_of_leads {source rest : Source} {bytes : Bytes} (h : source.Leads bytes rest)
    (begun : Bytes) :
    (lineFeed ∉ bytes ∧ readFrom begun source = readFrom (begun ++ bytes) rest) ∨
      ∃ before after next, lineFeed ∉ before ∧ bytes = before ++ lineFeed :: after ∧
        readFrom begun source = (.line (begun ++ (before ++ [lineFeed])), next) ∧
        next.Leads after rest := by
  induction h generalizing begun with
  | here rest => exact .inl ⟨List.not_mem_nil, by rw [List.append_nil]⟩
  | @piece source bytes rest part hleads ih =>
    rcases not_mem_or_eq_append part with hpart | ⟨before, more, hbefore, rfl⟩
    · have hread : readFrom begun (.piece part :: source) = readFrom (begun ++ part) source := by
        rw [readFrom, cutLine?_of_not_mem hpart]
      rcases ih (begun ++ part) with ⟨hbytes, hrest⟩ | ⟨before, after, next, hbefore, rfl, hline, hnext⟩
      · exact .inl ⟨by simp [hpart, hbytes], by rw [hread, hrest, List.append_assoc]⟩
      · exact .inr ⟨part ++ before, after, next, by simp [hpart, hbefore], by simp,
          by simp [hread, hline], hnext⟩
    · exact .inr ⟨before, more ++ bytes, .piece more :: source, hbefore, by simp,
        by rw [readFrom, cutLine?_append_cons hbefore], hleads.piece more⟩
  | @interruption source bytes rest fault hkind hleads ih =>
    rw [readFrom, if_pos hkind]
    exact ih begun
  | glued part more others =>
    rcases not_mem_or_eq_append part with hpart | ⟨before, after, hbefore, rfl⟩
    · exact .inl ⟨hpart, readFrom_piece_append hpart begun more others⟩
    · refine .inr ⟨before, after, _, hbefore, rfl, ?_, .glued after more others⟩
      rw [List.append_assoc, List.cons_append, readFrom, cutLine?_append_cons hbefore]

/-- A source that leads through bytes to nothing delivers them. -/
theorem Leads.delivers {source : Source} {bytes : Bytes} (h : source.Leads bytes []) :
    source.Delivers bytes := by
  generalize hrest : ([] : Source) = rest at h
  induction h with
  | here => exact hrest ▸ .nil
  | piece part _ ih => exact (ih hrest).piece part
  | interruption hkind _ ih => exact (ih hrest).interruption hkind
  | glued => cases hrest

/-- Reading on from a begun line gives the first line of the bytes, and leaves a source that
delivers the others; without any bytes it finds the end of input. -/
theorem readFrom_of_delivers {source : Source} {bytes : Bytes} (h : source.Delivers bytes)
    {begun : Bytes} (hbegun : lineFeed ∉ begun) :
    (begun ++ bytes = [] ∧ readFrom begun source = (.endOfInput, [])) ∨
      ∃ line rest bytes', linesOf (begun ++ bytes) = line :: linesOf bytes' ∧
        readFrom begun source = (.line line, rest) ∧ rest.Delivers bytes' := by
  have hleads := h.leads []
  rw [List.append_nil] at hleads
  rcases readFrom_of_leads hleads begun with
    ⟨hbytes, hread⟩ | ⟨before, after, next, hbefore, rfl, hread, hnext⟩
  · have hmem : lineFeed ∉ begun ++ bytes := by simp [hbegun, hbytes]
    rw [hread]
    cases hall : begun ++ bytes with
    | nil => exact .inl ⟨rfl, rfl⟩
    | cons b line =>
      rw [hall] at hmem
      exact .inr ⟨b :: line, [], [], linesOf_of_not_mem (List.cons_ne_nil _ _) hmem, rfl, .nil⟩
  · have hmem : lineFeed ∉ begun ++ before := by simp [hbegun, hbefore]
    have hlines := linesOf_append_cons hmem after
    rw [List.append_assoc, List.append_assoc] at hlines
    exact .inr ⟨_, next, after, hlines, hread, hnext.delivers⟩

/-- Reading a line gives the first of the lines, decoded, and leaves the others. -/
theorem readLine_of_delivers {source : Source} {bytes : Bytes} (h : source.Delivers bytes) :
    (linesOf bytes = [] ∧ source.readLine = (.endOfInput, [])) ∨
      ∃ line rest bytes', linesOf bytes = line :: linesOf bytes' ∧
        source.readLine = (.line (Utf8.decode line), rest) ∧ rest.Delivers bytes' := by
  rcases @readFrom_of_delivers _ _ h [] (by simp) with
    ⟨hnil, hread⟩ | ⟨line, rest, bytes', hl, hread, hrest⟩
  · refine .inl ⟨?_, by simp [readLine, readBytes, hread, Reading.map]⟩
    rw [List.nil_append] at hnil
    rw [hnil, linesOf]
  · exact .inr ⟨line, rest, bytes', hl, by simp [readLine, readBytes, hread, Reading.map], hrest⟩

end Source

/-! ## Reads that fail -/

/-- Whether reading goes past an item in the middle of a line. -/
def Item.Passed : Item → Prop
  | .piece bytes => lineFeed ∉ bytes
  | .endOfInput => False
  | .fault cause => cause.kind = .interrupted

instance : DecidablePred Item.Passed
  | .piece bytes => inferInstanceAs (Decidable (lineFeed ∉ bytes))
  | .endOfInput => inferInstanceAs (Decidable False)
  | .fault cause => inferInstanceAs (Decidable (cause.kind = .interrupted))

namespace Source

/-- The failure is met before the line is complete, and no interruption; `rest` is behind it. -/
def Meets (source : Source) (fault : Fault) (rest : Source) : Prop :=
  ∃ passed, source = passed ++ .fault fault :: rest ∧ (∀ item ∈ passed, item.Passed) ∧
    fault.kind ≠ .interrupted

theorem not_meets_nil {fault : Fault} {rest : Source} : ¬ Meets [] fault rest := by
  rintro ⟨passed, h, -⟩
  simp at h

theorem meets_cons_iff {item : Item} {source rest : Source} {fault : Fault} :
    Meets (item :: source) fault rest ↔
      (item = .fault fault ∧ source = rest ∧ fault.kind ≠ .interrupted) ∨
        (item.Passed ∧ Meets source fault rest) := by
  constructor
  · rintro ⟨passed, h, hpassed, hkind⟩
    cases passed with
    | nil =>
      obtain ⟨rfl, rfl⟩ := List.cons.inj h
      exact .inl ⟨rfl, rfl, hkind⟩
    | cons first passed =>
      obtain ⟨rfl, rfl⟩ := List.cons.inj h
      exact .inr ⟨hpassed _ List.mem_cons_self, passed, rfl,
        fun i hi => hpassed i (List.mem_cons_of_mem _ hi), hkind⟩
  · rintro (⟨rfl, rfl, hkind⟩ | ⟨hitem, passed, rfl, hpassed, hkind⟩)
    · exact ⟨[], rfl, by simp, hkind⟩
    · exact ⟨item :: passed, rfl, List.forall_mem_cons.2 ⟨hitem, hpassed⟩, hkind⟩

theorem ofBegun_ne_failed (begun : Bytes) (fault : Fault) : Reading.ofBegun begun ≠ .failed fault := by
  cases begun <;> simp [Reading.ofBegun]

theorem readFrom_eq_failed_iff {begun : Bytes} {source rest : Source} {fault : Fault} :
    readFrom begun source = (.failed fault, rest) ↔ source.Meets fault rest := by
  fun_induction readFrom begun source with
  | case1 begun => simp [ofBegun_ne_failed, not_meets_nil]
  | case2 begun source => simp [ofBegun_ne_failed, meets_cons_iff, Item.Passed]
  | case3 begun cause source hkind ih =>
    rw [ih, meets_cons_iff]
    simp only [Item.Passed, hkind, true_and, Item.fault.injEq]
    refine ⟨.inr, ?_⟩
    rintro (⟨rfl, -, hne⟩ | h)
    · exact absurd hkind hne
    · exact h
  | case4 begun cause source hkind =>
    simp only [meets_cons_iff, Item.Passed, hkind, false_and, or_false, Prod.mk.injEq,
      Reading.failed.injEq, Item.fault.injEq]
    refine ⟨?_, ?_⟩
    · rintro ⟨rfl, rfl⟩
      exact ⟨rfl, rfl, hkind⟩
    · rintro ⟨rfl, rfl, -⟩
      exact ⟨rfl, rfl⟩
  | case5 begun bytes source line more hcut =>
    simp only [meets_cons_iff, Item.Passed, Prod.mk.injEq, reduceCtorEq, false_and, false_or,
      false_iff, not_and]
    intro hmem
    rw [cutLine?_of_not_mem hmem] at hcut
    cases hcut
  | case6 begun bytes source hcut ih =>
    rw [ih, meets_cons_iff]
    simp [Item.Passed, cutLine?_eq_none_iff.1 hcut]

/-- Reading a line fails exactly when a failure that is no interruption is met before a line feed
and before an end of input. -/
theorem readLine_eq_failed_iff {source rest : Source} {fault : Fault} :
    source.readLine = (.failed fault, rest) ↔ source.Meets fault rest := by
  rw [← @readFrom_eq_failed_iff []]
  unfold readLine readBytes
  rcases readFrom [] source with ⟨reading, after⟩
  cases reading <;> simp [Reading.map]

end Source

end LineShell
