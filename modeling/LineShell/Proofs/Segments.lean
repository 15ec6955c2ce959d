import LineShell.Proofs.Lines
import LineShell.Proofs.Decoding
/-!
# Reading line after line

An input falls into segments at its ends of input. `nthReading_eq` gives every result of asking for
lines over and over: the lines of each segment in turn, one end of input behind a segment that leaves
no line begun, and the end of input for ever behind the last. How a segment comes in pieces plays no
part in it, and neither do interruptions. Reading loses nothing: the lines of a segment, joined, are
the segment (`join_decode_linesOf`). Whole lines are read as if nothing followed, whatever follows,
even where the seam lies inside a piece (`yields_of_leads`).
-/

namespace LineShell

/-! ## The lines of some bytes -/

/-- Bytes are none, or one line without a line feed, or a line with one and what is behind it. -/
theorem lines_induction {motive : Bytes → Prop} (nil : motive [])
    (last : ∀ line, line ≠ [] → lineFeed ∉ line → motive line)
    (feed : ∀ before rest, lineFeed ∉ before → motive rest → motive (before ++ lineFeed :: rest))
    (bytes : Bytes) : motive bytes := by
  induction hlength : bytes.length using Nat.strongRecOn generalizing bytes with
  | ind n ih =>
    rcases Source.not_mem_or_eq_append bytes with hmem | ⟨before, rest, hbefore, rfl⟩
    · by_cases hnil : bytes = []
      · exact hnil ▸ nil
      · exact last bytes hnil hmem
    · refine feed before rest hbefore (ih rest.length ?_ rest rfl)
      rw [← hlength]
      simp
      omega

theorem flatten_linesOf (bytes : Bytes) : (linesOf bytes).flatten = bytes := by
  induction bytes using lines_induction with
  | nil => rfl
  | last line hne hline => simp [linesOf_of_not_mem hne hline]
  | feed before rest hbefore ih => simp [linesOf_append_cons hbefore, ih]

/-- Every line holds something, and a line feed at most at its end. -/
theorem of_mem_linesOf {bytes line : Bytes} (h : line ∈ linesOf bytes) :
    ∃ before, lineFeed ∉ before ∧ (line = before ∧ before ≠ [] ∨ line = before ++ [lineFeed]) := by
  induction bytes using lines_induction with
  | nil => cases h
  | last bytes hne hbytes =>
    rw [linesOf_of_not_mem hne hbytes, List.mem_singleton] at h
    exact ⟨bytes, hbytes, .inl ⟨h, hne⟩⟩
  | feed before rest hbefore ih =>
    rw [linesOf_append_cons hbefore] at h
    rcases List.mem_cons.1 h with rfl | h
    · exact ⟨before, hbefore, .inr rfl⟩
    · exact ih h

/-! ## Lines as text -/

theorem lineFeed_lt : lineFeed < 0x80 := by decide

theorem decode_append_lineFeed (before after : Bytes) :
    Utf8.decode (before ++ lineFeed :: after) = Utf8.decode before ++ "\n" ++ Utf8.decode after :=
  Utf8.decode_append_single lineFeed_lt before after

theorem newline_mem_decode_iff {bytes : Bytes} : '\n' ∈ (Utf8.decode bytes).toList ↔ lineFeed ∈ bytes :=
  Utf8.mem_decode_iff lineFeed_lt

/-- A line as text holds something, and a newline at most as its last character. -/
theorem decode_of_mem_linesOf {bytes line : Bytes} (h : line ∈ linesOf bytes) :
    Utf8.decode line ≠ "" ∧ '\n' ∉ (Utf8.decode line).toList.dropLast := by
  obtain ⟨before, hbefore, ⟨rfl, hne⟩ | rfl⟩ := of_mem_linesOf h
  · refine ⟨fun hempty => hne (Utf8.decode_eq_empty_iff.1 hempty), fun hmem => ?_⟩
    exact hbefore (newline_mem_decode_iff.1 (List.dropLast_subset _ hmem))
  · have hline : (Utf8.decode (before ++ [lineFeed])).toList = (Utf8.decode before).toList ++ ['\n'] := by
      simp [decode_append_lineFeed]
    refine ⟨fun hempty => ?_, fun hmem => ?_⟩
    · simp [hempty] at hline
    · rw [hline, List.dropLast_concat] at hmem
      exact hbefore (newline_mem_decode_iff.1 hmem)

/-- Reading line by line is reading at once. -/
theorem join_decode_linesOf (bytes : Bytes) :
    String.join ((linesOf bytes).map Utf8.decode) = Utf8.decode bytes := by
  induction bytes using lines_induction with
  | nil => rfl
  | last line hne hline => simp [linesOf_of_not_mem hne hline]
  | feed before rest hbefore ih =>
    rw [linesOf_append_cons hbefore, List.map_cons, String.join_cons, ih, decode_append_lineFeed,
      decode_append_lineFeed]
    simp

/-! ## Segments -/

/-- What reading a segment line by line gives: its lines, and then the end of input unless the end
of the segment was the end of a line. -/
def readingsOf (segment : Bytes) : List (Reading String) :=
  (linesOf segment).map (.line <| Utf8.decode ·) ++
    if segment = [] ∨ segment.getLast? = some lineFeed then [.endOfInput] else []

/-- Bytes leave no line begun exactly when those behind a line feed in them leave none. -/
theorem ends_append_cons_iff (before rest : Bytes) :
    (before ++ lineFeed :: rest = [] ∨ (before ++ lineFeed :: rest).getLast? = some lineFeed)
      ↔ (rest = [] ∨ rest.getLast? = some lineFeed) := by
  cases rest <;> simp [List.getLast?_cons]

/-- A line of a segment is read first, and then what is behind it. -/
theorem readingsOf_append_cons {before : Bytes} (h : lineFeed ∉ before) (rest : Bytes) :
    readingsOf (before ++ lineFeed :: rest)
      = .line (Utf8.decode (before ++ [lineFeed])) :: readingsOf rest := by
  unfold readingsOf
  simp only [ends_append_cons_iff, linesOf_append_cons h, List.map_cons, List.cons_append]

/-- A segment that ends in the middle of a line, or before any. -/
theorem readingsOf_of_not_mem {begun : Bytes} (h : lineFeed ∉ begun) :
    readingsOf begun = [(Reading.ofBegun begun).map Utf8.decode] := by
  cases begun with
  | nil => rfl
  | cons b begun =>
    have hlast : (b :: begun).getLast? ≠ some lineFeed := fun hlast => h (List.mem_of_getLast? hlast)
    rw [readingsOf, if_neg (by simp [hlast]), linesOf_of_not_mem (List.cons_ne_nil _ _) h]
    rfl

namespace Source

/-- Nothing fails but by an interruption. -/
def Unfailing (source : Source) : Prop := ∀ fault, .fault fault ∈ source → fault.kind = .interrupted

/-- What an input holds between its ends of input. Behind the last of these there is a segment too. -/
def segments : Source → List Bytes
  | [] => [[]]
  | .piece bytes :: rest => (segments rest).modifyHead (bytes ++ ·)
  | .endOfInput :: rest => [] :: segments rest
  | .fault _ :: rest => segments rest

/-- What asking for a line gives the nth time, counted from 0. -/
def nthReading : Source → Nat → Reading String
  | source, 0 => source.readLine.1
  | source, n + 1 => source.readLine.2.nthReading n

theorem exists_segments_eq_cons (source : Source) : ∃ first others, source.segments = first :: others := by
  induction source with
  | nil => exact ⟨[], [], rfl⟩
  | cons item rest ih =>
    obtain ⟨first, others, h⟩ := ih
    cases item with
    | piece bytes => exact ⟨bytes ++ first, others, by rw [segments, h, List.modifyHead_cons]⟩
    | endOfInput => exact ⟨[], first :: others, by rw [segments, h]⟩
    | fault _ => exact ⟨first, others, h⟩

/-- Two pieces are one. -/
theorem segments_piece_piece (begun bytes : Bytes) (rest : Source) :
    segments (.piece begun :: .piece bytes :: rest) = segments (.piece (begun ++ bytes) :: rest) := by
  simp only [segments, List.modifyHead_modifyHead]
  congr 1
  funext segment
  simp

theorem segments_piece_nil (rest : Source) : segments (.piece [] :: rest) = rest.segments := by
  obtain ⟨first, others, h⟩ := rest.exists_segments_eq_cons
  rw [segments, h]
  rfl

theorem unfailing_cons_iff {item : Item} {rest : Source} :
    Unfailing (item :: rest) ↔ (∀ fault, item = .fault fault → fault.kind = .interrupted) ∧ rest.Unfailing := by
  constructor
  · intro h
    exact ⟨fun fault hitem => h fault (hitem ▸ List.mem_cons_self),
      fun fault hmem => h fault (List.mem_cons_of_mem _ hmem)⟩
  · rintro ⟨hitem, hrest⟩ fault hmem
    rcases List.mem_cons.1 hmem with heq | hmem
    · exact hitem fault heq.symm
    · exact hrest fault hmem

theorem Unfailing.readFrom {source : Source} (h : source.Unfailing) (begun : Bytes) :
    (source.readFrom begun).2.Unfailing := by
  fun_induction Source.readFrom begun source with
  | case1 begun => exact h
  | case2 begun rest => exact (unfailing_cons_iff.1 h).2
  | case3 begun fault rest _ ih => exact ih (unfailing_cons_iff.1 h).2
  | case4 begun fault rest _ => exact (unfailing_cons_iff.1 h).2
  | case5 begun bytes rest line more _ =>
    exact unfailing_cons_iff.2 ⟨by simp, (unfailing_cons_iff.1 h).2⟩
  | case6 begun bytes rest _ ih => exact ih (unfailing_cons_iff.1 h).2

/-! ## Asking for lines over and over -/

/-- What asking for lines over and over is to give, up to the end of input that it gives for ever. -/
def segmentReadings (source : Source) : List (Reading String) := source.segments.flatMap readingsOf

theorem segmentReadings_piece {begun : Bytes} (h : lineFeed ∉ begun) :
    segmentReadings [.piece begun] = [(Reading.ofBegun begun).map Utf8.decode] := by
  simp [segmentReadings, segments, readingsOf_of_not_mem h]

theorem segmentReadings_endOfInput {begun : Bytes} (h : lineFeed ∉ begun) (rest : Source) :
    segmentReadings (.piece begun :: .endOfInput :: rest)
      = (Reading.ofBegun begun).map Utf8.decode :: segmentReadings rest := by
  simp [segmentReadings, segments, readingsOf_of_not_mem h]

theorem segmentReadings_lineFeed {before : Bytes} (h : lineFeed ∉ before) (more : Bytes) (rest : Source) :
    segmentReadings (.piece (before ++ lineFeed :: more) :: rest)
      = .line (Utf8.decode (before ++ [lineFeed])) :: segmentReadings (.piece more :: rest) := by
  obtain ⟨first, others, hrest⟩ := exists_segments_eq_cons rest
  simp only [segmentReadings, segments, hrest, List.modifyHead_cons, List.flatMap_cons,
    List.append_assoc, List.cons_append, readingsOf_append_cons h]

/-- Reading on from a begun line gives the first of the readings, and leaves a source for the others. -/
theorem readFrom_segmentReadings {source : Source} (h : source.Unfailing) {begun : Bytes}
    (hbegun : lineFeed ∉ begun) :
    (segmentReadings (.piece begun :: source)).getD 0 .endOfInput
        = (source.readFrom begun).1.map Utf8.decode
      ∧ ∀ n, (segmentReadings (.piece begun :: source)).getD (n + 1) .endOfInput
        = (source.readFrom begun).2.segmentReadings.getD n .endOfInput := by
  -- What is begun counts as a piece in front of the source, so reading on does not move the readings.
  fun_induction readFrom begun source with
  | case1 begun =>
    rw [segmentReadings_piece hbegun]
    exact ⟨rfl, fun n => by cases n <;> rfl⟩
  | case2 begun rest =>
    rw [segmentReadings_endOfInput hbegun]
    exact ⟨rfl, fun n => rfl⟩
  | case3 begun fault rest _ ih => exact ih (unfailing_cons_iff.1 h).2 hbegun
  | case4 begun fault rest hkind => exact absurd ((unfailing_cons_iff.1 h).1 fault rfl) hkind
  | case5 begun bytes rest line more hcut =>
    obtain ⟨before, hbefore, rfl, rfl⟩ := exists_of_cutLine? hcut
    have hmem : lineFeed ∉ begun ++ before := by simp [hbegun, hbefore]
    have hread := segmentReadings_lineFeed hmem more rest
    rw [List.append_assoc, List.append_assoc] at hread
    rw [segmentReadings, segments_piece_piece, ← segmentReadings, hread]
    exact ⟨rfl, fun n => rfl⟩
  | case6 begun bytes rest hcut ih =>
    have hbytes : lineFeed ∉ bytes := cutLine?_eq_none_iff.1 hcut
    rw [segmentReadings, segments_piece_piece]
    exact ih (unfailing_cons_iff.1 h).2 (by simp [hbegun, hbytes])

theorem nthReading_eq_getD {source : Source} (h : source.Unfailing) (n : Nat) :
    source.nthReading n = source.segmentReadings.getD n .endOfInput := by
  have hread {source : Source} (h : source.Unfailing) :=
    @readFrom_segmentReadings source h [] List.not_mem_nil
  simp only [segmentReadings, segments_piece_nil] at hread
  induction n generalizing source with
  | zero => exact (hread h).1.symm
  | succ n ih => exact (ih (h.readFrom [])).trans ((hread h).2 n).symm

/-- A line that is read is a line of some segment. -/
theorem exists_of_nthReading_eq_line {source : Source} (h : source.Unfailing) {n : Nat} {line : String}
    (hline : source.nthReading n = .line line) :
    ∃ segment ∈ source.segments, ∃ bytes ∈ linesOf segment, line = Utf8.decode bytes := by
  rw [nthReading_eq_getD h, List.getD_eq_getElem?_getD] at hline
  cases hget : source.segmentReadings[n]? with
  | none =>
    rw [hget] at hline
    cases hline
  | some reading =>
    rw [hget] at hline
    obtain ⟨segment, hsegment, hmem⟩ := List.mem_flatMap.1 (List.mem_of_getElem? hget)
    refine ⟨segment, hsegment, ?_⟩
    obtain rfl : reading = .line line := hline
    simpa [readingsOf, eq_comm] using hmem

/-- Asking for lines over and over gives the lines of each segment in turn, the end of input behind a
segment that is empty or ends in a line feed, and the end of input for ever behind the last. Pieces
and interruptions play no part. Every line holds something and a newline at most at its end, and the
lines of a segment, joined, are the segment. -/
theorem nthReading_eq {source : Source} (h : source.Unfailing) :
    (∀ n, source.nthReading n = (source.segments.flatMap readingsOf).getD n .endOfInput)
      ∧ (∀ other : Source, other.Unfailing → other.segments = source.segments →
          ∀ n, other.nthReading n = source.nthReading n)
      ∧ (∀ n line, source.nthReading n = .line line → line ≠ "" ∧ '\n' ∉ line.toList.dropLast)
      ∧ (∀ segment ∈ source.segments, (linesOf segment).flatten = segment
          ∧ String.join ((linesOf segment).map Utf8.decode) = Utf8.decode segment)
      ∧ ∀ text, Utf8.encode text ∈ source.segments →
          Utf8.encode (String.join ((linesOf (Utf8.encode text)).map Utf8.decode)) = Utf8.encode text := by
  refine ⟨nthReading_eq_getD h, ?_, ?_, ?_, ?_⟩
  · intro other hother heq n
    rw [nthReading_eq_getD hother, nthReading_eq_getD h, segmentReadings, heq, segmentReadings]
  · intro n line hline
    obtain ⟨segment, -, bytes, hbytes, rfl⟩ := exists_of_nthReading_eq_line h hline
    exact decode_of_mem_linesOf hbytes
  · intro segment _
    exact ⟨flatten_linesOf segment, join_decode_linesOf segment⟩
  · intro text _
    rw [join_decode_linesOf, Utf8.decode_encode]

/-- A character in two pieces, an interruption between them, an end of input in the middle of a line
and one behind a line. -/
theorem nthReading_of_pieces :
    let source : Source := [.piece [0x68, 0xC3], .fault (.plain .interrupted), .piece [0xA9, 0x0A, 0x6C],
      .endOfInput, .piece [0x73, 0x0A], .endOfInput, .piece [0x6C]]
    source.Unfailing ∧ source.segments = [[0x68, 0xC3, 0xA9, 0x0A, 0x6C], [0x73, 0x0A], [0x6C]] ∧
      (List.range 7).map source.nthReading
        = [.line "hé\n", .line "l", .line "s\n", .endOfInput, .line "l", .endOfInput, .endOfInput] := by
  intro source
  have hsource : source.Unfailing := by
    intro fault hmem
    simp [source] at hmem
    rw [hmem]
    rfl
  have hread := (nthReading_eq hsource).1
  refine ⟨hsource, rfl, ?_⟩
  rw [List.map_congr_left fun n _ => hread n]
  decide

/-! ## Whole lines before another source -/

/-- Asking for lines over and over gives these, and leaves another source. -/
inductive Yields : Source → List String → Source → Prop
  | nil (source : Source) : Yields source [] source
  | cons {source next rest line lines} : source.readLine = (.line line, next) →
      Yields next lines rest → Yields source (line :: lines) rest

/-- Whole lines on the way to another source are read as if nothing followed, and reading then goes on
as in the other source. -/
theorem yields_of_leads {source rest : Source} {bytes : Bytes} (h : source.Leads bytes rest)
    (hends : bytes = [] ∨ bytes.getLast? = some lineFeed) :
    ∃ behind, source.Yields ((linesOf bytes).map Utf8.decode) behind ∧
      behind.readLine = rest.readLine := by
  induction hlength : bytes.length using Nat.strongRecOn generalizing source bytes with
  | ind n ih =>
    rcases readFrom_of_leads h [] with ⟨hmem, hread⟩ | ⟨before, after, next, hbefore, rfl, hread, hnext⟩
    · have hnil : bytes = [] := hends.resolve_right fun hlast => hmem (List.mem_of_getLast? hlast)
      subst hnil
      exact ⟨source, .nil source, by simp [readLine, readBytes, hread]⟩
    · have hafter := (ends_append_cons_iff before after).1 hends
      obtain ⟨behind, hyields, hbehind⟩ := ih after.length (by simp at hlength; omega) hnext hafter rfl
      refine ⟨behind, ?_, hbehind⟩
      rw [linesOf_append_cons hbefore, List.map_cons]
      exact .cons (by simp [readLine, readBytes, hread, Reading.map]) hyields

end Source

end LineShell
