import LineShell.Console
import LineShell.Proofs.Sinks
/-!
# What a console shows

The operations of a console, on a standard output that never fails and on one that dies. Neither the
lines a command is made of nor the failures of standard error play a part here.
-/

namespace LineShell

variable {Dir : Type}

theorem flatten_map_encode (pieces : List String) :
    (pieces.map Utf8.encode).flatten = Utf8.encode (String.join pieces) := by
  induction pieces with
  | nil => rfl
  | cons piece pieces ih => rw [String.join_cons, Utf8.encode_append, ← ih]; rfl

namespace Console

variable {console : Console} {room : Nat} {fault : Fault}

/-! ## Printing and flushing -/

theorem print_of_neverFails (h : console.out.device.NeverFails) (pieces : List String) :
    ∃ out : Sink, out.device.NeverFails ∧
      (console.print (pieces.map Utf8.encode) : Shown Dir)
        = ⟨[.out (Utf8.encode (String.join pieces))], none, { console with out }⟩ := by
  obtain ⟨htaken, hfault, hnever⟩ :=
    Sink.putAll_of_neverFails h (pieces.map Utf8.encode)
  refine ⟨_, hnever, ?_⟩
  unfold print
  simp only [htaken, hfault, flatten_map_encode]

/-- An output that takes all takes all the pieces. -/
theorem print_of_takesAll (h : console.out.device.TakesAll) (pieces : List String) :
    (console.print (pieces.map Utf8.encode) : Shown Dir).trace
        = [.out (Utf8.encode (String.join pieces))] ∧
      (console.print (pieces.map Utf8.encode) : Shown Dir).fault? = none := by
  obtain ⟨htaken, hfault⟩ := Sink.putAll_of_takesAll h (pieces.map Utf8.encode)
  rw [flatten_map_encode] at htaken
  unfold print
  simp only [htaken, hfault, and_self]

theorem print_of_diesAfter (h : console.out.DiesAfter room fault) (pieces : List String) :
    ∃ out : Sink, out.DiesAfter (room - (Utf8.encode (String.join pieces)).length) fault ∧
      (console.print (pieces.map Utf8.encode) : Shown Dir)
        = ⟨[.out ((Utf8.encode (String.join pieces)).take room)],
            if (Utf8.encode (String.join pieces)).length ≤ room then none else some fault,
            { console with out }⟩ := by
  obtain ⟨htaken, hfault, hdies⟩ := Sink.putAll_of_diesAfter h (pieces.map Utf8.encode)
  rw [flatten_map_encode] at htaken hfault hdies
  refine ⟨_, hdies, ?_⟩
  unfold print
  simp only [htaken, hfault]

/-- What fits is printed. -/
theorem print_of_closes {limit : Nat} (h : console.out.device.Closes limit (· = fault))
    (pieces : List String) :
    ∃ out : Sink, (console.print (pieces.map Utf8.encode) : Shown Dir)
      = let room := limit - console.out.past.taken
        ⟨[.out ((Utf8.encode (String.join pieces)).take room)],
          if room < (Utf8.encode (String.join pieces)).length then some fault else none,
          { console with out }⟩ := by
  obtain ⟨htaken, hfault⟩ := Sink.putAll_of_closes h (pieces.map Utf8.encode)
  rw [flatten_map_encode] at htaken hfault
  refine ⟨(console.out.putAll (pieces.map Utf8.encode)).sink, ?_⟩
  unfold print
  rcases hfault with ⟨hnone, hfit⟩ | ⟨_, rfl, hsome, hover⟩
  · simp only [htaken, hnone, Nat.not_lt.2 hfit, if_false]
  · simp only [htaken, hsome, hover, if_true]

theorem flush_of_neverFails (h : console.out.device.NeverFails) :
    ∃ out : Sink, out.device.NeverFails ∧
      (console.flush : Shown Dir) = ⟨[.flush true], none, { console with out }⟩ := by
  obtain ⟨hnone, hnever⟩ := Sink.flush_of_neverFails h
  refine ⟨_, hnever, ?_⟩
  unfold flush
  simp only [hnone, Option.isNone_none]

theorem flush_of_diesAfter (h : console.out.DiesAfter room fault) :
    ∃ out : Sink, out.DiesAfter room fault ∧
      (console.flush : Shown Dir) = ⟨[.flush true], none, { console with out }⟩ := by
  obtain ⟨hnone, hdies⟩ := Sink.flush_of_diesAfter h
  refine ⟨_, hdies, ?_⟩
  unfold flush
  simp only [hnone, Option.isNone_none]

/-! ## The prompt -/

theorem prompt_of_neverFails (h : console.out.device.NeverFails) (text : String) :
    ∃ out : Sink, out.device.NeverFails ∧
      (console.prompt text : Shown Dir)
        = ⟨[.out (Utf8.encode text), .flush true], none, { console with out }⟩ := by
  obtain ⟨shown, hshown, hprint⟩ := @print_of_neverFails Dir _ h [text]
  obtain ⟨out, hout, hflush⟩ :=
    @flush_of_neverFails Dir { console with out := shown } hshown
  refine ⟨out, hout, ?_⟩
  rw [show String.join [text] = text by simp] at hprint
  unfold prompt
  rw [show [Utf8.encode text] = [text].map Utf8.encode from rfl, hprint]
  simp only [hflush, List.singleton_append]

/-- A prompt that fits is shown, and one that does not fails. -/
theorem prompt_of_diesAfter (h : console.out.DiesAfter room fault) (text : String) :
    ∃ out : Sink, out.DiesAfter (room - (Utf8.encode text).length) fault ∧
      (console.prompt text : Shown Dir)
        = if (Utf8.encode text).length ≤ room then
            ⟨[.out (Utf8.encode text), .flush true], none, { console with out }⟩
          else ⟨[.out ((Utf8.encode text).take room)], some fault, { console with out }⟩ := by
  obtain ⟨shown, hshown, hprint⟩ := @print_of_diesAfter Dir _ _ _ h [text]
  rw [show String.join [text] = text by simp] at hprint hshown
  unfold prompt
  rw [show [Utf8.encode text] = [text].map Utf8.encode from rfl, hprint]
  by_cases hfit : (Utf8.encode text).length ≤ room
  · obtain ⟨out, hout, hflush⟩ :=
      @flush_of_diesAfter Dir { console with out := shown } _ _ hshown
    refine ⟨out, hout, ?_⟩
    simp only [hfit, if_true, hflush, List.take_of_length_le hfit, List.singleton_append]
  · refine ⟨shown, hshown, ?_⟩
    simp only [hfit, if_false]

/-- On two consoles that print and flush alike, and are related by it, the prompt is shown alike. -/
theorem prompt_alike {Related : Console → Console → Prop} {first second : Console} (text : String)
    (hprint : ∃ console, Related (first.print [Utf8.encode text] : Shown Dir).console console ∧
      (second.print [Utf8.encode text] : Shown Dir) = { first.print [Utf8.encode text] with console })
    (hflush : ∀ {first second : Console}, Related first second →
      ∃ console, Related (first.flush : Shown Dir).console console ∧
        (second.flush : Shown Dir) = { first.flush with console }) :
    ∃ console, Related (first.prompt text : Shown Dir).console console ∧
      (second.prompt text : Shown Dir) = { first.prompt text with console } := by
  obtain ⟨shown, hshown, hprint⟩ := hprint
  unfold prompt
  rw [hprint]
  cases hfault : (first.print [Utf8.encode text] : Shown Dir).fault? with
  | some fault => exact ⟨shown, by simpa only [hfault] using hshown, by simp only [hfault]⟩
  | none =>
    obtain ⟨console, hconsole, hflush⟩ := hflush hshown
    exact ⟨console, by simpa only [hfault] using hconsole, by simp only [hfault, hflush]⟩

section
variable (console : Console) (text : String)

/-- A prompt is written and flushed; or it is not written as a whole, or written and not flushed. -/
theorem prompt_cases :
    (console.prompt text : Shown Dir).fault? = none ∧
        (console.prompt text : Shown Dir).trace = [.out (Utf8.encode text), .flush true] ∨
      ∃ fault, (console.prompt text : Shown Dir).fault? = some fault ∧
        ((∃ bytes, bytes <+: Utf8.encode text ∧ bytes ≠ Utf8.encode text ∧
            (console.prompt text : Shown Dir).trace = [.out bytes]) ∨
          (console.prompt text : Shown Dir).trace = [.out (Utf8.encode text), .flush false]) := by
  have hprefix := console.out.taken_put_prefix (Utf8.encode text)
  have hall := console.out.taken_put_eq_iff (Utf8.encode text)
  unfold prompt print
  cases hput : (console.out.put (Utf8.encode text)).fault? with
  | some fault =>
    rw [Sink.putAll_cons_of_some hput]
    simp only [hput]
    exact .inr ⟨fault, rfl, .inl ⟨_, hprefix, fun h => (nomatch hput.symm.trans (hall.1 h)), rfl⟩⟩
  | none =>
    rw [Sink.putAll_cons_of_none hput, hall.2 hput]
    cases hflush : (console.out.put (Utf8.encode text)).sink.flush.1 with
    | none => exact .inl (by simp [flush, hflush])
    | some fault => exact .inr ⟨fault, by simp [flush, hflush]⟩

/-- Showing a prompt writes to standard output and flushes it, and does nothing else. -/
theorem prompt_trace : ∃ bytes, (console.prompt text : Shown Dir).trace = [.out bytes] ∨
    ∃ worked, (console.prompt text : Shown Dir).trace = [.out bytes, .flush worked] := by
  obtain ⟨-, h⟩ | ⟨_, -, ⟨bytes, -, -, h⟩ | h⟩ := @prompt_cases Dir console text
  · exact ⟨_, .inr ⟨_, h⟩⟩
  · exact ⟨bytes, .inl h⟩
  · exact ⟨_, .inr ⟨_, h⟩⟩

@[simp] theorem steps_prompt : (console.prompt text : Shown Dir).trace.steps = [] := by
  obtain ⟨_, h | ⟨_, h⟩⟩ := @prompt_trace Dir console text <;> rw [h] <;> rfl

end

/-! ## Diagnostics -/

/-- On a standard error that takes all, a diagnostic is taken as a whole. -/
theorem report_of_takesAll (error : ShellError) (h : console.err.device.TakesAll) :
    (console.report error : Trace Dir × Console).1 = [.err (Utf8.encode (diagnostic error))] := by
  obtain ⟨htaken, -⟩ := Sink.putAll_of_takesAll h ((diagnosticPieces error).map Utf8.encode)
  rw [flatten_map_encode, join_diagnosticPieces] at htaken
  unfold report
  simp only [htaken]

theorem report_of_neverFails (error : ShellError) (h : console.err.device.NeverFails) :
    ∃ err : Sink, err.device.NeverFails ∧
      (console.report error : Trace Dir × Console)
        = ([.err (Utf8.encode (diagnostic error))], { console with err }) := by
  obtain ⟨htaken, -, hnever⟩ :=
    Sink.putAll_of_neverFails h ((diagnosticPieces error).map Utf8.encode)
  rw [flatten_map_encode, join_diagnosticPieces] at htaken
  refine ⟨_, hnever, ?_⟩
  unfold report
  simp only [htaken]

end Console

end LineShell
