import LineShell.Proofs.Characters
import Mathlib.Data.List.Induction
/-!
# What decoding does

`Lossy` is the rule that text is read by: what is valid is kept, and each maximal invalid part becomes
one replacement character. Exactly one text goes by it (`lossy_iff`), the one that `decode` gives. From
the rule follow a round trip (`decode_encode`) and what bytes that stand for themselves do: they are
neither made nor lost by decoding, and they cut it (`decode_append_single`).
-/

namespace LineShell.Utf8

/-! ## The rule -/

/-- An invalid part in front of some bytes, as long as it can be: the beginning of a character that
does not go on, or a byte that begins none. -/
structure Invalid (part rest : Bytes) : Prop where
  ne_nil : part ≠ []
  begins : Begins part ∨ part.length = 1
  unfinished : ∀ c, ¬ form c <+: part ++ rest
  maximal : ∀ b ∈ rest.head?, ¬ Begins (part ++ [b])

/-- Bytes read as text: what is valid is kept, and each maximal invalid part is replaced. -/
inductive Lossy : Bytes → List Char → Prop
  | nil : Lossy [] []
  | char {rest cs} (c : Char) : Lossy rest cs → Lossy (form c ++ rest) (c :: cs)
  | invalid {part rest cs} : Invalid part rest → Lossy rest cs →
      Lossy (part ++ rest) (replacement :: cs)

/-! ## Reading goes by the rule -/

theorem decodeFrom_cons (state : Option Unfinished) (b : UInt8) (rest : Bytes) :
    decodeFrom state (b :: rest) = (next state b).1 ++ decodeFrom (next state b).2 rest := by
  cases state <;> rfl

/-- No character is complete where a byte breaks off the one that was begun. -/
theorem not_prefix_of_not_begins {part rest : Bytes} {b : UInt8} (h : ∀ c, ¬ form c <+: part)
    (hb : ¬ Begins (part ++ [b])) (c : Char) : ¬ form c <+: part ++ b :: rest := by
  intro hc
  have hpart : part ++ [b] <+: part ++ b :: rest := by simp
  rcases List.prefix_or_prefix_of_prefix hc hpart with hc | hc
  · rcases List.prefix_concat_iff.1 hc with heq | hc
    · exact hb ⟨c, heq ▸ List.prefix_refl _⟩
    · exact h c hc
  · exact hb ⟨c, hc⟩

theorem lossy_decodeFrom {state : Option Unfinished} {part : Bytes} (h : Holds state part)
    (bytes : Bytes) : Lossy (part ++ bytes) (decodeFrom state bytes) := by
  induction bytes generalizing state part with
  | nil =>
    cases state with
    | none =>
      obtain rfl : part = [] := h
      exact .nil
    | some u =>
      have h : u.Follows part := h
      refine .invalid ⟨h.ne_nil, .inl h.begins, fun c hc => h.incomplete c ?_, by simp⟩ .nil
      rwa [List.append_nil] at hc
  | cons b rest ih =>
    -- A byte that breaks a character off is met afresh, so the case of no character comes first.
    have hmet (state part) (h : Holds state part)
        (hfresh : part = [] ∨ Lossy (b :: rest) (decodeFrom none (b :: rest))) :
        Lossy (part ++ b :: rest) (decodeFrom state (b :: rest)) := by
      have hmet := met_next h b
      have hunfinished := @not_prefix_of_not_begins part rest b h.incomplete
      rw [decodeFrom_cons]
      generalize next state b = r at hmet ⊢
      cases hmet with
      | complete c hform =>
        have hrule := Lossy.char c (ih holds_none)
        rw [hform] at hrule
        simpa using hrule
      | more u hu => simpa using ih (show Holds (some u) (part ++ [b]) from hu)
      | stray hnil hb =>
        subst hnil
        have hinvalid : Invalid [b] rest := by
          refine ⟨List.cons_ne_nil _ _, .inr rfl, hunfinished hb, ?_⟩
          rintro b' - ⟨c, hc⟩
          exact hb ⟨c, (List.prefix_append _ _).trans hc⟩
        have hrule := Lossy.invalid hinvalid (ih holds_none)
        exact hrule
      | broken hne hb =>
        cases state with
        | none => exact absurd h hne
        | some u =>
          have hu : u.Follows part := h
          exact .invalid ⟨hne, .inl hu.begins, hunfinished hb, by simpa using hb⟩
            (hfresh.resolve_left hne)
    exact hmet state part h (.inr (hmet none [] rfl (.inl rfl)))

/-! ## Nothing else goes by it -/

/-- Behind the beginning of a character, reading is in the state of that beginning. -/
theorem exists_holds_of_prefix {part : Bytes} {c : Char} (h : part <+: form c) (hne : part ≠ form c) :
    ∃ state, Holds state part ∧ ∀ rest, decodeFrom none (part ++ rest) = decodeFrom state rest := by
  induction part using List.reverseRecOn with
  | nil => exact ⟨none, rfl, fun _ => rfl⟩
  | append_singleton part b ih =>
    have hpart : part ≠ form c := by
      intro heq
      have hlength := h.length_le
      rw [← heq, List.length_append, List.length_singleton] at hlength
      omega
    obtain ⟨state, hstate, hread⟩ := ih ((List.prefix_append _ _).trans h) hpart
    have hmet := met_next hstate b
    have hnext (rest : Bytes) : decodeFrom none (part ++ [b] ++ rest)
        = (next state b).1 ++ decodeFrom (next state b).2 rest := by
      rw [List.append_assoc, hread, List.singleton_append, decodeFrom_cons]
    generalize next state b = r at hmet hnext
    cases hmet with
    | complete c' hform honly => exact absurd (honly c h ▸ hform.symm) hne
    | more u hu => exact ⟨some u, hu, hnext⟩
    | stray _ hb | broken _ hb => exact absurd ⟨c, h⟩ hb

/-- What is valid is kept. -/
theorem decodeFrom_form (c : Char) (rest : Bytes) :
    decodeFrom none (form c ++ rest) = c :: decodeFrom none rest := by
  obtain ⟨part, b, hform⟩ : ∃ part b, form c = part ++ [b] := by
    rcases List.eq_nil_or_concat (form c) with h | ⟨part, b, h⟩
    · exact absurd h String.utf8EncodeChar_ne_nil
    · exact ⟨part, b, by rw [h, List.concat_eq_append]⟩
  have hc : part ++ [b] <+: form c := hform ▸ List.prefix_refl _
  have hne : part ≠ form c := by
    intro heq
    have hlength := congrArg List.length (heq.trans hform)
    rw [List.length_append, List.length_singleton] at hlength
    omega
  obtain ⟨state, hstate, hread⟩ := exists_holds_of_prefix ((List.prefix_append _ _).trans hc) hne
  have hmet := met_next hstate b
  rw [hform, List.append_assoc, hread, List.singleton_append, decodeFrom_cons]
  generalize next state b = r at hmet ⊢
  cases hmet with
  | complete c' _ honly =>
    rw [honly c hc]
    rfl
  | more u hu => exact absurd (hform ▸ List.prefix_refl _) (hu.incomplete c)
  | stray _ hb | broken _ hb => exact absurd ⟨c, hc⟩ hb

/-- Each maximal invalid part becomes one replacement character. -/
theorem decodeFrom_invalid {part rest : Bytes} (h : Invalid part rest) :
    decodeFrom none (part ++ rest) = replacement :: decodeFrom none rest := by
  by_cases hbegins : Begins part
  · obtain ⟨c, hc⟩ := hbegins
    obtain ⟨state, hstate, hread⟩ := exists_holds_of_prefix hc
      fun heq => h.unfinished c (heq ▸ List.prefix_append _ _)
    rw [hread]
    cases state with
    | none => exact absurd hstate h.ne_nil
    | some u =>
      cases rest with
      | nil => rfl
      | cons b rest =>
        have hb : ¬ Begins (part ++ [b]) := h.maximal b rfl
        have hmet := met_next hstate b
        rw [decodeFrom_cons, decodeFrom_cons none]
        generalize next (some u) b = r at hmet ⊢
        cases hmet with
        | complete c hform => exact absurd ⟨c, hform ▸ List.prefix_refl _⟩ hb
        | more u hu => exact absurd hu.begins hb
        | stray hnil => exact absurd hnil h.ne_nil
        | broken => rfl
  · obtain ⟨b, rfl⟩ := List.length_eq_one_iff.1 (h.begins.resolve_left hbegins)
    have hmet := met_next holds_none b
    rw [List.singleton_append, decodeFrom_cons]
    generalize next none b = r at hmet ⊢
    cases hmet with
    | complete c hform => exact absurd ⟨c, hform ▸ List.prefix_refl _⟩ hbegins
    | more u hu => exact absurd hu.begins hbegins
    | stray => rfl
    | broken hne => exact absurd rfl hne

/-- Decoding goes by the rule, and gives the only text that does. -/
theorem lossy_iff {bytes : Bytes} {text : String} :
    Lossy bytes text.toList ↔ decode bytes = text := by
  have hfrom {cs : List Char} (h : Lossy bytes cs) : decodeFrom none bytes = cs := by
    induction h with
    | nil => rfl
    | char c _ ih => rw [decodeFrom_form, ih]
    | invalid hpart _ ih => rw [decodeFrom_invalid hpart, ih]
  constructor
  · intro h
    rw [decode, hfrom h, String.ofList_toList]
  · rintro rfl
    rw [decode, String.toList_ofList]
    exact lossy_decodeFrom holds_none bytes

theorem lossy_decode (bytes : Bytes) : Lossy bytes (decode bytes).toList := lossy_iff.2 rfl

/-! ## What follows -/

/-- Valid bytes are the form of the text they are read as. -/
theorem decode_encode (text : String) : decode (encode text) = text := by
  have h (cs : List Char) : decodeFrom none (cs.flatMap form) = cs := by
    induction cs with
    | nil => rfl
    | cons c cs ih => rw [List.flatMap_cons, decodeFrom_form, ih]
  unfold decode encode
  rw [h, String.ofList_toList]

@[simp] theorem decode_nil : decode [] = "" := rfl

theorem decode_eq_empty_iff {bytes : Bytes} : decode bytes = "" ↔ bytes = [] := by
  constructor
  · intro h
    have hrule := lossy_decode bytes
    rw [h, String.toList_empty] at hrule
    cases hrule
    rfl
  · rintro rfl
    rfl

theorem decodeFrom_append_single {b : UInt8} (hb : b < 0x80) {state : Option Unfinished}
    {part : Bytes} (h : Holds state part) (before after : Bytes) :
    decodeFrom state (before ++ b :: after)
      = decodeFrom state before ++ Char.ofNat b.toNat :: decodeFrom none after := by
  induction before generalizing state part with
  | nil =>
    have hlow : ∀ u ∈ state, 0x80 ≤ u.low := by
      rintro u rfl
      exact Unfinished.Follows.low h
    rw [List.nil_append, decodeFrom_cons, next_single hb state hlow]
    cases state <;> simp [decodeFrom]
  | cons x before ih =>
    obtain ⟨part', hpart'⟩ := holds_next h x
    rw [List.cons_append, decodeFrom_cons, decodeFrom_cons, List.append_assoc, ih hpart']

/-- A byte that stands for itself cuts: the bytes before it are read as if nothing followed, and those
behind it afresh, whatever was begun before it. -/
theorem decode_append_single {b : UInt8} (hb : b < 0x80) (before after : Bytes) :
    decode (before ++ b :: after)
      = decode before ++ String.singleton (Char.ofNat b.toNat) ++ decode after := by
  rw [← String.toList_inj]
  simp [decode, decodeFrom_append_single hb holds_none]

/-- A character of one byte is in the text exactly when its byte is there. -/
theorem mem_decode_iff {b : UInt8} (hb : b < 0x80) {bytes : Bytes} :
    Char.ofNat b.toNat ∈ (decode bytes).toList ↔ b ∈ bytes := by
  constructor
  · intro h
    have hrule := lossy_decode bytes
    generalize (decode bytes).toList = cs at h hrule
    induction hrule with
    | nil => cases h
    | char c _ ih =>
      rcases List.mem_cons.1 h with rfl | h
      · simp [form_single hb]
      · exact List.mem_append_right _ (ih h)
    | invalid _ _ ih =>
      rcases List.mem_cons.1 h with h | h
      · have hlt : b.toNat < 0x80 := hb
        have hval := congrArg Char.toNat h
        rw [toNat_ofNat (.inl (by omega)), show replacement.toNat = 0xFFFD from rfl] at hval
        omega
      · exact List.mem_append_right _ (ih h)
  · intro h
    obtain ⟨before, after, rfl⟩ := List.append_of_mem h
    rw [decode_append_single hb]
    simp

end LineShell.Utf8
