import LineShell.Utf8
import Mathlib.Algebra.Group.Nat.Defs
/-!
# The bytes of a character

`form c` is the UTF-8 form of a character: a byte that tells how many follow, and these, each with six
bits of the value. A state of the reader `Follows` some bytes if it knows just the characters whose
form begins with them. `met_next` says, once for all proofs about reading, what one more byte can do:
complete a character, go on with it, break it off, or begin nothing at all.
-/

namespace LineShell.Utf8

/-! ## Forms -/

/-- The bytes of a character. -/
abbrev form (c : Char) : Bytes := String.utf8EncodeChar c

/-- Some character's form begins with these bytes. -/
def Begins (part : Bytes) : Prop := ∃ c, part <+: form c

/-- The last bytes of a longer form, so many: each carries six bits of the value. -/
def continuation (v : Nat) : Nat → Bytes
  | 0 => []
  | k + 1 => UInt8.ofNat (0x80 + v / 64 ^ k % 64) :: continuation v k

@[simp] theorem length_continuation (v k : Nat) : (continuation v k).length = k := by
  induction k with
  | zero => rfl
  | succ k ih => simp [continuation, ih]

theorem isValidChar_toNat (c : Char) : c.toNat.isValidChar := c.valid

theorem toNat_ofNat {v : Nat} (h : v.isValidChar) : (Char.ofNat v).toNat = v := by
  rw [Char.ofNat, dif_pos h]
  rfl

theorem ofNat_eq_of_toNat {n : Nat} {b : UInt8} (h : n = b.toNat) : UInt8.ofNat n = b := by
  rw [h, UInt8.ofNat_toNat]

/-- Forms have one byte to four, as their value needs. -/
theorem form_cases (c : Char) :
    (c.toNat < 0x80 ∧ form c = [UInt8.ofNat c.toNat]) ∨
    (0x80 ≤ c.toNat ∧ c.toNat < 0x800 ∧
      form c = UInt8.ofNat (0xC0 + c.toNat / 64) :: continuation c.toNat 1) ∨
    (0x800 ≤ c.toNat ∧ c.toNat < 0x10000 ∧
      form c = UInt8.ofNat (0xE0 + c.toNat / 64 ^ 2) :: continuation c.toNat 2) ∨
    (0x10000 ≤ c.toNat ∧ c.toNat < 0x110000 ∧
      form c = UInt8.ofNat (0xF0 + c.toNat / 64 ^ 3) :: continuation c.toNat 3) := by
  have hvalid := isValidChar_toNat c
  unfold Nat.isValidChar at hvalid
  have hval : c.val.toNat = c.toNat := rfl
  unfold form String.utf8EncodeChar
  simp only [hval, continuation, Nat.reducePow, Nat.div_one]
  generalize c.toNat = v at *
  by_cases h1 : v ≤ 0x7F
  · exact .inl ⟨by omega, if_pos h1⟩
  by_cases h2 : v ≤ 0x7FF
  · refine .inr (.inl ⟨by omega, by omega, ?_⟩)
    rw [if_neg h1, if_pos h2, show v / 64 % 32 + 192 = 0xC0 + v / 64 by omega, Nat.add_comm _ 128]
  by_cases h3 : v ≤ 0xFFFF
  · refine .inr (.inr (.inl ⟨by omega, by omega, ?_⟩))
    rw [if_neg h1, if_neg h2, if_pos h3, show v / 4096 % 16 + 224 = 0xE0 + v / 4096 by omega,
      Nat.add_comm _ 128, Nat.add_comm _ 128]
  · refine .inr (.inr (.inr ⟨by omega, by omega, ?_⟩))
    rw [if_neg h1, if_neg h2, if_neg h3, show v / 262144 % 8 + 240 = 0xF0 + v / 262144 by omega,
      Nat.add_comm _ 128, Nat.add_comm _ 128, Nat.add_comm _ 128]

theorem form_single {b : UInt8} (hb : b < 0x80) : form (Char.ofNat b.toNat) = [b] := by
  have hlt : b.toNat < 0x80 := hb
  have hval : (Char.ofNat b.toNat).toNat = b.toNat := toNat_ofNat (.inl (by omega))
  rcases form_cases (Char.ofNat b.toNat) with ⟨-, hform⟩ | ⟨h, -⟩ | ⟨h, -⟩ | ⟨h, -⟩
  · rw [hform, hval, UInt8.ofNat_toNat]
  all_goals omega

/-- The first byte of a form, by the value. -/
theorem toNat_of_prefix_form {b : UInt8} {c : Char} (h : [b] <+: form c) :
    (c.toNat < 0x80 ∧ b.toNat = c.toNat) ∨
    (0x80 ≤ c.toNat ∧ c.toNat < 0x800 ∧ b.toNat = 0xC0 + c.toNat / 64) ∨
    (0x800 ≤ c.toNat ∧ c.toNat < 0x10000 ∧ b.toNat = 0xE0 + c.toNat / 64 ^ 2) ∨
    (0x10000 ≤ c.toNat ∧ c.toNat < 0x110000 ∧ b.toNat = 0xF0 + c.toNat / 64 ^ 3) := by
  have hbyte {n : Nat} {rest : Bytes} (hn : n < 256) (hform : form c = UInt8.ofNat n :: rest) :
      b.toNat = n := by
    rw [hform, List.cons_prefix_cons] at h
    rw [h.1, UInt8.toNat_ofNat_of_lt' hn]
  rcases form_cases c with ⟨h1, hform⟩ | ⟨h1, h2, hform⟩ | ⟨h1, h2, hform⟩ | ⟨h1, h2, hform⟩
  · exact .inl ⟨h1, hbyte (by omega) hform⟩
  · exact .inr (.inl ⟨h1, h2, hbyte (by omega) hform⟩)
  · exact .inr (.inr (.inl ⟨h1, h2, hbyte (by omega) hform⟩))
  · exact .inr (.inr (.inr ⟨h1, h2, hbyte (by omega) hform⟩))

/-- The byte that goes on with a form. -/
theorem toNat_of_prefix_continuation {b : UInt8} {v k : Nat} (h : [b] <+: continuation v (k + 1)) :
    b.toNat = 0x80 + v / 64 ^ k % 64 := by
  rw [continuation, List.cons_prefix_cons] at h
  rw [h.1, UInt8.toNat_ofNat_of_lt' (show _ < 256 by omega)]

/-! ## Unfinished characters -/

namespace Unfinished

variable {u : Unfinished} {part : Bytes} {b : UInt8} {n v : Nat}

/-- Whether the character can come to a value: its leading bits are those read, and the next six lie
where the next byte must. -/
def CanBe (u : Unfinished) (v : Nat) : Prop :=
  v / 64 ^ u.after / 64 = u.bits ∧
    u.low.toNat % 64 ≤ v / 64 ^ u.after % 64 ∧ v / 64 ^ u.after % 64 ≤ u.high.toNat % 64

/-- The character was begun with these bytes, which are not all of it: it can be any character whose
form begins with them, and no other. -/
structure Follows (u : Unfinished) (part : Bytes) : Prop where
  low : 0x80 ≤ u.low.toNat
  high : u.high.toNat ≤ 0xBF
  low_le_high : u.low.toNat ≤ u.high.toNat
  valid : ∀ v, u.CanBe v → 0x80 ≤ v ∧ v.isValidChar
  canBe : ∀ c, part <+: form c → u.CanBe c.toNat
  form_eq : ∀ c, u.CanBe c.toNat → form c = part ++ continuation c.toNat (u.after + 1)
  incomplete : ∀ c, ¬ form c <+: part

theorem form_ne_of_canBe (hcan : ∀ c, part <+: form c → u.CanBe c.toNat)
    (hform : ∀ c, u.CanBe c.toNat → form c = part ++ continuation c.toNat (u.after + 1))
    (c : Char) : form c ≠ part := by
  intro heq
  have hlength := congrArg List.length (hform c (hcan c (heq ▸ List.prefix_refl _)))
  rw [heq, List.length_append, length_continuation] at hlength
  omega

/-- The values left by a byte that can come next. -/
theorem canBe_next_iff (hafter : u.after = n + 1) (hlow : u.low.toNat % 64 ≤ b.toNat % 64)
    (hhigh : b.toNat % 64 ≤ u.high.toNat % 64) :
    CanBe ⟨u.bits * 64 + b.toNat % 64, 0x80, 0xBF, n⟩ v ↔
      u.CanBe v ∧ v / 64 ^ u.after % 64 = b.toNat % 64 := by
  have hdiv : v / 64 ^ n / 64 = v / 64 ^ (n + 1) := by rw [Nat.div_div_eq_div_mul, Nat.pow_succ]
  unfold CanBe
  rw [hafter]
  simp only [hdiv, show (0x80 : UInt8).toNat = 128 from rfl, show (0xBF : UInt8).toNat = 191 from rfl]
  omega

namespace Follows

theorem ne_nil (h : u.Follows part) : part ≠ [] := by
  rintro rfl
  have hcan := h.canBe '\x00' List.nil_prefix
  exact absurd (h.valid _ hcan).1 (by decide)

/-- Some character can still come of it. -/
theorem begins (h : u.Follows part) : Begins part := by
  have hlow := h.low
  have hhigh := h.high
  have hle := h.low_le_high
  have hcan : u.CanBe ((u.bits * 64 + u.low.toNat % 64) * 64 ^ u.after) := by
    unfold CanBe
    rw [Nat.mul_div_cancel _ (Nat.pow_pos (by decide))]
    omega
  refine ⟨Char.ofNat ((u.bits * 64 + u.low.toNat % 64) * 64 ^ u.after), ?_⟩
  rw [h.form_eq _ (by rwa [toNat_ofNat (h.valid _ hcan).2])]
  exact List.prefix_append _ _

/-- Where a form goes on, it does with a byte that the reader expects. -/
theorem toNat_next (h : u.Follows part) {c : Char} (hc : part ++ [b] <+: form c) :
    u.CanBe c.toNat ∧ b.toNat = 0x80 + c.toNat / 64 ^ u.after % 64 := by
  have hcan := h.canBe c ((List.prefix_append _ _).trans hc)
  rw [h.form_eq c hcan, List.prefix_append_right_inj] at hc
  exact ⟨hcan, toNat_of_prefix_continuation hc⟩

theorem next (h : u.Follows part) (hafter : u.after = n + 1) (hlow : u.low.toNat ≤ b.toNat)
    (hhigh : b.toNat ≤ u.high.toNat) :
    Follows ⟨u.bits * 64 + b.toNat % 64, 0x80, 0xBF, n⟩ (part ++ [b]) := by
  have hl := h.low
  have hh := h.high
  have hiff {v : Nat} := @canBe_next_iff u b n v hafter (by omega) (by omega)
  have hcan (c : Char) (hc : part ++ [b] <+: form c) :
      CanBe ⟨u.bits * 64 + b.toNat % 64, 0x80, 0xBF, n⟩ c.toNat := by
    obtain ⟨hu, hb⟩ := h.toNat_next hc
    exact hiff.2 ⟨hu, by omega⟩
  have hform (c : Char) (hc : CanBe ⟨u.bits * 64 + b.toNat % 64, 0x80, 0xBF, n⟩ c.toNat) :
      form c = part ++ [b] ++ continuation c.toNat (n + 1) := by
    obtain ⟨hu, hb⟩ := hiff.1 hc
    rw [h.form_eq c hu, continuation, ofNat_eq_of_toNat (show _ = b.toNat by omega), hafter,
      List.append_assoc, List.singleton_append]
  refine ⟨by simp, by simp, by simp, fun v hv => h.valid v (hiff.1 hv).1, hcan, hform, ?_⟩
  intro c hc
  rcases List.prefix_concat_iff.1 hc with heq | hc
  · exact form_ne_of_canBe hcan hform c heq
  · exact h.incomplete c hc

end Follows

end Unfinished

/-! ## The first byte -/

/-- What a first byte tells: how many bytes follow, and what the next one can be. -/
theorem begins?_eq_some {b : UInt8} {u : Unfinished} (h : begins? b = some u) :
    (u.after = 0 ∧ 0xC2 ≤ b.toNat ∧ b.toNat < 0xE0 ∧ u.bits = b.toNat - 0xC0 ∧
      u.low.toNat = 0x80 ∧ u.high.toNat = 0xBF) ∨
    (u.after = 1 ∧ 0xE0 ≤ b.toNat ∧ b.toNat < 0xF0 ∧ u.bits = b.toNat - 0xE0 ∧
      (b.toNat = 0xE0 ∧ u.low.toNat = 0xA0 ∨ b.toNat ≠ 0xE0 ∧ u.low.toNat = 0x80) ∧
      (b.toNat = 0xED ∧ u.high.toNat = 0x9F ∨ b.toNat ≠ 0xED ∧ u.high.toNat = 0xBF)) ∨
    (u.after = 2 ∧ 0xF0 ≤ b.toNat ∧ b.toNat < 0xF5 ∧ u.bits = b.toNat - 0xF0 ∧
      (b.toNat = 0xF0 ∧ u.low.toNat = 0x90 ∨ b.toNat ≠ 0xF0 ∧ u.low.toNat = 0x80) ∧
      (b.toNat = 0xF4 ∧ u.high.toNat = 0x8F ∨ b.toNat ≠ 0xF4 ∧ u.high.toNat = 0xBF)) := by
  unfold begins? at h
  dsimp only at h
  repeat' split at h
  all_goals
    simp only [Option.some.injEq, reduceCtorEq] at h
  all_goals
    subst h
    simp
    omega

theorem begins?_eq_none {b : UInt8} (h : begins? b = none) : b.toNat < 0xC2 ∨ 0xF5 ≤ b.toNat := by
  unfold begins? at h
  dsimp only at h
  grind

theorem follows_of_begins? {b : UInt8} {u : Unfinished} (h : begins? b = some u) : u.Follows [b] := by
  have hcases := begins?_eq_some h
  have hcan (c : Char) (hc : [b] <+: form c) : u.CanBe c.toNat := by
    have hvalid := isValidChar_toNat c
    have hbyte := toNat_of_prefix_form hc
    unfold Nat.isValidChar at hvalid
    rcases hcases with ⟨hafter, hcase⟩ | ⟨hafter, hcase⟩ | ⟨hafter, hcase⟩
    all_goals
      simp only [Unfinished.CanBe, hafter, Nat.reducePow, Nat.div_one]
      omega
  have hform (c : Char) (hc : u.CanBe c.toNat) :
      form c = [b] ++ continuation c.toNat (u.after + 1) := by
    have hcase := form_cases c
    rcases hcases with ⟨hafter, htable⟩ | ⟨hafter, htable⟩ | ⟨hafter, htable⟩
    all_goals simp only [Unfinished.CanBe, hafter, Nat.reducePow, Nat.div_one] at hc
    · obtain ⟨-, -, heq⟩ := (hcase.resolve_left (by omega)).resolve_right (by omega)
      rw [heq, hafter, ofNat_eq_of_toNat (show _ = b.toNat by omega)]
      rfl
    · obtain ⟨-, -, heq⟩ :=
        ((hcase.resolve_left (by omega)).resolve_left (by omega)).resolve_right (by omega)
      rw [heq, hafter, ofNat_eq_of_toNat (show _ = b.toNat by omega)]
      rfl
    · obtain ⟨-, -, heq⟩ :=
        ((hcase.resolve_left (by omega)).resolve_left (by omega)).resolve_left (by omega)
      rw [heq, hafter, ofNat_eq_of_toNat (show _ = b.toNat by omega)]
      rfl
  refine ⟨by omega, by omega, by omega, fun v hv => ?_, hcan, hform, fun c hc => ?_⟩
  · unfold Nat.isValidChar
    rcases hcases with ⟨hafter, hcase⟩ | ⟨hafter, hcase⟩ | ⟨hafter, hcase⟩
    all_goals
      simp only [Unfinished.CanBe, hafter, Nat.reducePow, Nat.div_one] at hv
      omega
  · have hc : form c <+: [] ++ [b] := hc
    rcases List.prefix_concat_iff.1 hc with heq | hc
    · exact Unfinished.form_ne_of_canBe hcan hform c heq
    · exact absurd (List.prefix_nil.1 hc) String.utf8EncodeChar_ne_nil

/-! ## One more byte -/

/-- The state is the one behind these bytes of a character. -/
def Holds : Option Unfinished → Bytes → Prop
  | none, part => part = []
  | some u, part => u.Follows part

theorem holds_none : Holds none [] := rfl

theorem Holds.incomplete {state : Option Unfinished} {part : Bytes} (h : Holds state part) (c : Char) :
    ¬ form c <+: part := by
  cases state with
  | none =>
    obtain rfl : part = [] := h
    simp
  | some u => exact Unfinished.Follows.incomplete h c

/-- What a byte can do behind these bytes of a character. -/
inductive Met (part : Bytes) (b : UInt8) : List Char × Option Unfinished → Prop
  /-- It completes the only character whose form begins so. -/
  | complete (c : Char) : form c = part ++ [b] → (∀ c', part ++ [b] <+: form c' → c' = c) →
      Met part b ([c], none)
  /-- It goes on with the character. -/
  | more (u : Unfinished) : u.Follows (part ++ [b]) → Met part b ([], some u)
  /-- It begins nothing. -/
  | stray : part = [] → ¬ Begins (part ++ [b]) → Met part b ([replacement], none)
  /-- It breaks the character off, and is met afresh. -/
  | broken : part ≠ [] → ¬ Begins (part ++ [b]) →
      Met part b (replacement :: (first b).1, (first b).2)

theorem met_first (b : UInt8) : Met [] b (first b) := by
  unfold first
  by_cases hb : b < 0x80
  · have hlt : b.toNat < 0x80 := hb
    rw [if_pos hb]
    refine .complete _ (form_single hb) fun c hc => ?_
    have hbyte := toNat_of_prefix_form hc
    rw [← Char.ofNat_toNat c, show c.toNat = b.toNat by omega]
  · have hge : 0x80 ≤ b.toNat := UInt8.le_iff_toNat_le.1 (UInt8.not_lt.1 hb)
    rw [if_neg hb]
    cases h : begins? b with
    | some u => exact .more u (follows_of_begins? h)
    | none =>
      refine .stray rfl ?_
      rintro ⟨c, hc⟩
      have hnone := begins?_eq_none h
      have hbyte := toNat_of_prefix_form hc
      omega

theorem met_next {state : Option Unfinished} {part : Bytes} (h : Holds state part) (b : UInt8) :
    Met part b (next state b) := by
  cases state with
  | none =>
    obtain rfl : part = [] := h
    exact met_first b
  | some u =>
    have h : u.Follows part := h
    have hl := h.low
    have hh := h.high
    have hle := h.low_le_high
    by_cases hrange : u.low ≤ b ∧ b ≤ u.high
    case neg =>
      simp only [next, if_neg hrange]
      refine .broken h.ne_nil ?_
      rintro ⟨c, hc⟩
      obtain ⟨⟨-, hlow, hhigh⟩, hb⟩ := h.toNat_next hc
      exact hrange ⟨show u.low.toNat ≤ b.toNat by omega, show b.toNat ≤ u.high.toNat by omega⟩
    have hlow : u.low.toNat ≤ b.toNat := hrange.1
    have hhigh : b.toNat ≤ u.high.toNat := hrange.2
    simp only [next, if_pos hrange]
    split
    · rename_i hafter
      -- The last byte settles the value.
      have hcan : u.CanBe (u.bits * 64 + b.toNat % 64) := by
        simp [Unfinished.CanBe, hafter]
        omega
      have hval : (Char.ofNat (u.bits * 64 + b.toNat % 64)).toNat = u.bits * 64 + b.toNat % 64 :=
        toNat_ofNat (h.valid _ hcan).2
      refine .complete _ ?_ fun c hc => ?_
      · rw [h.form_eq _ (by rwa [hval]), hval, hafter, continuation, Nat.pow_zero, Nat.div_one,
          ofNat_eq_of_toNat (show _ = b.toNat by omega), continuation]
      · obtain ⟨⟨hbits, -⟩, hb⟩ := h.toNat_next hc
        simp only [hafter, Nat.pow_zero, Nat.div_one] at hbits hb
        rw [← Char.ofNat_toNat c, show c.toNat = u.bits * 64 + b.toNat % 64 by omega]
    · rename_i n hafter
      exact .more _ (h.next hafter hlow hhigh)

theorem holds_next {state : Option Unfinished} {part : Bytes} (h : Holds state part) (b : UInt8) :
    ∃ part', Holds (next state b).2 part' := by
  have hfirst : ∃ part', Holds (first b).2 part' := by
    have hmet := met_first b
    generalize first b = r at hmet ⊢
    cases hmet with
    | complete | stray => exact ⟨[], rfl⟩
    | more u hu => exact ⟨_, hu⟩
    | broken hne => exact absurd rfl hne
  have hmet := met_next h b
  generalize next state b = r at hmet ⊢
  cases hmet with
  | complete | stray => exact ⟨[], rfl⟩
  | more u hu => exact ⟨_, hu⟩
  | broken => exact hfirst

end LineShell.Utf8
