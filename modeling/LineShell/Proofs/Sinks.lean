import LineShell.Stream.Device
/-!
# What a sink takes

Two kinds of sink matter to a run: one that takes all it is given, and one that takes a number of bytes
in all and then denies every write. Both may take little at a time and be interrupted. The first takes
every piece (`putAll_of_takesAll`), the second the first bytes that still fit (`putAll_of_closes`),
however the bytes are cut into pieces. `NeverFails` and `DiesAfter` are these two with flushes that
work.
-/

namespace LineShell

/-- A device on which nothing goes wrong: every write takes something, and every flush works. -/
structure Device.NeverFails (device : Device) : Prop where
  takes : ∀ past bytes, bytes ≠ [] → ∃ most, 0 < most ∧ device.answer past bytes = .take most
  flushes : ∀ past, device.flush past = none

theorem Device.neverFails_reliable : Device.reliable.NeverFails where
  takes _ bytes hne := ⟨bytes.length, List.length_pos_iff.2 hne, rfl⟩
  flushes _ := rfl

/-- Every write on the device takes something. What its flushes do is left open. -/
def Device.TakesAll (device : Device) : Prop :=
  ∀ past bytes, bytes ≠ [] → ∃ most, 0 < most ∧ device.answer past bytes = .take most

theorem Device.NeverFails.takesAll {device : Device} (h : device.NeverFails) : device.TakesAll :=
  h.takes

/-- The failure that a denied write comes to. -/
def Denial.fault : Denial → Fault
  | .fails fault _ => fault
  | .takesNothing => .tookNothing

/-- The device takes `limit` bytes in all: up to there every write takes something, and behind it every
write is denied, with one of these failures. What its flushes do is left open. -/
structure Device.Closes (device : Device) (limit : Nat) (faults : Fault → Prop) : Prop where
  takes : ∀ past bytes, bytes ≠ [] → past.taken < limit →
    ∃ most, 0 < most ∧ past.taken + min most bytes.length ≤ limit ∧
      device.answer past bytes = .take most
  denies : ∀ past bytes, bytes ≠ [] → limit ≤ past.taken →
    ∃ denial : Denial, faults denial.fault ∧ device.answer past bytes = denial.answer

theorem Device.Closes.mono {device : Device} {limit : Nat} {faults faults' : Fault → Prop}
    (h : device.Closes limit faults) (hfaults : ∀ fault, faults fault → faults' fault) :
    device.Closes limit faults' where
  takes := h.takes
  denies past bytes hne hroom := by
    obtain ⟨denial, hfault, hanswer⟩ := h.denies past bytes hne hroom
    exact ⟨denial, hfaults _ hfault, hanswer⟩

theorem Device.closes_limited {device : Device} (h : device.TakesAll) (limit : Nat) (denial : Denial) :
    (device.limited limit denial).Closes limit (· = denial.fault) where
  takes past bytes hne hroom := by
    obtain ⟨most, hpos, hanswer⟩ := h past bytes hne
    refine ⟨min most (limit - past.taken), by omega, by omega, ?_⟩
    simp [limited, Nat.not_le_of_lt hroom, hanswer]
  denies past bytes _ hroom := ⟨denial, rfl, by simp [limited, hroom]⟩

namespace Sink

/-- The sink takes `room` more bytes in all, and fails every write after them with `fault`. -/
def DiesAfter (sink : Sink) (room : Nat) (fault : Fault) : Prop :=
  ∃ device total denial, Device.NeverFails device ∧ sink.device = device.limited total denial ∧
    total - sink.past.taken = room ∧ denial.fault = fault

theorem diesAfter_limited {device : Device} (h : device.NeverFails) (room : Nat) (denial : Denial) :
    DiesAfter { device := device.limited room denial } room denial.fault :=
  ⟨device, room, denial, h, rfl, rfl, rfl⟩

variable {sink : Sink} {bytes : Bytes} {room limit : Nat} {fault : Fault} {faults : Fault → Prop}

/-! ## One call -/

/-- The sink after a write: the same device, `count` more bytes taken, and no flush. -/
structure Advances (sink after : Sink) (count : Nat) : Prop where
  device : after.device = sink.device
  taken : after.past.taken = sink.past.taken + count
  flushes : after.past.flushes = sink.past.flushes

theorem Advances.trans {mid after : Sink} {m n : Nat} (h : sink.Advances mid m)
    (h' : mid.Advances after n) : sink.Advances after (m + n) where
  device := h'.device.trans h.device
  taken := by rw [h'.taken, h.taken, Nat.add_assoc]
  flushes := h'.flushes.trans h.flushes

/-- A call counts the bytes that it takes. -/
theorem advances_write (sink : Sink) (bytes : Bytes) :
    sink.Advances (sink.write bytes).2
      (match (sink.write bytes).1 with | .ok n => n | .error _ => 0) := by
  unfold write
  split
  · exact ⟨rfl, rfl, rfl⟩
  · split <;> exact ⟨rfl, rfl, rfl⟩

/-- A call on a sink that takes all is interrupted or takes something. -/
theorem write_of_takesAll (h : sink.device.TakesAll) (hne : bytes ≠ []) :
    (sink.write bytes).1 = .error (.plain .interrupted) ∨
      ∃ n, (sink.write bytes).1 = .ok (n + 1) := by
  obtain ⟨most, hpos, hanswer⟩ := h sink.past bytes hne
  have hlen := List.length_pos_iff.2 hne
  unfold write
  split
  · exact .inl rfl
  · refine .inr ⟨min most bytes.length - 1, ?_⟩
    rw [hanswer]
    exact congrArg Except.ok (by omega)

/-- A call on a sink that closes is interrupted, or takes some of what fits, or is denied because
nothing fits any more. -/
theorem write_of_closes (h : sink.device.Closes limit faults) (hne : bytes ≠ []) :
    (sink.write bytes).1 = .error (.plain .interrupted) ∨
      (∃ n, (sink.write bytes).1 = .ok (n + 1) ∧ sink.past.taken + (n + 1) ≤ limit) ∨
      limit ≤ sink.past.taken ∧ ∃ fault, faults fault ∧
        ((sink.write bytes).1 = .error fault ∧ fault.kind ≠ .interrupted ∨
          (sink.write bytes).1 = .ok 0 ∧ fault = .tookNothing) := by
  have hlen := List.length_pos_iff.2 hne
  unfold write
  split
  · exact .inl rfl
  · by_cases hroom : sink.past.taken < limit
    · obtain ⟨most, hpos, hfits, hanswer⟩ := h.takes sink.past bytes hne hroom
      rw [hanswer]
      refine .inr (.inl ⟨min most bytes.length - 1, ?_, by omega⟩)
      exact congrArg Except.ok (by omega)
    · obtain ⟨denial, hfault, hanswer⟩ := h.denies sink.past bytes hne (Nat.le_of_not_lt hroom)
      rw [hanswer]
      refine .inr (.inr ⟨Nat.le_of_not_lt hroom, denial.fault, hfault, ?_⟩)
      cases denial with
      | fails fault lasting => exact .inl ⟨rfl, lasting⟩
      | takesNothing => exact .inr ⟨by simp [Denial.answer], rfl⟩

/-! ## Writing everything -/

theorem advances_put (sink : Sink) (bytes : Bytes) :
    sink.Advances (sink.put bytes).sink (sink.put bytes).taken.length := by
  fun_induction put sink bytes with
  | case1 => exact ⟨rfl, rfl, rfl⟩
  | case2 sink bytes _ fault after h _ ih =>
    have hcall := advances_write sink bytes
    rw [h] at hcall
    simpa using hcall.trans ih
  | case3 sink bytes _ fault after h =>
    have hcall := advances_write sink bytes
    rwa [h] at hcall
  | case4 sink bytes _ after h =>
    have hcall := advances_write sink bytes
    rwa [h] at hcall
  | case5 sink bytes _ n after h rest ih =>
    have hcall := advances_write sink bytes
    have hlen := le_length_of_write h
    rw [h] at hcall
    have hboth := hcall.trans ih
    show sink.Advances rest.sink (bytes.take (n + 1) ++ rest.taken).length
    rwa [List.length_append, List.length_take, Nat.min_eq_left hlen]

/-- A sink that takes all takes all the bytes. -/
theorem fault?_put_of_takesAll (h : sink.device.TakesAll) : (sink.put bytes).fault? = none := by
  fun_induction put sink bytes with
  | case1 => rfl
  | case2 sink bytes _ fault after hw _ ih =>
    exact ih (by have := (advances_write sink bytes).device; rw [hw] at this; rwa [this])
  | case3 sink bytes hne fault after hw hkind =>
    rcases write_of_takesAll h hne with he | ⟨n, he⟩ <;> rw [hw] at he
    · exact absurd (by rw [Except.error.inj he]; rfl) hkind
    · cases he
  | case4 sink bytes hne after hw =>
    rcases write_of_takesAll h hne with he | ⟨n, he⟩ <;> rw [hw] at he <;> cases he
  | case5 sink bytes _ n after hw rest ih =>
    exact ih (by have := (advances_write sink bytes).device; rw [hw] at this; rwa [this])

/-- A sink that closes takes the first bytes that fit, and fails exactly when some do not. -/
theorem put_of_closes (h : sink.device.Closes limit faults) :
    (sink.put bytes).taken = bytes.take (limit - sink.past.taken) ∧
      ((sink.put bytes).fault? = none ∧ bytes.length ≤ limit - sink.past.taken ∨
        ∃ fault, faults fault ∧ (sink.put bytes).fault? = some fault ∧
          limit - sink.past.taken < bytes.length) := by
  fun_induction put sink bytes with
  | case1 => exact ⟨by simp, .inl ⟨rfl, by simp⟩⟩
  | case2 sink bytes hne fault' after hw hkind ih =>
    have hcall := advances_write sink bytes
    rw [hw] at hcall
    have hafter := ih (by rw [hcall.device]; exact h)
    rwa [show after.past.taken = sink.past.taken from hcall.taken] at hafter
  | case3 sink bytes hne fault' after hw hkind =>
    have hcases := write_of_closes h hne
    rw [hw] at hcases
    rcases hcases with he | ⟨n, he, -⟩ | ⟨hfull, fault, hfault, ⟨he, -⟩ | ⟨he, -⟩⟩
    · exact absurd (by rw [Except.error.inj he]; rfl) hkind
    · cases he
    · obtain rfl := Except.error.inj he
      rw [Nat.sub_eq_zero_of_le hfull]
      exact ⟨rfl, .inr ⟨_, hfault, rfl, List.length_pos_iff.2 hne⟩⟩
    · cases he
  | case4 sink bytes hne after hw =>
    have hcases := write_of_closes h hne
    rw [hw] at hcases
    rcases hcases with he | ⟨n, he, -⟩ | ⟨hfull, fault, hfault, ⟨he, -⟩ | ⟨-, rfl⟩⟩
    · cases he
    · cases he
    · cases he
    · rw [Nat.sub_eq_zero_of_le hfull]
      exact ⟨rfl, .inr ⟨_, hfault, rfl, List.length_pos_iff.2 hne⟩⟩
  -- Some bytes were taken, so there is less room for the others.
  | case5 sink bytes hne n after hw rest ih =>
    have hcases := write_of_closes h hne
    have hcall := advances_write sink bytes
    have hlen := le_length_of_write hw
    rw [hw] at hcases hcall
    rcases hcases with he | ⟨k, he, hroom⟩ | ⟨-, fault, -, ⟨he, -⟩ | ⟨he, -⟩⟩
    · cases he
    · obtain rfl : n = k := by simpa using Except.ok.inj he
      obtain ⟨htaken, hfault⟩ := ih (by rw [hcall.device]; exact h)
      rw [show after.past.taken = sink.past.taken + (n + 1) from hcall.taken] at htaken hfault
      rw [List.length_drop] at hfault
      refine ⟨?_, ?_⟩
      · show bytes.take (n + 1) ++ rest.taken = _
        rw [htaken, ← List.take_add]
        congr 1
        omega
      · rcases hfault with ⟨hnone, hfit⟩ | ⟨fault, hfault, hsome, hover⟩
        · exact .inl ⟨hnone, by omega⟩
        · exact .inr ⟨fault, hfault, hsome, by omega⟩
    · cases he
    · cases he

/-! ## Writing pieces -/

theorem putAll_cons_of_some {piece : Bytes} (h : (sink.put piece).fault? = some fault)
    (pieces : List Bytes) : sink.putAll (piece :: pieces) = sink.put piece := by
  simp only [putAll, h]

theorem putAll_cons_of_none {piece : Bytes} (h : (sink.put piece).fault? = none)
    (pieces : List Bytes) :
    sink.putAll (piece :: pieces)
      = { (sink.put piece).sink.putAll pieces with
          taken := (sink.put piece).taken ++ ((sink.put piece).sink.putAll pieces).taken } := by
  simp only [putAll, h]

theorem advances_putAll (sink : Sink) (pieces : List Bytes) :
    sink.Advances (sink.putAll pieces).sink (sink.putAll pieces).taken.length := by
  induction pieces generalizing sink with
  | nil => exact ⟨rfl, rfl, rfl⟩
  | cons piece pieces ih =>
    cases hfault : (sink.put piece).fault? with
    | some fault =>
      rw [putAll_cons_of_some hfault]
      exact advances_put sink piece
    | none =>
      rw [putAll_cons_of_none hfault, List.length_append]
      exact (advances_put sink piece).trans (ih _)

/-- A sink that takes all takes every piece. -/
theorem putAll_of_takesAll (h : sink.device.TakesAll) (pieces : List Bytes) :
    (sink.putAll pieces).taken = pieces.flatten ∧ (sink.putAll pieces).fault? = none := by
  induction pieces generalizing sink with
  | nil => exact ⟨rfl, rfl⟩
  | cons piece pieces ih =>
    have hnone : (sink.put piece).fault? = none := fault?_put_of_takesAll h
    obtain ⟨htaken, hfault⟩ := @ih (sink.put piece).sink (by rwa [(advances_put sink piece).device])
    rw [putAll_cons_of_none hnone, List.flatten_cons]
    exact ⟨by rw [htaken, (taken_put_eq_iff sink piece).2 hnone], hfault⟩

/-- A sink that never fails takes every piece. -/
theorem putAll_of_neverFails (h : sink.device.NeverFails) (pieces : List Bytes) :
    (sink.putAll pieces).taken = pieces.flatten ∧ (sink.putAll pieces).fault? = none ∧
      (sink.putAll pieces).sink.device.NeverFails := by
  obtain ⟨htaken, hfault⟩ := putAll_of_takesAll h.takesAll pieces
  exact ⟨htaken, hfault, by rwa [(advances_putAll sink pieces).device]⟩

/-- Of all the pieces together, a sink that closes takes the first bytes that fit. -/
theorem putAll_of_closes (h : sink.device.Closes limit faults) (pieces : List Bytes) :
    (sink.putAll pieces).taken = pieces.flatten.take (limit - sink.past.taken) ∧
      ((sink.putAll pieces).fault? = none ∧ pieces.flatten.length ≤ limit - sink.past.taken ∨
        ∃ fault, faults fault ∧ (sink.putAll pieces).fault? = some fault ∧
          limit - sink.past.taken < pieces.flatten.length) := by
  induction pieces generalizing sink with
  | nil => exact ⟨by simp, .inl ⟨rfl, by simp⟩⟩
  | cons piece pieces ih =>
    obtain ⟨htaken, hfault⟩ := @put_of_closes sink piece _ _ h
    have hfirst := advances_put sink piece
    obtain ⟨htaken', hfault'⟩ := @ih (sink.put piece).sink (by rwa [hfirst.device])
    rw [List.flatten_cons, List.length_append]
    rcases hfault with ⟨hnone, hfit⟩ | ⟨fault, hfault, hsome, hover⟩
    · rw [hfirst.taken, (taken_put_eq_iff sink piece).2 hnone, ← Nat.sub_sub] at htaken' hfault'
      rw [putAll_cons_of_none hnone]
      refine ⟨?_, ?_⟩
      · rw [htaken, htaken', List.take_append]
      · rcases hfault' with ⟨hnone', hfit'⟩ | ⟨fault, hfault, hsome, hover⟩
        · exact .inl ⟨hnone', by omega⟩
        · exact .inr ⟨fault, hfault, hsome, by omega⟩
    · -- The first piece already fails, so the others are not offered at all.
      rw [putAll_cons_of_some hsome]
      refine ⟨?_, .inr ⟨fault, hfault, hsome, by omega⟩⟩
      rw [htaken, List.take_append_of_le_length (by omega)]

/-! ## Sinks that die -/

theorem DiesAfter.closes (h : sink.DiesAfter room fault) :
    ∃ limit, sink.device.Closes limit (· = fault) ∧ limit - sink.past.taken = room := by
  obtain ⟨device, total, denial, hnever, hdev, rfl, rfl⟩ := h
  exact ⟨total, hdev ▸ Device.closes_limited hnever.takesAll total denial, rfl⟩

/-- What a dying sink took leaves less room. -/
theorem DiesAfter.of_taken {after : Sink} {count : Nat} (h : sink.DiesAfter room fault)
    (hdevice : after.device = sink.device) (htaken : after.past.taken = sink.past.taken + count) :
    after.DiesAfter (room - count) fault := by
  obtain ⟨device, total, denial, hnever, hdev, rfl, rfl⟩ := h
  exact ⟨device, total, denial, hnever, hdevice.trans hdev, by omega, rfl⟩

/-- Of all the pieces together, a dying sink takes the first bytes that fit. -/
theorem putAll_of_diesAfter (h : sink.DiesAfter room fault) (pieces : List Bytes) :
    (sink.putAll pieces).taken = pieces.flatten.take room ∧
      (sink.putAll pieces).fault? = (if pieces.flatten.length ≤ room then none else some fault) ∧
      (sink.putAll pieces).sink.DiesAfter (room - pieces.flatten.length) fault := by
  obtain ⟨limit, hcloses, hroom⟩ := h.closes
  obtain ⟨htaken, hfault⟩ := putAll_of_closes hcloses pieces
  rw [hroom] at htaken hfault
  have hall := sink.advances_putAll pieces
  refine ⟨htaken, ?_, ?_⟩
  · rcases hfault with ⟨hnone, hfit⟩ | ⟨_, rfl, hsome, hover⟩
    · rw [hnone, if_pos hfit]
    · rw [hsome, if_neg (Nat.not_le_of_lt hover)]
  · have hafter := h.of_taken hall.device hall.taken
    rwa [htaken, List.length_take, ← Nat.sub_eq_sub_min] at hafter

/-! ## Flushing -/

theorem flush_of_neverFails (h : sink.device.NeverFails) :
    sink.flush.1 = none ∧ sink.flush.2.device.NeverFails := ⟨h.flushes _, h⟩

theorem flush_of_diesAfter (h : sink.DiesAfter room fault) :
    sink.flush.1 = none ∧ sink.flush.2.DiesAfter room fault := by
  obtain ⟨device, total, denial, hnever, hdev, hroom, hfault⟩ := h
  refine ⟨?_, device, total, denial, hnever, hdev, hroom, hfault⟩
  unfold flush
  rw [hdev]
  exact hnever.flushes _

end Sink

end LineShell
