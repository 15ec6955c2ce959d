import LineShell.Utf8
/-!
# Text as programs see it

Programs know no characters, only bytes. Text of theirs is kept with one character for each byte, so
that every byte string is such a text and text made of ASCII looks the same to all.
-/

namespace LineShell.Octets

/-- Bytes, one character for each. -/
def ofBytes (bytes : Bytes) : String := String.ofList (bytes.map fun b => Char.ofNat b.toNat)

/-- The bytes that characters stand for. -/
def toBytes (octets : String) : Bytes := octets.toList.map fun c => UInt8.ofNat c.toNat

/-- The bytes of a text. -/
def ofText (text : String) : String := ofBytes (Utf8.encode text)

/-- The text that bytes spell. -/
def toText (octets : String) : String := Utf8.decode (toBytes octets)

/-- A byte is the number of its character. -/
theorem ofNat_toNat_ofNat (b : UInt8) : UInt8.ofNat (Char.ofNat b.toNat).toNat = b := by
  have hb : b.toNat < 256 := b.toNat_lt
  have hv : b.toNat.isValidChar := Or.inl (by omega)
  have hnumber : (Char.ofNat b.toNat).toNat = b.toNat := by
    unfold Char.ofNat
    rw [dif_pos hv]
    rfl
  rw [hnumber, UInt8.ofNat_toNat]

/-- Bytes survive being written as octets. -/
theorem toBytes_ofBytes (bytes : Bytes) : toBytes (ofBytes bytes) = bytes := by
  simp only [toBytes, ofBytes, String.toList_ofList, List.map_map]
  induction bytes with
  | nil => rfl
  | cons b bytes ih =>
    simp only [List.map_cons, Function.comp_apply, ofNat_toNat_ofNat, ih]

end LineShell.Octets
