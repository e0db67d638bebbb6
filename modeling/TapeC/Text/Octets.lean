import TapeC.Text.Utf8

/-!
# Octets as characters

A byte text as the list of the characters with the same numbers, for readers that look at single
bytes, most of them ASCII. `ofChars_toChars` says that this view loses nothing.
-/

namespace TapeC.Octets

def toChars (bs : Bytes) : List Char := bs.map fun b => Char.ofNat b.toNat

/-- The bytes with the numbers of the characters, which are below 256. -/
def ofChars (cs : List Char) : Bytes := cs.map fun c => c.toNat.toUInt8

theorem toNat_ofNat (b : UInt8) : (Char.ofNat b.toNat).toNat = b.toNat := by
  have h : b.toNat < 256 := b.toNat_lt
  have hv : b.toNat.isValidChar := Or.inl (by omega)
  unfold Char.ofNat
  rw [dif_pos hv]
  rfl

theorem ofChars_toChars (bs : Bytes) : ofChars (toChars bs) = bs := by
  have h (b : UInt8) : (Char.ofNat b.toNat).toNat.toUInt8 = b := by
    rw [toNat_ofNat]
    exact UInt8.ofNat_toNat
  rw [ofChars, toChars, List.map_map]
  exact (List.map_congr_left fun b _ => h b).trans (List.map_id bs)

end TapeC.Octets
