import CardFirmware.Bytes

/-! Fields in byte strings. Bytes enough for a field begin with one, whatever they are, and what it
holds is the number that its bytes are the digits of. -/

namespace CardFirmware

namespace Bytes

def littleEndian : Bytes → Nat
  | [] => 0
  | b :: rest => b.toNat + 256 * littleEndian rest

theorem littleEndian_le16 (v : UInt16) : littleEndian (le16 v) = v.toNat := by
  have hv := v.toNat_lt
  simp only [le16, littleEndian, UInt8.toNat_ofNat']
  omega

theorem littleEndian_le32 (v : UInt32) : littleEndian (le32 v) = v.toNat := by
  have hv := v.toNat_lt
  simp only [le32, littleEndian, UInt8.toNat_ofNat']
  omega

theorem exists_byte {b : Bytes} {n : Nat} (h : b.length = n + 1) :
    ∃ v rest, b = v :: rest ∧ rest.length = n := by
  match b, h with
  | v :: rest, h => exact ⟨v, rest, rfl, Nat.succ.inj h⟩

theorem exists_le16 {b : Bytes} {n : Nat} (h : b.length = n + 2) :
    ∃ v rest, b = le16 v ++ rest ∧ rest.length = n := by
  match b, h with
  | _ :: _ :: rest, h => exact ⟨_, rest, eq_of_readLe16 rfl, Nat.add_right_cancel (m := 2) h⟩

theorem exists_le32 {b : Bytes} {n : Nat} (h : b.length = n + 4) :
    ∃ v rest, b = le32 v ++ rest ∧ rest.length = n := by
  match b, h with
  | _ :: _ :: _ :: _ :: rest, h =>
    exact ⟨_, rest, eq_of_readLe32 rfl, Nat.add_right_cancel (m := 4) h⟩

theorem exists_eq_le16 {b : Bytes} (h : b.length = 2) : ∃ v, b = le16 v := by
  obtain ⟨v, rest, rfl, hrest⟩ := exists_le16 h
  obtain rfl := List.eq_nil_of_length_eq_zero hrest
  exact ⟨v, List.append_nil _⟩

theorem exists_eq_le32 {b : Bytes} (h : b.length = 4) : ∃ v, b = le32 v := by
  obtain ⟨v, rest, rfl, hrest⟩ := exists_le32 h
  obtain rfl := List.eq_nil_of_length_eq_zero hrest
  exact ⟨v, List.append_nil _⟩

theorem exists_fields {α : Type} {write : α → Bytes} {k : Nat}
    (hwrite : ∀ {b : Bytes} {n : Nat}, b.length = n + k →
      ∃ v rest, b = write v ++ rest ∧ rest.length = n)
    {b : Bytes} {n : Nat} (h : b.length = k * n) :
    ∃ values : List α, b = values.flatMap write ∧ values.length = n := by
  induction n generalizing b with
  | zero => exact ⟨[], List.eq_nil_of_length_eq_zero h, rfl⟩
  | succ n ih =>
    obtain ⟨v, rest, rfl, hrest⟩ := hwrite h
    obtain ⟨values, rfl, hvalues⟩ := ih hrest
    exact ⟨v :: values, rfl, congrArg (· + 1) hvalues⟩

end Bytes

namespace Octets

variable {n : Nat} {b : Bytes}

theorem eq_of_split {o : Octets n} {rest : Bytes} (h : split n b = some (o, rest)) :
    b = o.bytes ++ rest := by
  unfold split at h
  split at h
  · cases h
    exact (List.take_append_drop n b).symm
  · cases h

theorem exists_append {m : Nat} (h : b.length = m + n) :
    ∃ (o : Octets n) (rest : Bytes), b = o.bytes ++ rest ∧ rest.length = m := by
  refine ⟨⟨b.take n, List.length_take_of_le (by omega)⟩, b.drop n, ?_, ?_⟩
  · exact (List.take_append_drop n b).symm
  · rw [List.length_drop, h, Nat.add_sub_cancel]

end Octets

end CardFirmware
