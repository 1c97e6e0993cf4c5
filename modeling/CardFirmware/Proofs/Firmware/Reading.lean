import CardFirmware.Firmware.File

/-! What the readers of a firmware file take off the bytes in front of them. Every field is read
exactly if it is written there: a reader gives a value and a rest if and only if the bytes are the
written value and the rest. -/

namespace CardFirmware

theorem FirmwareKind.length_magic (kind : FirmwareKind) : kind.magic.length = 8 := by
  cases kind <;> rfl

theorem FirmwareKind.ofMagic?_eq_some {b : Bytes} {kind : FirmwareKind} :
    ofMagic? b = some kind ↔ b = kind.magic := by
  constructor
  · intro h
    have hmagic := List.find?_some h
    exact (of_decide_eq_true hmagic).symm
  · rintro rfl
    cases kind <;> rfl

namespace FirmwareFile

open Bytes

variable {α β : Type} {size : Nat} {b rest : Bytes}

/-- The reader takes `a` off the front of `b` and leaves `rest`. -/
def Takes (r : Reader α) (b : Bytes) (a : α) (rest : Bytes) : Prop := r.run b = .ok (a, rest)

@[simp] theorem takes_pure {a v : α} :
    Takes (pure a) b v rest ↔ v = a ∧ b = rest := by
  constructor
  · intro h
    cases h
    exact ⟨rfl, rfl⟩
  · rintro ⟨rfl, rfl⟩
    rfl

@[simp] theorem takes_throw {e : FirmwareError} {a : α} : ¬Takes (throw e) b a rest := by
  intro h
  cases h

theorem takes_bind {r : Reader α} {f : α → Reader β} {x : β} :
    Takes (r >>= f) b x rest ↔ ∃ a mid, Takes r b a mid ∧ Takes (f a) mid x rest := by
  unfold Takes
  rw [StateT.run_bind]
  cases hr : r.run b with
  | error e =>
    constructor
    · intro h
      cases h
    · rintro ⟨a, mid, ⟨⟩, -⟩
  | ok out =>
    obtain ⟨a, mid⟩ := out
    constructor
    · intro h
      exact ⟨a, mid, rfl, h⟩
    · rintro ⟨a', mid', ⟨⟩, h⟩
      exact h

theorem takes_take {n : Nat} {data : Bytes} :
    Takes (take size n) b data rest ↔ b = data ++ rest ∧ data.length = n := by
  change take size n b = .ok (data, rest) ↔ _
  unfold take
  split
  · next hn =>
    constructor
    · intro h
      cases h
      exact ⟨(List.take_append_drop n b).symm, List.length_take_of_le hn⟩
    · rintro ⟨rfl, rfl⟩
      rw [List.take_left, List.drop_left]
  · next hn =>
    constructor
    · intro h
      cases h
    · rintro ⟨rfl, rfl⟩
      rw [List.length_append] at hn
      omega

theorem takes_octets {n : Nat} {o : Octets n} :
    Takes (octets size n) b o rest ↔ b = o.bytes ++ rest := by
  change octets size n b = .ok (o, rest) ↔ _
  unfold octets
  constructor
  · intro h
    unfold Octets.split at h
    split at h
    · next r hr =>
      split at hr
      · cases hr
        cases h
        exact (List.take_append_drop n b).symm
      · cases hr
    · cases h
  · rintro rfl
    rw [Octets.split_append]

theorem takes_word16 {v : UInt16} : Takes (word16 size) b v rest ↔ b = be16 v ++ rest := by
  unfold word16
  rw [takes_bind]
  constructor
  · rintro ⟨data, mid, htake, hv⟩
    obtain ⟨rfl, hlen⟩ := takes_take.mp htake
    obtain ⟨x, y, rfl⟩ : ∃ x y, data = [x, y] := by
      match data, hlen with
      | [x, y], _ => exact ⟨x, y, rfl⟩
    obtain ⟨rfl, rfl⟩ := takes_pure.mp hv
    rw [be16, ← List.append_nil (le16 _), ← eq_of_readLe16 (b := [y, x]) rfl]
    rfl
  · rintro rfl
    refine ⟨be16 v, rest, takes_take.mpr ⟨rfl, length_be16 v⟩, ?_⟩
    obtain ⟨hv, -⟩ := Prod.mk.inj (Option.some.inj (readLe16_le16 v []))
    rw [be16, List.reverse_reverse]
    exact takes_pure.mpr ⟨hv.symm, rfl⟩

theorem takes_word32 {v : UInt32} : Takes (word32 size) b v rest ↔ b = be32 v ++ rest := by
  unfold word32
  rw [takes_bind]
  constructor
  · rintro ⟨data, mid, htake, hv⟩
    obtain ⟨rfl, hlen⟩ := takes_take.mp htake
    obtain ⟨w, x, y, z, rfl⟩ : ∃ w x y z, data = [w, x, y, z] := by
      match data, hlen with
      | [w, x, y, z], _ => exact ⟨w, x, y, z, rfl⟩
    obtain ⟨rfl, rfl⟩ := takes_pure.mp hv
    rw [be32, ← List.append_nil (le32 _), ← eq_of_readLe32 (b := [z, y, x, w]) rfl]
    rfl
  · rintro rfl
    refine ⟨be32 v, rest, takes_take.mpr ⟨rfl, length_be32 v⟩, ?_⟩
    obtain ⟨hv, -⟩ := Prod.mk.inj (Option.some.inj (readLe32_le32 v []))
    rw [be32, List.reverse_reverse]
    exact takes_pure.mpr ⟨hv.symm, rfl⟩

theorem takes_versionField {v : Version} :
    Takes (versionField size) b v rest ↔ b = v.encode ++ rest := by
  unfold versionField Version.encode
  simp only [takes_bind, takes_word32, takes_pure]
  constructor
  · rintro ⟨major, _, rfl, minor, _, rfl, patch, _, rfl, build, _, rfl, rfl, rfl⟩
    simp only [List.append_assoc]
  · rintro rfl
    simp only [List.append_assoc]
    exact ⟨_, _, rfl, _, _, rfl, _, _, rfl, _, _, rfl, rfl, rfl⟩

end FirmwareFile

end CardFirmware
