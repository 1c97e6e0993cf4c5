import CardFirmware.Control.Payload
import CardFirmware.Proofs.Bytes

/-! The payload of an update request as bytes. Fifty-six bytes are the fields of one, whatever they
are, so decoding can only fail for want of them or for the size that they state; what it accepts is
what encoding produces (`decode_decided`). -/

namespace CardFirmware.FirmwarePayload

open Bytes (le16 le32)

variable {p : FirmwarePayload} {b : Bytes}

/-- The fields one after the other, behind a size that need not be that of the data. -/
def image (size : UInt32) (p : FirmwarePayload) : Bytes :=
  le32 size ++ (le16 p.vid ++ (le16 p.pid ++ (p.sha256.bytes ++ (p.md5.bytes ++ p.data))))

theorem encode_eq_image (p : FirmwarePayload) :
    p.encode = p.image (UInt32.ofNat p.data.length) := by
  simp only [encode, image, List.append_assoc]

theorem length_image (size : UInt32) (p : FirmwarePayload) :
    (p.image size).length = headerLength + p.data.length := by
  simp only [image, List.length_append, Bytes.length_le32, Bytes.length_le16, p.sha256.length_eq,
    p.md5.length_eq, headerLength]
  omega

theorem length_encode (p : FirmwarePayload) : p.encode.length = headerLength + p.data.length := by
  rw [encode_eq_image, length_image]

theorem readHeader_image (size : UInt32) (p : FirmwarePayload) :
    readHeader (p.image size) = some (size, p) := by
  simp only [readHeader, image, Bytes.readLe32_le32, Bytes.readLe16_le16, Octets.split_append,
    Option.bind_eq_bind, Option.bind_some]

theorem eq_of_readHeader {size : UInt32} (h : readHeader b = some (size, p)) :
    b = p.image size := by
  simp only [readHeader, Option.bind_eq_bind, Option.bind_eq_some_iff, Prod.exists] at h
  obtain ⟨size', b₁, h₁, vid, b₂, h₂, pid, b₃, h₃, sha256, b₄, h₄, md5, data, h₅, heq⟩ := h
  cases heq
  rw [image, Bytes.eq_of_readLe32 h₁, Bytes.eq_of_readLe16 h₂, Bytes.eq_of_readLe16 h₃,
    Octets.eq_of_split h₄, Octets.eq_of_split h₅]

theorem decode_image (size : UInt32) (p : FirmwarePayload) :
    decode (p.image size) =
      if size.toNat = p.data.length then .ok p
      else .error (.length size.toNat p.data.length) := by
  rw [decode, readHeader_image]

theorem exists_image (hb : headerLength ≤ b.length) :
    ∃ (size : UInt32) (p : FirmwarePayload), b = p.image size := by
  obtain ⟨n, hn⟩ := Nat.exists_eq_add_of_le' hb
  rw [headerLength] at hn
  obtain ⟨size, b₁, rfl, h₁⟩ := Bytes.exists_le32 (n := n + 52) hn
  obtain ⟨vid, b₂, rfl, h₂⟩ := Bytes.exists_le16 (n := n + 50) h₁
  obtain ⟨pid, b₃, rfl, h₃⟩ := Bytes.exists_le16 (n := n + 48) h₂
  obtain ⟨sha256, b₄, rfl, h₄⟩ := Octets.exists_append (n := 32) (m := n + 16) h₃
  obtain ⟨md5, data, rfl, -⟩ := Octets.exists_append (n := 16) h₄
  exact ⟨size, ⟨vid, pid, sha256, md5, data⟩, rfl⟩

theorem decode_of_short (hb : b.length < headerLength) :
    decode b = .error (.tooShort headerLength b.length) := by
  match h : readHeader b with
  | none => rw [decode, h]
  | some (size, p) =>
    rw [eq_of_readHeader h, length_image] at hb
    omega

theorem decode_encode (h : p.data.length < UInt32.size) : decode p.encode = .ok p := by
  rw [encode_eq_image, decode_image, if_pos (UInt32.toNat_ofNat_of_lt' h)]

theorem decode_eq_ok : decode b = .ok p ↔ p.data.length < UInt32.size ∧ p.encode = b := by
  constructor
  · intro h
    rcases Nat.lt_or_ge b.length headerLength with hshort | hb
    · rw [decode_of_short hshort] at h
      cases h
    · obtain ⟨size, q, rfl⟩ := exists_image hb
      rw [decode_image] at h
      split at h
      · next hsize =>
        cases h
        rw [encode_eq_image, ← hsize, UInt32.ofNat_toNat]
        exact ⟨size.toNat_lt_size, rfl⟩
      · cases h
  · rintro ⟨hlength, rfl⟩
    exact decode_encode hlength

structure Laid (p : FirmwarePayload) (b : Bytes) : Prop where
  size : Bytes.littleEndian (b.take 4) = p.data.length
  vid : Bytes.littleEndian ((b.drop 4).take 2) = p.vid.toNat
  pid : Bytes.littleEndian ((b.drop 6).take 2) = p.pid.toNat
  sha256 : (b.drop 8).take 32 = p.sha256.bytes
  md5 : (b.drop 40).take 16 = p.md5.bytes
  data : b.drop 56 = p.data

theorem take_image (size : UInt32) (p : FirmwarePayload) : (p.image size).take 4 = le32 size := rfl

theorem laid_image {size : UInt32} (hsize : size.toNat = p.data.length) :
    p.Laid (p.image size) := by
  have hsha256 := p.sha256.length_eq
  have hmd5 := p.md5.length_eq
  have hdigests : (p.image size).drop 8 = p.sha256.bytes ++ (p.md5.bytes ++ p.data) := rfl
  have hlast : (p.image size).drop 40 = p.md5.bytes ++ p.data := by
    rw [← List.drop_drop (i := 32) (j := 8), hdigests, List.drop_left' hsha256]
  constructor
  · rw [take_image, Bytes.littleEndian_le32, hsize]
  · exact Bytes.littleEndian_le16 p.vid
  · exact Bytes.littleEndian_le16 p.pid
  · rw [hdigests, List.take_left' hsha256]
  · rw [hlast, List.take_left' hmd5]
  · rw [← List.drop_drop (i := 16) (j := 40), hlast, List.drop_left' hmd5]

/-- Decoding accepts exactly what encoding produces of data that a word can count, with the fields
at their places. Fewer bytes than a header are too short, and otherwise the size that is stated
decides: it is that of the data, or the payload is refused with both. -/
theorem decode_decided :
    (∀ b p, decode b = .ok p ↔ p.data.length < UInt32.size ∧ p.encode = b) ∧
    (∀ b p, decode b = .ok p → p.Laid b ∧ b.length = headerLength + p.data.length) ∧
    (∀ b, b.length < headerLength → decode b = .error (.tooShort headerLength b.length)) ∧
    ∀ b, headerLength ≤ b.length →
      let size := Bytes.littleEndian (b.take 4)
      let actual := b.length - headerLength
      (size = actual → ∃ p, decode b = .ok p) ∧
        (size ≠ actual → decode b = .error (.length size actual)) := by
  refine ⟨fun b p => decode_eq_ok, fun b p h => ?_, fun b => decode_of_short, fun b hb => ?_⟩
  · obtain ⟨hlength, rfl⟩ := decode_eq_ok.mp h
    refine ⟨?_, p.length_encode⟩
    rw [encode_eq_image]
    exact laid_image (UInt32.toNat_ofNat_of_lt' hlength)
  · obtain ⟨size, p, rfl⟩ := exists_image hb
    rw [take_image, Bytes.littleEndian_le32, length_image, Nat.add_sub_cancel_left, decode_image]
    exact ⟨fun hsize => ⟨p, if_pos hsize⟩, fun hsize => if_neg hsize⟩

example : decode (List.replicate 57 0) = .error (.length 0 1) := rfl

end CardFirmware.FirmwarePayload
