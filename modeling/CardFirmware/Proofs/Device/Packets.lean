import CardFirmware.Device.Packet
import CardFirmware.Proofs.Device.Replies

/-! The sizes in the packets of commands. Checked arguments fit into a page. The lengths of the
arrays that are read or written for mixers, routes and meters are not checked, and a packet declares
them truly just if sixteen bits hold them (`sizes_declared`). -/

namespace CardFirmware

namespace Packet

structure Declares (p : Packet) (c : Call) : Prop where
  request : p.requestSize.toNat = c.request.length
  response : p.responseSize.toNat = c.responseLength

theorem toNat_size {n : Nat} : (UInt16.ofNat n).toNat = n ↔ n ≤ sizeMax := by
  rw [UInt16.toNat_ofNat', sizeMax]
  omega

theorem toNat_size_le (n : Nat) : (UInt16.ofNat n).toNat ≤ n := by
  rw [UInt16.toNat_ofNat']
  exact Nat.mod_le _ _

theorem length_data (c : Call) :
    c.packet.data.length = max c.request.length c.responseLength := by
  rw [Call.packet, List.length_append, List.length_replicate]
  omega

theorem size_le_data (c : Call) :
    c.packet.requestSize.toNat ≤ c.packet.data.length ∧
      c.packet.responseSize.toNat ≤ c.packet.data.length := by
  have hrequest := toNat_size_le c.request.length
  have hresponse := toNat_size_le c.responseLength
  rw [length_data]
  exact ⟨Nat.le_trans hrequest (Nat.le_max_left _ _), Nat.le_trans hresponse (Nat.le_max_right _ _)⟩

theorem declares_iff (c : Call) :
    c.packet.Declares c ↔ c.request.length ≤ sizeMax ∧ c.responseLength ≤ sizeMax :=
  ⟨fun h => ⟨toNat_size.mp h.request, toNat_size.mp h.response⟩,
    fun h => ⟨toNat_size.mpr h.1, toNat_size.mpr h.2⟩⟩

end Packet

namespace Command

open Bytes (le16 le32)

theorem checkSize_eq_ok {quantity : Quantity} {max size : Nat}
    (h : checkSize quantity max size = .ok ()) : size ≤ max := by
  by_contra hlarge
  rw [checkSize_of_lt (Nat.lt_of_not_le hlarge)] at h
  cases h

theorem flashWrite_valid {segment offset : UInt32} {data : Bytes}
    (h : (flashWrite segment offset data).validate = .ok ()) : data.length ≤ flashWriteMax := by
  rw [validate] at h
  cases hsegment : checkSegment segment.toNat with
  | error e =>
    rw [hsegment] at h
    cases h
  | ok =>
    rw [hsegment] at h
    exact checkSize_eq_ok h

/-- The bytes of an array whose length is not checked, with what stands before it. -/
def arrayLength? : Command → Option Nat
  | meterRead count => some (4 * count.toNat)
  | mixRead _ count => some (2 * count.toNat)
  | mixWrite _ values => some (2 + 2 * values.length)
  | muxWrite _ values => some (4 + 4 * values.length)
  | _ => none

theorem length_flatMap_words {α : Type} {write : α → Bytes} {k : Nat}
    (hwrite : ∀ v, (write v).length = k) (values : List α) :
    (values.flatMap write).length = k * values.length := by
  induction values with
  | nil => rfl
  | cons v values ih =>
    rw [List.flatMap_cons, List.length_append, hwrite, ih, List.length_cons, Nat.mul_succ,
      Nat.add_comm]

theorem within_page {c : Command} (h : c.validate = .ok ()) (harray : c.arrayLength? = none) :
    c.request.length ≤ pageSize ∧ c.responseLength ≤ pageSize := by
  cases c with
  | meterRead | mixRead | mixWrite | muxWrite => cases harray
  | muxRead mux count =>
    have hcount := count.toNat_lt
    simp only [request, responseLength, pageSize, List.length_cons, List.length_nil]
    omega
  | flashWrite segment offset data =>
    have hdata := flashWrite_valid h
    simp only [request, responseLength, pageSize, flashWriteMax, List.length_append,
      Bytes.length_le32] at hdata ⊢
    omega
  | espDfuStart length md5 =>
    simp [request, responseLength, pageSize, md5.length_eq]
  | espDfuWrite data => exact ⟨checkSize_eq_ok h, Nat.zero_le _⟩
  | dataRead offset width => cases width <;> simp [request, responseLength, pageSize, Width.bytes]
  | dataWrite offset width value =>
    cases width <;> simp [request, responseLength, pageSize, Width.bytes]
  | devmapRead block length => exact ⟨by simp [request, pageSize], checkSize_eq_ok h⟩
  | _ => simp [request, responseLength, pageSize]

theorem fits_iff_array {c : Command} {n : Nat} (harray : c.arrayLength? = some n) :
    c.request.length ≤ Packet.sizeMax ∧ c.responseLength ≤ Packet.sizeMax ↔
      n ≤ Packet.sizeMax := by
  cases c with
  | meterRead | mixRead =>
    cases harray
    simp [request, responseLength, Packet.sizeMax]
  | mixWrite mix values =>
    cases harray
    rw [request, responseLength, List.length_append, length_flatMap_words Bytes.length_le16]
    exact and_iff_left (Nat.zero_le _)
  | muxWrite mux values =>
    cases harray
    rw [request, responseLength, List.length_append, length_flatMap_words Bytes.length_le32]
    exact and_iff_left (Nat.zero_le _)
  | _ => cases harray

/-- The packet of a valid command declares the true lengths just if both are within sixteen bits.
Only arrays for which no limit is checked can be too long for that, and even then no more is
declared than there is room for. -/
theorem sizes_declared (c : Command) (h : c.validate = .ok ()) :
    (c.call.packet.Declares c.call ↔
      c.request.length ≤ Packet.sizeMax ∧ c.responseLength ≤ Packet.sizeMax) ∧
    (c.request.length ≤ Packet.sizeMax ∧ c.responseLength ≤ Packet.sizeMax ↔
      ∀ n ∈ c.arrayLength?, n ≤ Packet.sizeMax) ∧
    (c.arrayLength? = none → c.request.length ≤ pageSize ∧ c.responseLength ≤ pageSize) ∧
    c.call.packet.requestSize.toNat ≤ c.call.packet.data.length ∧
    c.call.packet.responseSize.toNat ≤ c.call.packet.data.length := by
  refine ⟨Packet.declares_iff c.call, ?_, within_page h, Packet.size_le_data c.call⟩
  cases harray : c.arrayLength? with
  | none =>
    have hpage := within_page h harray
    have hmax : pageSize ≤ Packet.sizeMax := by decide
    exact iff_of_true ⟨Nat.le_trans hpage.1 hmax, Nat.le_trans hpage.2 hmax⟩ (by simp)
  | some n =>
    rw [fits_iff_array harray]
    simp

theorem longest_mix_declared :
    (mixWrite 1 (List.replicate 32766 7)).validate = .ok () ∧
      (mixWrite 1 (List.replicate 32766 7)).call.packet.Declares
        (mixWrite 1 (List.replicate 32766 7)).call := by
  have h := sizes_declared (mixWrite 1 (List.replicate 32766 7)) rfl
  refine ⟨rfl, h.1.mpr (h.2.1.mpr ?_)⟩
  simp only [arrayLength?, Option.mem_some_iff, forall_eq', List.length_replicate]
  decide

/-- Reading all meters that can be counted is valid, but the size of the response is not the one
that is declared. -/
theorem meter_response_cut_off :
    (meterRead 65535).validate = .ok () ∧ (meterRead 65535).responseLength = 262140 ∧
      ¬(meterRead 65535).responseLength ≤ Packet.sizeMax ∧
      (meterRead 65535).call.packet.responseSize = 65532 :=
  ⟨rfl, rfl, by decide, rfl⟩

end Command

end CardFirmware
