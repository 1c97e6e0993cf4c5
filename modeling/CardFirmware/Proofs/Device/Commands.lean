import CardFirmware.Device.Dialogue
import CardFirmware.Device.Reply
import CardFirmware.Proofs.Bytes
import Mathlib.Algebra.Ring.Int.Defs
import Mathlib.Algebra.Ring.Nat

/-! Commands as a device sees them. The operation code tells the constructor, and the request with
the length of the response tells the arguments, so that a command can be read off its call
(`ofCall?_call`). Only the value of a write to a register may lose something: it is sent in as many
bytes as the register has (`calls_distinct`). -/

namespace CardFirmware

open Bytes (le16 le32)

namespace Bytes

@[simp] theorem le16At_append (v : UInt16) (rest : Bytes) : (le16 v ++ rest).le16At 0 = v :=
  (Prod.mk.inj (Option.some.inj (readLe16_le16 v rest))).1

@[simp] theorem le16At_le16 (v : UInt16) : (le16 v).le16At 0 = v := le16At_append v []

@[simp] theorem le32At_append (v : UInt32) (rest : Bytes) : (le32 v ++ rest).le32At 0 = v :=
  (Prod.mk.inj (Option.some.inj (readLe32_le32 v rest))).1

@[simp] theorem le32At_le32 (v : UInt32) : (le32 v).le32At 0 = v := le32At_append v []

@[simp] theorem drop_le16_append (v : UInt16) (rest : Bytes) {n : Nat} (h : 2 ≤ n) :
    (le16 v ++ rest).drop n = rest.drop (n - 2) := by
  rw [List.drop_append, List.drop_of_length_le h]
  rfl

@[simp] theorem drop_le32_append (v : UInt32) (rest : Bytes) {n : Nat} (h : 4 ≤ n) :
    (le32 v ++ rest).drop n = rest.drop (n - 4) := by
  rw [List.drop_append, List.drop_of_length_le h]
  rfl

theorem littleEndian_take_le32 (v : UInt32) (width : Width) :
    littleEndian ((le32 v).take width.bytes) = v.toNat % 2 ^ (8 * width.bytes) := by
  have hv := v.toNat_lt
  cases width <;>
    simp only [le32, Width.bytes, List.take_succ_cons, List.take_zero, littleEndian,
      UInt8.toNat_ofNat'] <;> omega

end Bytes

section Arrays

variable {α : Type} {read : Bytes → Option (α × Bytes)} {write : α → Bytes}

theorem readArray_flatMap (hread : ∀ v rest, read (write v ++ rest) = some (v, rest))
    (hend : read [] = none) (values : List α) {fuel : Nat} (hfuel : values.length ≤ fuel) :
    readArray read fuel (values.flatMap write) = values := by
  induction values generalizing fuel with
  | nil => cases fuel <;> simp [readArray, hend]
  | cons v values ih =>
    cases fuel with
    | zero => cases hfuel
    | succ fuel =>
      rw [List.flatMap_cons, readArray, hread]
      exact congrArg (v :: ·) (ih (Nat.le_of_succ_le_succ hfuel))

theorem length_le_flatMap (hwrite : ∀ v, 1 ≤ (write v).length) (values : List α) :
    values.length ≤ (values.flatMap write).length := by
  induction values with
  | nil => exact Nat.le_refl _
  | cons v values ih =>
    rw [List.flatMap_cons, List.length_append, List.length_cons]
    have := hwrite v
    omega

theorem words16_flatMap (values : List UInt16) : Reply.words16 (values.flatMap le16) = values :=
  readArray_flatMap Bytes.readLe16_le16 rfl values (length_le_flatMap (fun _ => by simp) values)

theorem words32_flatMap (values : List UInt32) : Reply.words32 (values.flatMap le32) = values :=
  readArray_flatMap Bytes.readLe32_le32 rfl values (length_le_flatMap (fun _ => by simp) values)

end Arrays

theorem Opcode.reserved_compose (category : Category) (operation : Nat) :
    (compose category operation).reserved = 0 := by
  cases category <;> simp [compose, reserved, Category.number] <;> omega

theorem Opcode.compose_inj {o o' : Category × Nat} (ho : o.2 < 4096) (ho' : o'.2 < 4096)
    (h : compose o.1 o.2 = compose o'.1 o'.2) : o = o' := by
  have hcategory := category?_compose o.1 o.2
  have hoperation := operation_compose o.1 o.2
  rw [h, category?_compose] at hcategory
  rw [h, operation_compose, Nat.mod_eq_of_lt ho, Nat.mod_eq_of_lt ho'] at hoperation
  exact Prod.ext (Option.some.inj hcategory).symm hoperation.symm

@[simp] theorem Width.ofBytes?_bytes (width : Width) : Width.ofBytes? width.bytes = some width := by
  cases width <;> rfl

@[simp] theorem Width.bytes_mod_word (width : Width) :
    width.bytes % 4294967296 = width.bytes := by
  cases width <;> rfl

@[simp] theorem Octets.ofBytes_bytes {n : Nat} (o : Octets n) : Octets.ofBytes n o.bytes = some o :=
  dif_pos o.length_eq

namespace Command

def truncated (value : Int32) (width : Width) : Int32 :=
  (UInt32.ofNat (value.toUInt32.toNat % 2 ^ (8 * width.bytes))).toInt32

def plain : Command → Command
  | dataWrite offset width value => dataWrite offset width (truncated value width)
  | c => c

def read? (category : Category) (operation : Nat) (b : Bytes) (responseLength : Nat) :
    Option Command :=
  match category, operation with
  | .init, 1 => some (capRead (b.le16At 0))
  | .init, 3 => some reboot
  | .meter, 0 => some meterInfo
  | .meter, 1 => some (meterRead (Bytes.le16At (b.drop 2) 0))
  | .mix, 0 => some mixInfo
  | .mix, 1 => some (mixRead (b.le16At 0) (Bytes.le16At (b.drop 2) 0))
  | .mix, 2 => some (mixWrite (b.le16At 0) (Reply.words16 (b.drop 2)))
  | .mux, 0 => some muxInfo
  | .mux, 1 => some (muxRead (b.byteAt 3) (b.byteAt 2))
  | .mux, 2 => some (muxWrite (Bytes.le16At (b.drop 2) 0) (Reply.words32 (b.drop 4)))
  | .flash, 0 => some flashInfo
  | .flash, 1 => some (flashSegmentInfo (b.le32At 0))
  | .flash, 2 => some (flashErase (b.byteAt 0))
  | .flash, 3 => some (flashEraseProgress (b.le32At 0))
  | .flash, 4 => some (flashWrite (b.le32At 0) (Bytes.le32At (b.drop 4) 0) (b.drop 12))
  | .sync, 4 => some syncRead
  | .espDfu, 0 =>
    (Octets.ofBytes 16 (b.drop 8)).map (espDfuStart (Bytes.le32At (b.drop 4) 0))
  | .espDfu, 1 => some (espDfuWrite b)
  | .data, 0 => (Width.ofBytes? (Bytes.le32At (b.drop 4) 0).toNat).map (dataRead (b.le32At 0))
  | .data, 1 => (Width.ofBytes? (Bytes.le32At (b.drop 4) 0).toNat).map fun width =>
      dataWrite (b.le32At 0) width (UInt32.ofNat (Bytes.littleEndian (b.drop 8))).toInt32
  | .data, 2 => some (dataNotify (b.le32At 0))
  | .data, 12 => some devmapInfo
  | .data, 13 => some (devmapRead (b.le32At 0) responseLength)
  | _, _ => none

def ofCall? (c : Call) : Option Command := do
  read? (← c.opcode.category?) c.opcode.operation c.request c.responseLength

theorem ofCall?_eq {c : Command} {category : Category} {operation : Nat}
    (h : c.opcode = .compose category operation) :
    ofCall? c.call = read? category (operation % 4096) c.request c.responseLength := by
  have hcategory : c.call.opcode.category? = some category := by
    rw [← Opcode.category?_compose category operation, ← h]
    rfl
  have hoperation : c.call.opcode.operation = operation % 4096 := by
    rw [← Opcode.operation_compose category operation, ← h]
    rfl
  rw [ofCall?, hcategory, hoperation]
  rfl

theorem ofCall?_call (c : Command) : ofCall? c.call = some c.plain := by
  cases c with
  | reboot | meterInfo | mixInfo | muxInfo | flashInfo | syncRead | devmapInfo => rfl
  -- requests of bytes at fixed places
  | muxRead | flashErase | espDfuWrite =>
    rw [ofCall?_eq rfl]
    rfl
  -- requests of words one after the other
  | capRead | meterRead | mixRead | flashSegmentInfo | flashEraseProgress | flashWrite
  | espDfuStart | dataRead | dataNotify =>
    rw [ofCall?_eq rfl]
    simp [read?, request, plain]
  | mixWrite =>
    rw [ofCall?_eq rfl]
    simp [read?, request, plain, words16_flatMap]
  | muxWrite =>
    rw [ofCall?_eq rfl]
    simp [read?, request, plain, words32_flatMap]
  | dataWrite =>
    rw [ofCall?_eq rfl]
    simp [read?, request, plain, Bytes.littleEndian_take_le32, truncated]
  | devmapRead =>
    rw [ofCall?_eq rfl]
    simp [read?, request, plain, responseLength]

/-- The same command but for what a register does not keep of a value. -/
inductive Alike : Command → Command → Prop
  | refl (c : Command) : Alike c c
  | dataWrite (offset : UInt32) (width : Width) {v w : Int32} :
      v.toInt % 2 ^ (8 * width.bytes) = w.toInt % 2 ^ (8 * width.bytes) →
        Alike (dataWrite offset width v) (dataWrite offset width w)

theorem Alike.symm {a b : Command} (h : a.Alike b) : b.Alike a := by
  cases h with
  | refl => exact .refl _
  | dataWrite offset width h => exact .dataWrite offset width h.symm

theorem Alike.trans {a b c : Command} (h : a.Alike b) (h' : b.Alike c) : a.Alike c := by
  cases h with
  | refl => exact h'
  | dataWrite offset width h =>
    cases h' with
    | refl => exact .dataWrite offset width h
    | dataWrite _ _ h' => exact .dataWrite offset width (h.trans h')

theorem toInt_emod (v : Int32) (width : Width) :
    v.toInt % 2 ^ (8 * width.bytes) = (v.toUInt32.toNat % 2 ^ (8 * width.bytes) : Nat) := by
  have h : v.toInt = if 2 * v.toUInt32.toNat < 2 ^ 32 then (v.toUInt32.toNat : Int)
      else v.toUInt32.toNat - 2 ^ 32 := BitVec.toInt_eq_toNat_cond v.toBitVec
  cases width <;> simp only [Width.bytes] <;> split at h <;> omega

theorem toInt_truncated (v : Int32) (width : Width) :
    (truncated v width).toInt % 2 ^ (8 * width.bytes) = v.toInt % 2 ^ (8 * width.bytes) := by
  rw [toInt_emod, toInt_emod, truncated, UInt32.toUInt32_toInt32, UInt32.toNat_ofNat']
  have hv := v.toUInt32.toNat_lt
  cases width <;> simp only [Width.bytes] <;> omega

theorem alike_plain (c : Command) : c.Alike c.plain := by
  cases c with
  | dataWrite offset width value => exact .dataWrite offset width (toInt_truncated value width).symm
  | _ => exact .refl _

theorem take_le32_eq {v w : UInt32} {width : Width}
    (h : v.toNat % 2 ^ (8 * width.bytes) = w.toNat % 2 ^ (8 * width.bytes)) :
    (le32 v).take width.bytes = (le32 w).take width.bytes := by
  cases width <;>
    simp only [le32, Width.bytes, List.take_succ_cons, List.take_zero, List.cons.injEq, and_true,
      ← UInt8.toNat_inj, UInt8.toNat_ofNat'] at h ⊢ <;> omega

theorem Alike.call_eq {a b : Command} (h : a.Alike b) : a.call = b.call := by
  cases h with
  | refl => rfl
  | dataWrite offset width h =>
    rw [toInt_emod, toInt_emod, Int.ofNat_inj] at h
    simp only [call, request, take_le32_eq h]
    rfl

theorem alike_iff_call_eq (a b : Command) : a.Alike b ↔ a.call = b.call := by
  refine ⟨Alike.call_eq, fun h => ?_⟩
  have hplain : a.plain = b.plain := by
    rw [← Option.some.injEq, ← ofCall?_call a, h, ofCall?_call b]
  exact (hplain ▸ alike_plain a).trans (alike_plain b).symm

def operations : List (Category × Nat) := [
  (.init, 1), (.init, 3), (.meter, 0), (.meter, 1), (.mix, 0), (.mix, 1), (.mix, 2), (.mux, 0),
  (.mux, 1), (.mux, 2), (.flash, 0), (.flash, 1), (.flash, 2), (.flash, 3), (.flash, 4), (.sync, 4),
  (.espDfu, 0), (.espDfu, 1), (.data, 0), (.data, 1), (.data, 2), (.data, 12), (.data, 13)]

theorem operations_ctorIdx (c : Command) :
    ∃ o, operations[c.ctorIdx]? = some o ∧ c.opcode = .compose o.1 o.2 := by
  cases c <;> exact ⟨_, rfl, rfl⟩

theorem operations_bounded : ∀ o ∈ operations, o.2 < 4096 := by decide

theorem operations_nodup : operations.Nodup := by decide

theorem opcode_eq_iff (a b : Command) : a.opcode = b.opcode ↔ a.ctorIdx = b.ctorIdx := by
  obtain ⟨o, ho, ha⟩ := operations_ctorIdx a
  obtain ⟨o', ho', hb⟩ := operations_ctorIdx b
  constructor
  · intro h
    rw [ha, hb] at h
    have hoo : o = o' := Opcode.compose_inj (operations_bounded o (List.mem_of_getElem? ho))
      (operations_bounded o' (List.mem_of_getElem? ho')) h
    have hlt := (List.getElem?_eq_some_iff.mp ho).1
    exact (List.getElem?_inj hlt operations_nodup).mp (by rw [ho, ho', hoo])
  · intro h
    rw [h, ho'] at ho
    rw [ha, hb, Option.some.inj ho]

/-- No two commands make the same call unless they differ only in what a register does not keep of
a value. Operation codes tell the constructors apart and read back as what they were composed of,
and arrays read back as they were written. -/
theorem calls_distinct :
    (∀ a b : Command, a.opcode = b.opcode ∧ a.request = b.request ∧
      a.responseLength = b.responseLength ↔ a.Alike b) ∧
    (∀ a b : Command, a.opcode = b.opcode ↔ a.ctorIdx = b.ctorIdx) ∧
    (∀ c : Command, ∃ category operation, operation < 4096 ∧
      c.opcode = .compose category operation ∧ c.opcode.category? = some category ∧
      c.opcode.operation = operation ∧ c.opcode.reserved = 0) ∧
    (∀ mix values, Reply.words16 ((mixWrite mix values).request.drop 2) = values) ∧
    ∀ mux values, Reply.words32 ((muxWrite mux values).request.drop 4) = values := by
  refine ⟨fun a b => ?_, opcode_eq_iff, fun c => ?_, fun mix values => ?_, fun mux values => ?_⟩
  · rw [alike_iff_call_eq, call, call, Call.mk.injEq]
  · obtain ⟨o, ho, hc⟩ := operations_ctorIdx c
    have hbound := operations_bounded o (List.mem_of_getElem? ho)
    refine ⟨o.1, o.2, hbound, hc, ?_, ?_, ?_⟩
    · rw [hc, Opcode.category?_compose]
    · rw [hc, Opcode.operation_compose, Nat.mod_eq_of_lt hbound]
    · rw [hc, Opcode.reserved_compose]
  · exact words16_flatMap values
  · exact words32_flatMap values

example : (dataWrite 8 .one 300).call = (dataWrite 8 .one 44).call := by decide

end Command

end CardFirmware
