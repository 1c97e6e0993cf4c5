import CardFirmware.Proofs.Device.Replies
import CardFirmware.Proofs.Device.Simulator

/-! The registers of a simulated device. A register keeps the low bytes of what is written, and a
reading of any width extends the low bytes of what is kept, by their sign where that is asked for
(`register_reads_back`). -/

namespace CardFirmware

open Bytes (le16 le32)

namespace Width

/-- The low bytes of a number, extended by their sign if that is asked for or all four are read, and
with zeros otherwise. -/
def extend (width : Width) (signed : Bool) (n : Int) : Int :=
  if signed ∨ width = .four then n.bmod (2 ^ (8 * width.bytes)) else n % 2 ^ (8 * width.bytes)

theorem extend_emod (width : Width) (signed : Bool) (n : Int) :
    width.extend signed (n % 2 ^ (8 * width.bytes)) = width.extend signed n := by
  unfold extend
  split
  · exact_mod_cast Int.emod_bmod n (2 ^ (8 * width.bytes))
  · exact Int.emod_emod n _

theorem extend_of_fits {width : Width} {n : Int} (hlow : -2 ^ (8 * width.bytes - 1) ≤ n)
    (hhigh : n < 2 ^ (8 * width.bytes - 1)) : width.extend true n = n := by
  rw [extend, if_pos (.inl rfl)]
  refine Int.bmod_eq_of_le_mul_two ?_ ?_ <;>
    cases width <;> simp only [bytes] at hlow hhigh ⊢ <;> omega

end Width

theorem toInt_word (v : UInt32) : v.toInt32.toInt = (v.toNat : Int).bmod (2 ^ 32) :=
  BitVec.toInt_eq_toNat_bmod v.toBitVec

theorem toInt_half (v : UInt16) : v.toInt16.toInt = (v.toNat : Int).bmod (2 ^ 16) :=
  BitVec.toInt_eq_toNat_bmod v.toBitVec

theorem toInt_byte (v : UInt8) : v.toInt8.toInt = (v.toNat : Int).bmod (2 ^ 8) :=
  BitVec.toInt_eq_toNat_bmod v.toBitVec

theorem toInt_small {v : UInt32} (h : v.toNat < 2 ^ 31) : v.toInt32.toInt = v.toNat := by
  rw [toInt_word]
  exact Int.bmod_eq_of_le_mul_two (by omega) (by omega)

theorem Reply.data_extend {b : Bytes} {width : Width} (h : b.length = width.bytes)
    (signed : Bool) :
    ∃ r, Reply.data b width signed = .ok r ∧ r.toInt = width.extend signed b.littleEndian := by
  rw [Reply.data.eq_def, expectLength_bind h]
  cases width with
  | one =>
    obtain ⟨v, rfl⟩ := List.length_eq_one_iff.mp h
    have hv := v.toNat_lt
    have hdigits : Bytes.littleEndian [v] = v.toNat := rfl
    rw [hdigits]
    cases signed
    · have hsmall : v.toUInt32.toNat < 2 ^ 31 := by
        rw [UInt8.toNat_toUInt32]
        omega
      refine ⟨_, rfl, (toInt_small hsmall).trans ?_⟩
      rw [UInt8.toNat_toUInt32, Width.extend, if_neg (by decide), Width.bytes]
      omega
    · refine ⟨_, rfl, (Int8.toInt_toInt32 v.toInt8).trans ?_⟩
      rw [toInt_byte, Width.extend, if_pos (.inl rfl), Width.bytes]
  | two =>
    obtain ⟨v, rfl⟩ := Bytes.exists_eq_le16 h
    have hv := v.toNat_lt
    rw [Bytes.le16At_le16, Bytes.littleEndian_le16]
    cases signed
    · have hsmall : v.toUInt32.toNat < 2 ^ 31 := by
        rw [UInt16.toNat_toUInt32]
        omega
      refine ⟨_, rfl, (toInt_small hsmall).trans ?_⟩
      rw [UInt16.toNat_toUInt32, Width.extend, if_neg (by decide), Width.bytes]
      omega
    · refine ⟨_, rfl, (Int16.toInt_toInt32 v.toInt16).trans ?_⟩
      rw [toInt_half, Width.extend, if_pos (.inl rfl), Width.bytes]
  | four =>
    obtain ⟨v, rfl⟩ := Bytes.exists_eq_le32 h
    rw [Bytes.le32At_le32, Bytes.littleEndian_le32]
    refine ⟨_, rfl, (toInt_word v).trans ?_⟩
    rw [Width.extend, if_pos (.inr rfl), Width.bytes]

namespace Simulator

variable {s : Simulator}

theorem lookup_setRegister_of_ne {offset o : UInt32} (ho : o ≠ offset) (value : Int32)
    (registers : List (UInt32 × Int32)) :
    (setRegister offset value registers).lookup o = registers.lookup o := by
  have hfront : (o == offset) = false := beq_eq_false_iff_ne.mpr ho
  induction registers with
  | nil => rw [setRegister, List.lookup_cons, hfront]
  | cons r registers ih =>
    obtain ⟨o', v⟩ := r
    rw [setRegister]
    split
    · next heq =>
      subst heq
      rw [List.lookup_cons, List.lookup_cons, hfront]
    · split
      · rw [List.lookup_cons, hfront]
      · rw [List.lookup_cons, List.lookup_cons, ih]

theorem dataRead_succeeds (hsound : s.failing = []) (offset : UInt32) (width : Width)
    (signed : Bool) :
    (Device.dataRead offset width signed).Succeeds transport s fun r d =>
      r.toInt = width.extend signed (s.readData offset).toUInt32.toNat ∧
        ∃ log, d = { s with log } := by
  have hreply := transact_of_sound hsound (Command.dataRead offset width).call
  rw [execute_dataRead] at hreply
  have hlen : ((le32 (s.readData offset).toUInt32).take width.bytes).length = width.bytes := by
    cases width <;> rfl
  obtain ⟨r, hr, hvalue⟩ := Reply.data_extend hlen signed
  rw [Bytes.littleEndian_take_le32, Int.natCast_emod, Int.natCast_pow, Nat.cast_ofNat,
    Width.extend_emod] at hvalue
  refine (Device.query_succeeds rfl hreply hlen hr).mono ?_
  rintro _ _ ⟨rfl, rfl⟩
  exact ⟨hvalue, _, rfl⟩

theorem dataWrite_succeeds (hsound : s.failing = []) (offset : UInt32) (width : Width)
    (value : Int32) :
    (Device.dataWrite offset width value).Succeeds transport s fun _ d => ∃ log, d = { s with
      registers := setRegister offset (Command.truncated value width) s.registers
      writes := s.writes + 1
      log } :=
  command_succeeds hsound rfl rfl (execute_dataWrite offset width value)

theorem readData_of_ne {offset : UInt32}
    (hoffset : ∀ esp, s.esp = some esp → offset ≠ esp.config.stateOffset) :
    s.readData offset = s.register offset := by
  unfold readData
  split
  · next esp hesp => rw [if_neg (hoffset esp hesp)]
  · rfl

theorem readData_set {s' : Simulator} {offset : UInt32} {kept : Int32}
    (hoffset : ∀ esp, s.esp = some esp → offset ≠ esp.config.stateOffset) (hesp : s'.esp = s.esp)
    (hregisters : s'.registers = setRegister offset kept s.registers) :
    s'.readData offset = kept := by
  rw [← hesp] at hoffset
  rw [readData_of_ne hoffset, register, hregisters, lookup_setRegister, Option.getD_some]

theorem toNat_truncated (value : Int32) (width : Width) :
    ((Command.truncated value width).toUInt32.toNat : Int) =
      value.toInt % 2 ^ (8 * width.bytes) := by
  have hvalue := value.toUInt32.toNat_lt
  rw [Command.toInt_emod, Command.truncated, UInt32.toUInt32_toInt32,
    UInt32.toNat_ofNat_of_lt' (Nat.lt_of_le_of_lt (Nat.mod_le _ _) hvalue)]

/-- A register of a sound device, other than that of the state of its coprocessor, is read back
after a write as the extension of what it keeps of the value. No other register has changed, nor has
anything else but the log and the number of writes. At the width of the write a value that fits is
read back with its sign, and fewer than four bytes without one are the remainder of the value. -/
theorem register_reads_back (s : Simulator) (hsound : s.failing = []) (offset : UInt32)
    (hoffset : ∀ esp, s.esp = some esp → offset ≠ esp.config.stateOffset) (width : Width)
    (value : Int32) :
    let write := (Device.dataWrite offset width value).perform transport s
    let device := write.2.device
    write.1 = .ok () ∧
      (∀ width' signed, ∃ r,
        ((Device.dataRead offset width' signed).perform transport device).1 = .ok r ∧
          r.toInt = width'.extend signed (value.toInt % 2 ^ (8 * width.bytes))) ∧
      (∀ o, o ≠ offset → device.registers.lookup o = s.registers.lookup o) ∧
      (∃ log, device = { s with registers := device.registers, writes := s.writes + 1, log }) ∧
      (-2 ^ (8 * width.bytes - 1) ≤ value.toInt → value.toInt < 2 ^ (8 * width.bytes - 1) →
        ((Device.dataRead offset width true).perform transport device).1 = .ok value) ∧
      (width ≠ .four → ∃ r,
        ((Device.dataRead offset width false).perform transport device).1 = .ok r ∧
          r.toInt = value.toInt % 2 ^ (8 * width.bytes)) := by
  intro write device
  obtain ⟨_, link, hwrite, log, hdevice⟩ := dataWrite_succeeds hsound offset width value []
  have hwrite' : write = (.ok (), link) := hwrite
  have hdevice' : device = _ := (congrArg (·.2.device) hwrite').trans hdevice
  have hesp := congrArg Simulator.esp hdevice'
  have hregisters := congrArg registers hdevice'
  have hfailing : device.failing = [] := (congrArg failing hdevice').trans hsound
  have hread : ∀ width' signed, ∃ r,
      ((Device.dataRead offset width' signed).perform transport device).1 = .ok r ∧
        r.toInt = width'.extend signed (value.toInt % 2 ^ (8 * width.bytes)) := by
    intro width' signed
    have hkept := readData_set hoffset hesp hregisters
    obtain ⟨r, _, hrun, hr, -⟩ := dataRead_succeeds hfailing offset width' signed []
    rw [hkept, toNat_truncated] at hr
    exact ⟨r, congrArg Prod.fst hrun, hr⟩
  refine ⟨congrArg Prod.fst hwrite', hread, fun o ho => ?_, ⟨log, ?_⟩, fun hlow hhigh => ?_,
    fun hwidth => ?_⟩
  · rw [hregisters]
    exact lookup_setRegister_of_ne ho _ _
  · rw [hdevice']
  · obtain ⟨r, hrun, hr⟩ := hread width true
    rw [Width.extend_emod, Width.extend_of_fits hlow hhigh] at hr
    rw [hrun, Int32.toInt_inj.mp hr]
  · obtain ⟨r, hrun, hr⟩ := hread width false
    refine ⟨r, hrun, hr.trans ?_⟩
    rw [Width.extend_emod, Width.extend, if_neg (by simpa using hwidth)]

/-- Two bytes of a register next to that of the coprocessor's state: what is read without a sign, or
with more bytes, shows that the upper two are zeros. -/
theorem half_register_reads_back :
    let esp : SimulatedEsp :=
      { config := ⟨⟨1, 2, 3⟩, ⟨0, 1, 2, 3⟩, 0x10, 0x20, 0x30, 8, 5⟩, state := 3 }
    let s : Simulator := { esp := some esp, registers := [(0x0C, 70000), (0x30, 7)] }
    let device := ((Device.dataWrite 0x0C .two (-2)).perform transport s).2.device
    s.failing = [] ∧ (∀ e, s.esp = some e → 0x0C ≠ e.config.stateOffset) ∧
      ((Device.dataRead 0x0C .two true).perform transport device).1 = .ok (-2) ∧
      (∃ r, ((Device.dataRead 0x0C .four true).perform transport device).1 = .ok r ∧
        r.toInt = 65534) ∧
      (∃ r, ((Device.dataRead 0x0C .one false).perform transport device).1 = .ok r ∧
        r.toInt = 254) ∧
      device.registers.lookup 0x30 = some 7 := by
  intro esp s device
  have hoffset : ∀ e, s.esp = some e → (0x0C : UInt32) ≠ e.config.stateOffset := by
    rintro _ ⟨⟩
    decide
  obtain ⟨-, hread, hothers, -, hsigned, -⟩ := register_reads_back s rfl 0x0C hoffset .two (-2)
  exact ⟨rfl, hoffset, hsigned (by decide) (by decide), hread .four true, hread .one false,
    hothers 0x30 (by decide)⟩

end Simulator

end CardFirmware
