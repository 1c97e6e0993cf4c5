import CardFirmware.Device.Simulator
import CardFirmware.Proofs.Device.Commands
import CardFirmware.Proofs.Device.Success

/-! How a sound simulated device answers the commands that concern its flash memory and its
coprocessor: what it reads off a request is what the command was made of, and none of them fails. -/

namespace CardFirmware

open Bytes (le32)

namespace Bytes

theorem slice?_append (front b back : Bytes) :
    (front ++ b ++ back).slice? front.length b.length = some b := by
  unfold slice?
  rw [if_pos (by simp)]
  simp

theorem byteAt_le32 (v : UInt8) : UInt8.ofNat v.toUInt32.toNat = v := by
  rw [UInt8.toNat_toUInt32, UInt8.ofNat_toNat]

theorem le32At_padTo {b : Bytes} (h : b.length ≤ 4) :
    (padTo b 4 0).le32At 0 = UInt32.ofNat (littleEndian b) := by
  refine congrArg UInt32.ofNat ?_
  match b, h with
  | [], _ | [_], _ | [_, _], _ => simp [byteAt, padTo, littleEndian]
  | [_, _, _], _ | [_, _, _, _], _ =>
    simp [byteAt, padTo, littleEndian]
    omega

end Bytes

theorem Command.truncated_byte (v : UInt8) :
    truncated v.toUInt32.toInt32 .one = v.toUInt32.toInt32 := by
  have hv : v.toUInt32.toInt32.toUInt32.toNat % 2 ^ (8 * Width.one.bytes) = v.toUInt32.toNat :=
    Nat.mod_eq_of_lt v.toNat_lt
  rw [truncated, hv, UInt32.ofNat_toNat]

theorem SimulatedEsp.take_of_ne_nil (esp : SimulatedEsp) {block : Bytes} (h : block ≠ []) :
    esp.take block = { esp with memory := esp.memory ++ block, blocks := esp.blocks + 1 } := by
  simp only [take, List.isEmpty_eq_false_iff.mpr h, Bool.false_eq_true, if_false]

namespace Simulator

variable {s : Simulator}

theorem word32_append (front back : Bytes) (v : UInt32) :
    word32 (front ++ le32 v ++ back) front.length = v := by
  have h := Bytes.slice?_append front (le32 v) back
  rw [Bytes.length_le32] at h
  rw [word32, h]
  exact Bytes.le32At_le32 v

theorem lookup_setRegister (offset : UInt32) (value : Int32) (registers : List (UInt32 × Int32)) :
    (setRegister offset value registers).lookup offset = some value := by
  induction registers with
  | nil => simp [setRegister]
  | cons r registers ih =>
    obtain ⟨o, v⟩ := r
    rw [setRegister]
    split
    · simp
    · next ho =>
      split
      · simp
      · rw [List.lookup_cons, beq_eq_false_iff_ne.mpr (Ne.symm ho)]
        exact ih

theorem execute_dataRead (offset : UInt32) (width : Width) :
    s.execute (Command.dataRead offset width).call =
      ((le32 (s.readData offset).toUInt32).take width.bytes, s) := by
  have hopcode : (Command.dataRead offset width).call.opcode = .compose .data 0 := rfl
  have h : word32 (Command.dataRead offset width).call.request 0 = offset :=
    word32_append [] _ offset
  rw [execute, hopcode, Opcode.category?_compose, Opcode.operation_compose, h]
  cases width <;> rfl

theorem execute_dataWrite (offset : UInt32) (width : Width) (value : Int32) :
    s.execute (Command.dataWrite offset width value).call =
      ([], { s.countWrite with
        registers := setRegister offset (Command.truncated value width) s.registers }) := by
  have hopcode : (Command.dataWrite offset width value).call.opcode = .compose .data 1 := rfl
  have hrequest : (Command.dataWrite offset width value).call.request =
      le32 offset ++ (le32 (UInt32.ofNat width.bytes) ++
        (le32 value.toUInt32).take width.bytes) := by
    rw [← List.append_assoc]
    rfl
  have hoffset : word32 (le32 offset ++ (le32 (UInt32.ofNat width.bytes) ++
      (le32 value.toUInt32).take width.bytes)) 0 = offset := word32_append [] _ offset
  have hdrop : (le32 offset ++ (le32 (UInt32.ofNat width.bytes) ++
      (le32 value.toUInt32).take width.bytes)).drop 8 =
        (le32 value.toUInt32).take width.bytes := rfl
  have hvalue : (Bytes.padTo ((le32 value.toUInt32).take width.bytes) 4 0).le32At 0 =
      UInt32.ofNat (value.toUInt32.toNat % 2 ^ (8 * width.bytes)) := by
    rw [Bytes.le32At_padTo (List.length_take_le' ..), Bytes.littleEndian_take_le32]
  rw [execute, hopcode, Opcode.category?_compose, Opcode.operation_compose, hrequest, hoffset,
    hdrop, hvalue]
  rfl

theorem execute_writeByte (offset : UInt32) (v : UInt8) :
    s.execute (Command.dataWrite offset .one v.toUInt32.toInt32).call =
      ([], { s.countWrite with
        registers := setRegister offset v.toUInt32.toInt32 s.registers }) := by
  rw [execute_dataWrite, Command.truncated_byte]

theorem execute_dataNotify (event : UInt32) :
    s.execute (Command.dataNotify event).call = ([], s.countWrite.notifyData event) := by
  have hopcode : (Command.dataNotify event).call.opcode = .compose .data 2 := rfl
  have h : word32 (Command.dataNotify event).call.request 0 = event := by
    have h := word32_append [] [] event
    rwa [List.append_nil] at h
  rw [execute, hopcode, Opcode.category?_compose, Opcode.operation_compose, h]
  rfl

theorem execute_espDfuStart (length : UInt32) (md5 : Octets 16) :
    s.execute (Command.espDfuStart length md5).call =
      ([], s.countWrite.startDfu (le32 0 ++ le32 length ++ md5.bytes)) := by
  have hopcode : (Command.espDfuStart length md5).call.opcode = .compose .espDfu 0 := rfl
  rw [execute, hopcode, Opcode.category?_compose, Opcode.operation_compose]
  rfl

theorem execute_espDfuWrite (data : Bytes) :
    s.execute (Command.espDfuWrite data).call = ([], s.countWrite.writeDfu data) := by
  have hopcode : (Command.espDfuWrite data).call.opcode = .compose .espDfu 1 := rfl
  rw [execute, hopcode, Opcode.category?_compose, Opcode.operation_compose]
  rfl

theorem execute_flashInfo :
    s.execute Command.flashInfo.call =
      (Bytes.overwrite (List.replicate 16 0) 0
        (le32 s.flashSize ++ le32 (UInt32.ofNat s.segments.length)), s) := by
  have hopcode : Command.flashInfo.call.opcode = .compose .flash 0 := rfl
  rw [execute, hopcode, Opcode.category?_compose, Opcode.operation_compose]
  rfl

theorem execute_flashSegmentInfo (index : UInt32) :
    (s.execute (Command.flashSegmentInfo index).call).2 = s := by
  have hopcode : (Command.flashSegmentInfo index).call.opcode = .compose .flash 1 := rfl
  rw [execute, hopcode, Opcode.category?_compose, Opcode.operation_compose]
  simp only
  split <;> rfl

theorem execute_flashErase (index : UInt8) :
    s.execute (Command.flashErase index).call = ([], s.countWrite.eraseSegment index.toNat) := by
  have hopcode : (Command.flashErase index).call.opcode = .compose .flash 2 := rfl
  rw [execute, hopcode, Opcode.category?_compose, Opcode.operation_compose]
  rfl

theorem execute_flashEraseProgress (index : UInt32) :
    s.execute (Command.flashEraseProgress index).call = ([s.pollErase.1], s.pollErase.2) := by
  have hopcode : (Command.flashEraseProgress index).call.opcode = .compose .flash 3 := rfl
  rw [execute, hopcode, Opcode.category?_compose, Opcode.operation_compose]
  rfl

theorem execute_flashWrite (index offset : UInt32) (data : Bytes) :
    s.execute (Command.flashWrite index offset data).call =
      ([], s.countWrite.writeSegment index.toNat offset.toNat data) := by
  have hopcode : (Command.flashWrite index offset data).call.opcode = .compose .flash 4 := rfl
  have hrequest : (Command.flashWrite index offset data).call.request =
      le32 index ++ le32 offset ++ (le32 0 ++ data) := by
    rw [← List.append_assoc]
    rfl
  have hindex : word32 (le32 index ++ le32 offset ++ (le32 0 ++ data)) 0 = index := by
    rw [List.append_assoc]
    exact word32_append [] _ index
  have hoffset : word32 (le32 index ++ le32 offset ++ (le32 0 ++ data)) 4 = offset :=
    word32_append (le32 index) _ offset
  rw [execute, hopcode, Opcode.category?_compose, Opcode.operation_compose, hrequest, hindex,
    hoffset]
  rfl

theorem startDfu_request {esp : SimulatedEsp} (hesp : s.esp = some esp) (length : UInt32)
    (md5 : Octets 16) :
    s.startDfu (le32 0 ++ le32 length ++ md5.bytes) =
      ({ s with esp := some { esp with
        started := some (length, md5), state := esp.config.states.dfu, memory := #[],
        blocks := 0 } }.signal.announce esp.config.notifications.nextBlock) := by
  have hlength : word32 (le32 0 ++ le32 length ++ md5.bytes) 4 = length :=
    word32_append (le32 0) md5.bytes length
  have hslice : (le32 0 ++ le32 length ++ md5.bytes).slice? 8 16 = some md5.bytes := by
    have h := Bytes.slice?_append (le32 0 ++ le32 length) md5.bytes []
    rwa [List.append_nil, md5.length_eq] at h
  have hmd5 : Octets.ofBytes 16 md5.bytes = some md5 := dif_pos md5.length_eq
  simp only [startDfu, hesp, hlength, hslice, Option.bind_some, hmd5, Option.getD_some]

theorem notifyData_bootMode {esp : SimulatedEsp} (hesp : s.esp = some esp) {mode : UInt8}
    (hmode : s.register esp.config.bootModeOffset = mode.toUInt32.toInt32) :
    s.notifyData esp.config.bootModeEvent =
      { s with
        notifyEvents := s.notifyEvents ++ [esp.config.bootModeEvent]
        esp := some { esp with state := mode } }.signal := by
  have hstate : (s.register esp.config.bootModeOffset).toUInt32.toUInt8 = mode := by
    rw [hmode, UInt32.toUInt32_toInt32, UInt8.toUInt8_toUInt32]
  unfold register at hstate
  simp only [notifyData, hesp, if_true, register, hstate]

theorem writeDfu_block {esp : SimulatedEsp} (hesp : s.esp = some esp) {block : Bytes}
    (hblock : block ≠ []) (hstall : esp.stallAfter = none) :
    s.writeDfu block = { s with esp := some (esp.take block) }.announce
      esp.config.notifications.nextBlock := by
  have hempty : block.isEmpty = false := List.isEmpty_eq_false_iff.mpr hblock
  have htake := esp.take_of_ne_nil hblock
  have hstalled : (esp.take block).hasStalled = false := by
    simp only [SimulatedEsp.hasStalled, htake, hstall, Option.any_none]
  simp only [writeDfu, hesp, Option.map_some, hempty, hstalled, Bool.false_eq_true, if_false]
  rw [htake]

theorem writeDfu_last {esp : SimulatedEsp} (hesp : s.esp = some esp) :
    s.writeDfu [] = { s with esp := some { esp with finished := true } }.announce
      esp.config.notifications.finish := by
  simp only [writeDfu, hesp, Option.map_some]
  rfl

theorem transact_of_sound (hsound : s.failing = []) (c : Call) :
    transport.transact c s =
      (.ok (s.execute c).1, { (s.execute c).2 with
        log := logName c.opcode :: (s.execute c).2.log }) := by
  change transact c s = _
  unfold transact
  rw [hsound]
  rfl

theorem command_succeeds {c : Command} {s' : Simulator} (hsound : s.failing = [])
    (hc : c.validate = .ok ()) (hlen : c.responseLength = 0) (hexec : s.execute c.call = ([], s')) :
    (Device.command c).Succeeds transport s fun _ d => ∃ log, d = { s' with log } := by
  have hreply := transact_of_sound hsound c.call
  rw [hexec] at hreply
  exact (Device.command_succeeds hc hreply hlen.symm).mono fun _ _ h => ⟨_, h⟩

theorem readByte_succeeds {offset : UInt32} {v : UInt8} (hsound : s.failing = [])
    (hv : s.readData offset = v.toUInt32.toInt32) :
    (Device.dataRead offset .one false).Succeeds transport s fun w d =>
      w = v.toUInt32.toInt32 ∧ ∃ log, d = { s with log } := by
  have hreply := transact_of_sound hsound (Command.dataRead offset .one).call
  have hbyte : (le32 v.toUInt32.toInt32.toUInt32).take Width.one.bytes = [v] :=
    congrArg ([·]) (Bytes.byteAt_le32 v)
  rw [execute_dataRead, hv, hbyte] at hreply
  have hread : (Device.dataRead offset .one false).Succeeds transport s fun w d =>
      w = v.toUInt32.toInt32 ∧ d = { s with log := _ :: s.log } :=
    Device.query_succeeds rfl hreply rfl rfl
  exact hread.mono fun _ _ h => ⟨h.1, _, h.2⟩

theorem listen_succeeds {bits : UInt32} {rest : List UInt32}
    (hqueue : s.notifications = bits :: rest) :
    Device.readNotification.Succeeds transport s fun b d =>
      b = some bits ∧ d = { s with notifications := rest } := by
  refine Device.readNotification_succeeds ?_
  change Simulator.readNotification s = _
  rw [Simulator.readNotification, hqueue]

end Simulator

end CardFirmware
