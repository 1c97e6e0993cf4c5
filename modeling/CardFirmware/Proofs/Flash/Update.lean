import CardFirmware.Flash.Update
import CardFirmware.Proofs.Chunks
import CardFirmware.Proofs.Device.Runs

/-! Which commands erase and write a segment, and how they fail. A write stays between the offset
it starts at and the end of the data that it is given. -/

namespace CardFirmware

namespace Segment

variable {s : Segment}

theorem IsErasable.toNat_index (h : s.IsErasable) :
    (UInt8.ofNat s.index.toNat).toNat = s.index.toNat :=
  UInt8.toNat_ofNat_of_lt' (Nat.lt_of_le_of_lt h.2.1 (by decide))

theorem IsErasable.validate_flashErase (h : s.IsErasable) :
    (Command.flashErase (UInt8.ofNat s.index.toNat)).validate = .ok () := by
  have hmax : s.index.toNat ≤ segmentNumberMax := Nat.le_trans h.2.1 (by decide)
  simp only [Command.validate, Command.checkSegment, h.toNat_index]
  exact if_pos ⟨h.1, hmax⟩

theorem validate_flashWrite (hfirst : 1 ≤ s.index.toNat) (hlast : s.index.toNat ≤ segmentNumberMax)
    (offset : UInt32) {chunk : Bytes} (hchunk : chunk.length ≤ flashWriteMax) :
    (Command.flashWrite s.index offset chunk).validate = .ok () := by
  simp only [Command.validate, Command.checkSegment, Command.checkSize]
  rw [if_pos ⟨hfirst, hlast⟩, if_pos hchunk]
  rfl

end Segment

namespace Flash

variable {es : List Event}

def Erases (s : Segment) (c : Command) : Prop :=
  (c = .flashErase (UInt8.ofNat s.index.toNat) ∧ s.IsErasable) ∨ c = .flashEraseProgress s.index

theorem awaitErase_sends (s : Segment) (n : Nat) (p : Progress) :
    (awaitErase s n p).Sends (Erases s) := by
  induction n generalizing p with
  | zero =>
    refine (Device.sends_query (.inr rfl)).orFail.bind fun raw => ?_
    split
    · exact Procedure.sends_pure p
    · exact Procedure.sends_throw _
  | succ n ih =>
    refine (Device.sends_query (.inr rfl)).orFail.bind fun raw => ?_
    split
    · exact Procedure.sends_pure p
    · exact (p.update_sends _).bind fun p => Procedure.sends_tick.bind fun _ => ih p

theorem erase_sends (s : Segment) (timings : FlashTimings) :
    (erase s timings).Sends (Erases s) := by
  unfold erase
  split
  · next h =>
    exact (Device.sends_command (.inl ⟨rfl, h⟩)).orFail.bind fun _ =>
      (awaitErase_sends s _ _).bind fun p => (p.update_sends 100).bind fun _ =>
        Procedure.sends_pure ()
  · exact Procedure.sends_throw _

def WritesWithin (s : Segment) (first last : Nat) (c : Command) : Prop :=
  ∃ offset chunk, c = .flashWrite s.index (UInt32.ofNat offset) chunk ∧ first ≤ offset ∧
    offset + chunk.length ≤ last

theorem writeChunks_sends (s : Segment) (total offset : Nat) (p : Progress) (chunks : List Bytes) :
    (writeChunks s total offset p chunks).Sends
      (WritesWithin s offset (offset + chunks.flatten.length)) := by
  induction chunks generalizing offset p with
  | nil => exact Procedure.sends_pure p
  | cons chunk chunks ih =>
    rw [List.flatten_cons, List.length_append, ← Nat.add_assoc]
    have hfirst : WritesWithin s offset (offset + chunk.length + chunks.flatten.length)
        (.flashWrite s.index (UInt32.ofNat offset) chunk) :=
      ⟨offset, chunk, rfl, Nat.le_refl _, Nat.le_add_right ..⟩
    refine (Device.sends_command hfirst).orFail.bind fun _ => (p.update_sends _).bind fun p =>
      Procedure.sends_tick.bind fun _ => (ih (offset + chunk.length) p).mono ?_
    rintro c ⟨o, d, rfl, hlo, hhi⟩
    exact ⟨o, d, rfl, Nat.le_trans (Nat.le_add_right ..) hlo, hhi⟩

theorem write_sends (s : Segment) (data : Bytes) :
    (write s data).Sends (WritesWithin s 0 data.length) := by
  have h := writeChunks_sends s data.length 0 {} (data.chunksOf flashWriteMax)
  rw [Bytes.flatten_chunksOf (by decide), Nat.zero_add] at h
  exact h.bind fun p => (p.update_sends 100).bind fun _ => Procedure.sends_pure ()

/-- Offsets within a segment are 32-bit numbers, so that no write wraps around. -/
theorem WritesWithin.le_size {s : Segment} {last : Nat} {c : Command} (h : WritesWithin s 0 last c)
    (hlast : last ≤ s.size.toNat) :
    ∃ offset data, c = .flashWrite s.index offset data ∧
      offset.toNat + data.length ≤ s.size.toNat := by
  obtain ⟨o, chunk, rfl, -, hle⟩ := h
  have hsize := s.size.toNat_lt_size
  have ho : o < UInt32.size := by omega
  refine ⟨UInt32.ofNat o, chunk, rfl, ?_⟩
  rw [UInt32.toNat_ofNat_of_lt' ho]
  omega

def FailsRunning (e : DriverError) : Prop := e.code = .read ∨ e.code = .write ∨ e.code = .timeout

theorem awaitErase_fails (s : Segment) (n : Nat) (p : Progress) :
    (awaitErase s n p).Fails FailsRunning := by
  induction n generalizing p with
  | zero =>
    refine (Procedure.fails_orFail fun e => .inl rfl).bind fun raw => ?_
    split
    · exact Procedure.fails_pure p
    · exact Procedure.fails_throw (.inr (.inr rfl))
  | succ n ih =>
    refine (Procedure.fails_orFail fun e => .inl rfl).bind fun raw => ?_
    split
    · exact Procedure.fails_pure p
    · exact (p.update_fails _).bind fun p => Procedure.fails_tick.bind fun _ => ih p

theorem erase_fails (s : Segment) (timings : FlashTimings) :
    (erase s timings).Fails FailsRunning := by
  unfold erase
  split
  · exact (Procedure.fails_orFail fun e => .inr (.inl rfl)).bind fun _ =>
      (awaitErase_fails s _ _).bind fun p => (p.update_fails 100).bind fun _ =>
        Procedure.fails_pure ()
  · exact Procedure.fails_throw (.inl rfl)

theorem writeChunks_fails (s : Segment) (total offset : Nat) (p : Progress) (chunks : List Bytes) :
    (writeChunks s total offset p chunks).Fails FailsRunning := by
  induction chunks generalizing offset p with
  | nil => exact Procedure.fails_pure p
  | cons chunk chunks ih =>
    exact (Procedure.fails_orFail fun e => .inr (.inl rfl)).bind fun _ =>
      (p.update_fails _).bind fun p => Procedure.fails_tick.bind fun _ => ih _ p

theorem write_fails (s : Segment) (data : Bytes) : (write s data).Fails FailsRunning :=
  (writeChunks_fails s _ _ _ _).bind fun p => (p.update_fails 100).bind fun _ =>
    Procedure.fails_pure ()

end Flash

namespace FirmwarePayload

theorem hasDigest_iff {p : FirmwarePayload} : p.hasDigest ↔ Sha256.hash p.data = p.sha256 :=
  decide_eq_true_iff

theorem checkUsbId_eq_ok {p : FirmwarePayload} {id : UsbId} :
    p.checkUsbId id = .ok () ↔ p.vid = id.vid ∧ p.pid = id.pid := by
  unfold checkUsbId
  split <;> simp [*]

theorem checkApp_eq_ok {p : FirmwarePayload} {upgrade : Segment} {id : UsbId} :
    p.checkApp upgrade id = .ok () ↔
      (appFirmwareMin ≤ p.data.length ∧ p.data.length ≤ upgrade.size.toNat) ∧
        Sha256.hash p.data = p.sha256 ∧ p.vid = id.vid ∧ p.pid = id.pid := by
  unfold checkApp
  split
  · next hsize =>
    split
    · next hd => simp [hsize, hasDigest_iff.mp hd, checkUsbId_eq_ok]
    · next hd =>
      have : Sha256.hash p.data ≠ p.sha256 := fun h => hd (hasDigest_iff.mpr h)
      simp [this]
  · next hsize => simp [hsize]

end FirmwarePayload

namespace Flash

variable {es : List Event}

theorem runs_updateApp {d : FlashDirectory} {p : FirmwarePayload} {id : UsbId}
    {r : Except DriverError Unit} (h : (updateApp d p id).Runs es r) :
    (∃ e, p.checkApp d.upgrade id = .error e ∧ es = [] ∧ r = .error e) ∨
      (p.checkApp d.upgrade id = .ok () ∧ (write d.upgrade p.data).Runs es r) := by
  obtain ⟨e, h₁, rfl⟩ | ⟨⟨⟩, es₁, es₂, rfl, h₁, h₂⟩ := Procedure.runs_bind.mp h
  · obtain ⟨rfl, he⟩ := Procedure.runs_ofExcept.mp h₁
    exact .inl ⟨e, he.symm, rfl, rfl⟩
  · obtain ⟨rfl, he⟩ := Procedure.runs_ofExcept.mp h₁
    exact .inr ⟨he.symm, h₂⟩

end Flash

end CardFirmware
