import CardFirmware.Proofs.Chunks
import CardFirmware.Proofs.Device.Simulator
import CardFirmware.Proofs.Esp.Transfer

/-! The update of a simulated coprocessor, which comes to its end whatever other notifications are
around. A signal adds one that matters to the queue and a wait takes one off, so that every wait
finds one, and none has many others in front of it (`Spaced`). -/

namespace CardFirmware

/-- The queue has `n` notifications that matter, with `stale + 1` others at most in front of each
and `stale` at most behind the last. -/
inductive Spaced (mask : UInt32) (stale : Nat) : Nat → List UInt32 → Prop
  | others {queue : List UInt32} (hqueue : ∀ bits ∈ queue, bits &&& mask = 0)
      (hlen : queue.length ≤ stale) : Spaced mask stale 0 queue
  | next {n : Nat} {front rest : List UInt32} {bits : UInt32}
      (hfront : ∀ bits ∈ front, bits &&& mask = 0) (hlen : front.length ≤ stale + 1)
      (hbits : bits &&& mask ≠ 0) (hrest : Spaced mask stale n rest) :
      Spaced mask stale (n + 1) (front ++ bits :: rest)

namespace Spaced

variable {mask bits : UInt32} {stale n : Nat} {queue : List UInt32}

theorem cons (h : Spaced mask stale n queue) (hbits : bits &&& mask ≠ 0) :
    Spaced mask stale (n + 1) (bits :: queue) := by
  have hnext : Spaced mask stale (n + 1) ([] ++ bits :: queue) :=
    .next (fun _ hb => absurd hb List.not_mem_nil) (Nat.zero_le _) hbits h
  exact hnext

theorem nil : Spaced mask stale 0 [] :=
  .others (fun _ hb => absurd hb List.not_mem_nil) (Nat.zero_le stale)

theorem of_length_le (h : queue.length ≤ stale) : ∃ n, Spaced mask stale n queue := by
  induction queue with
  | nil => exact ⟨0, nil⟩
  | cons bits queue ih =>
    rw [List.length_cons] at h
    obtain ⟨n, hqueue⟩ := ih (Nat.le_of_succ_le h)
    by_cases hbits : bits &&& mask = 0
    · cases hqueue with
      | others hothers hlen =>
        exact ⟨0, .others (List.forall_mem_cons.mpr ⟨hbits, hothers⟩) h⟩
      | @next n front rest bits' hfront hlen hbits' hrest =>
        -- the whole queue is short, so the first that matters may have one more in front
        rw [List.length_append, List.length_cons] at h
        have hlen' : (bits :: front).length ≤ stale + 1 := by
          rw [List.length_cons]
          omega
        rw [← List.cons_append]
        exact ⟨n + 1, .next (List.forall_mem_cons.mpr ⟨hbits, hfront⟩) hlen' hbits' hrest⟩
    · exact ⟨n + 1, hqueue.cons hbits⟩

theorem signal (hmask : mask ≠ 0) (noise : Option UInt32) (h : Spaced mask stale n queue) :
    ∃ m, n + 1 ≤ m ∧ Spaced mask stale m (queue ++ noise.toList ++ [mask]) := by
  have hself : mask &&& mask ≠ 0 := by rwa [UInt32.and_self]
  induction h with
  | @others queue hqueue hlen =>
    cases noise with
    | none =>
      rw [Option.toList_none, List.append_nil]
      exact ⟨1, Nat.le_refl 1, .next hqueue (Nat.le_succ_of_le hlen) hself nil⟩
    | some bits =>
      rw [Option.toList_some]
      by_cases hbits : bits &&& mask = 0
      · refine ⟨1, Nat.le_refl 1, .next ?_ ?_ hself nil⟩
        · exact List.forall_mem_append.mpr ⟨hqueue, List.forall_mem_singleton.mpr hbits⟩
        · rw [List.length_append, List.length_singleton]
          exact Nat.succ_le_succ hlen
      · rw [List.append_assoc]
        exact ⟨2, by decide, .next hqueue (Nat.le_succ_of_le hlen) hbits (nil.cons hself)⟩
  | next hfront hlen hbits _ ih =>
    obtain ⟨m, hm, hrest⟩ := ih
    -- what is signalled goes behind the last that matters
    rw [List.append_assoc, List.append_assoc, List.cons_append, ← List.append_assoc _ _ [mask]]
    exact ⟨m + 1, Nat.succ_le_succ hm, .next hfront hlen hbits hrest⟩

end Spaced

namespace SimulatedEsp

variable (esp : SimulatedEsp)

def start (length : UInt32) (md5 : Octets 16) : SimulatedEsp :=
  { esp with
    started := some (length, md5), state := esp.config.states.dfu, memory := #[], blocks := 0 }

end SimulatedEsp

/-- A sound device with this flash and this coprocessor, which never stalls. At least `pending` of
its notifications matter, and the code in the notification register is the given one, if any. -/
structure Simulator.Shows (config : EspConfig) (stale : Nat) (segments : List SimulatedSegment)
    (esp : SimulatedEsp) (pending : Nat) (code : Option UInt8) (s : Simulator) : Prop where
  failing_eq : s.failing = []
  segments_eq : s.segments = segments
  esp_eq : s.esp = some esp
  config_eq : esp.config = config
  stallAfter_eq : esp.stallAfter = none
  spaced : ∃ n, pending ≤ n ∧ Spaced config.changeMask stale n s.notifications
  code_eq : ∀ v, code = some v → s.register config.notifyOffset = v.toUInt32.toInt32

namespace Simulator.Shows

variable {config : EspConfig} {stale pending : Nat} {segments : List SimulatedSegment}
  {esp : SimulatedEsp} {code : Option UInt8} {s : Simulator}

theorem withLog (h : Shows config stale segments esp pending code s) (log : List String) :
    Shows config stale segments esp pending code { s with log } :=
  ⟨h.failing_eq, h.segments_eq, h.esp_eq, h.config_eq, h.stallAfter_eq, h.spaced, h.code_eq⟩

theorem forget (h : Shows config stale segments esp pending code s) :
    Shows config stale segments esp pending none s :=
  { h with code_eq := fun _ hv => nomatch hv }

theorem signal (hmask : config.changeMask ≠ 0)
    (h : Shows config stale segments esp pending code s) :
    Shows config stale segments esp (pending + 1) code s.signal := by
  have hsignal : s.signal = { s with
      notifications := s.notifications ++ esp.noise.toList ++ [config.changeMask] } := by
    simp only [Simulator.signal, h.esp_eq, h.config_eq]
  obtain ⟨n, hn, hspaced⟩ := h.spaced
  obtain ⟨m, hm, hspaced'⟩ := hspaced.signal hmask esp.noise
  rw [hsignal]
  exact { h with spaced := ⟨m, Nat.le_trans (Nat.succ_le_succ hn) hm, hspaced'⟩ }

theorem announce (hmask : config.changeMask ≠ 0)
    (h : Shows config stale segments esp pending code s) (v : UInt8) :
    Shows config stale segments esp (pending + 1) (some v) (s.announce v) := by
  have hannounce : s.announce v = { s with
      registers := setRegister config.notifyOffset v.toUInt32.toInt32 s.registers }.signal := by
    simp only [Simulator.announce, h.esp_eq, h.config_eq]
  rw [hannounce]
  refine signal hmask { h with code_eq := ?_ }
  rintro v' ⟨⟩
  rw [register, lookup_setRegister]
  rfl

theorem write (h : Shows config stale segments esp pending code s) (offset : UInt32)
    (value : Int32) :
    Shows config stale segments esp pending none
      { s.countWrite with registers := setRegister offset value s.registers } :=
  { h with code_eq := fun _ hv => nomatch hv }

theorem notify (hmask : config.changeMask ≠ 0)
    (h : Shows config stale segments esp pending code s) {mode : UInt8}
    (hmode : s.register config.bootModeOffset = mode.toUInt32.toInt32) :
    Shows config stale segments { esp with state := mode } (pending + 1) code
      (s.countWrite.notifyData config.bootModeEvent) := by
  obtain rfl := h.config_eq
  rw [Simulator.notifyData_bootMode (s := s.countWrite) h.esp_eq hmode]
  exact signal hmask { h with esp_eq := rfl }

theorem startDfu (hmask : config.changeMask ≠ 0)
    (h : Shows config stale segments esp pending code s) (length : UInt32) (md5 : Octets 16) :
    Shows config stale segments (esp.start length md5) (pending + 2)
      (some config.notifications.nextBlock)
      (s.countWrite.startDfu (Bytes.le32 0 ++ Bytes.le32 length ++ md5.bytes)) := by
  obtain rfl := h.config_eq
  rw [Simulator.startDfu_request (s := s.countWrite) h.esp_eq]
  have hstarted : Shows esp.config stale segments (esp.start length md5) pending code
      { s.countWrite with esp := some (esp.start length md5) } := { h with esp_eq := rfl }
  exact (hstarted.signal hmask).announce hmask _

theorem writeDfu_block (hmask : config.changeMask ≠ 0)
    (h : Shows config stale segments esp pending code s) {block : Bytes} (hblock : block ≠ []) :
    Shows config stale segments (esp.take block) (pending + 1)
      (some config.notifications.nextBlock) (s.countWrite.writeDfu block) := by
  obtain rfl := h.config_eq
  rw [Simulator.writeDfu_block (s := s.countWrite) h.esp_eq hblock h.stallAfter_eq,
    esp.take_of_ne_nil hblock]
  have htaken : Shows esp.config stale segments
      { esp with memory := esp.memory ++ block, blocks := esp.blocks + 1 } pending code
      { s.countWrite with esp := some _ } := { h with esp_eq := rfl }
  exact htaken.announce hmask _

theorem writeDfu_last (hmask : config.changeMask ≠ 0)
    (h : Shows config stale segments esp pending code s) :
    Shows config stale segments { esp with finished := true } (pending + 1)
      (some config.notifications.finish) (s.countWrite.writeDfu []) := by
  obtain rfl := h.config_eq
  rw [Simulator.writeDfu_last (s := s.countWrite) h.esp_eq]
  have hended : Shows esp.config stale segments { esp with finished := true } pending code
      { s.countWrite with esp := some _ } := { h with esp_eq := rfl }
  exact hended.announce hmask _

end Simulator.Shows

namespace Esp

open Simulator (Shows transport)

variable {config : EspConfig} {timings : DfuTimings} {stale pending : Nat}
  {segments : List SimulatedSegment} {esp : SimulatedEsp} {code : Option UInt8} {s : Simulator}

theorem state_succeeds (h : Shows config stale segments esp pending code s) :
    (state config).Succeeds transport s fun v s' =>
      v = esp.state ∧ Shows config stale segments esp pending code s' := by
  have hread : s.readData config.stateOffset = esp.state.toUInt32.toInt32 := by
    simp only [Simulator.readData, h.esp_eq, h.config_eq, if_true]
  refine (Simulator.readByte_succeeds h.failing_eq hread).orFail.bind ?_
  rintro v s' ⟨rfl, log, rfl⟩
  exact Procedure.succeeds_pure ⟨UInt8.toUInt8_toUInt32 _, h.withLog log⟩

theorem awaitChange_reads {awaited : String} {front rest : List UInt32} {bits : UInt32} {n : Nat}
    (hfront : ∀ bits ∈ front, bits &&& config.changeMask = 0)
    (hbits : bits &&& config.changeMask ≠ 0) (hqueue : s.notifications = front ++ bits :: rest)
    (hn : front.length < n) :
    (awaitChange config awaited n).Succeeds transport s fun _ s' =>
      s' = { s with notifications := rest } := by
  obtain ⟨n, rfl⟩ := Nat.exists_eq_add_one_of_ne_zero (Nat.ne_zero_of_lt hn)
  induction front generalizing n s with
  | nil =>
    refine (Simulator.listen_succeeds hqueue).orFail.bind ?_
    rintro b s' ⟨rfl, rfl⟩
    simp only [if_pos hbits]
    exact Procedure.succeeds_pure rfl
  | cons other front ih =>
    obtain ⟨hother, hfront⟩ := List.forall_mem_cons.mp hfront
    refine (Simulator.listen_succeeds hqueue).orFail.bind ?_
    rintro b s' ⟨rfl, rfl⟩
    -- this one does not matter: the wait has one read less, and one less to pass over
    simp only [hother, ne_eq, not_true_eq_false, if_false]
    have hshort := Nat.lt_of_succ_lt_succ hn
    obtain ⟨k, rfl⟩ := Nat.exists_eq_add_one_of_ne_zero (Nat.ne_zero_of_lt hshort)
    exact ih hfront rfl k hshort

theorem awaitChange_succeeds {awaited : String} {reads : Nat} (hreads : stale + 2 ≤ reads)
    (h : Shows config stale segments esp (pending + 1) code s) :
    (awaitChange config awaited reads).Succeeds transport s fun _ s' =>
      Shows config stale segments esp pending code s' := by
  obtain ⟨n, hn, hspaced⟩ := h.spaced
  generalize hqueue : s.notifications = queue at hspaced
  cases hspaced with
  | others => exact absurd hn (Nat.not_succ_le_zero pending)
  | next hfront hlen hbits hrest =>
    refine (awaitChange_reads hfront hbits hqueue (by omega)).mono ?_
    rintro _ s' rfl
    exact { h with spaced := ⟨_, Nat.le_of_succ_le_succ hn, hrest⟩ }

theorem awaitState_succeeds {n : Nat} {actual : UInt8} (hn : 1 ≤ n)
    (h : Shows config stale segments esp pending code s) :
    (awaitState config esp.state n actual).Succeeds transport s fun _ s' =>
      Shows config stale segments esp pending code s' := by
  obtain ⟨n, rfl⟩ := Nat.exists_eq_add_of_le' hn
  refine (state_succeeds h).bind ?_
  rintro v s' ⟨rfl, h'⟩
  rw [if_pos rfl]
  exact Procedure.succeeds_pure h'

theorem awaitNotify_succeeds {awaited : String} {reads n : Nat} {expected : UInt8}
    (hoffsets : config.notifyOffset ≠ config.stateOffset) (hreads : stale + 2 ≤ reads)
    (hn : 1 ≤ n) (h : Shows config stale segments esp (pending + 1) (some expected) s) :
    (awaitNotify config reads expected awaited n).Succeeds transport s fun _ s' =>
      Shows config stale segments esp pending none s' := by
  obtain ⟨n, rfl⟩ := Nat.exists_eq_add_of_le' hn
  refine (awaitChange_succeeds hreads h).bind ?_
  intro _ s₁ h₁
  have hread : s₁.readData config.notifyOffset = expected.toUInt32.toInt32 := by
    rw [← h₁.code_eq expected rfl]
    simp only [Simulator.readData, h₁.esp_eq, h₁.config_eq, if_neg hoffsets]
  refine (Simulator.readByte_succeeds h₁.failing_eq hread).orFail.bind ?_
  rintro v s₂ ⟨rfl, log₂, rfl⟩
  have h₂ := h₁.withLog log₂
  refine (Simulator.command_succeeds h₂.failing_eq rfl rfl
    (Simulator.execute_writeByte _ _)).orFail.bind ?_
  rintro _ s₃ ⟨log₃, rfl⟩
  rw [UInt32.toUInt32_toInt32, UInt8.toUInt8_toUInt32, if_pos rfl]
  exact Procedure.succeeds_pure ((h₂.write _ _).withLog log₃)

theorem setBootMode_succeeds (hmask : config.changeMask ≠ 0)
    (h : Shows config stale segments esp pending code s) (target : UInt8) :
    (setBootMode config target).Succeeds transport s fun _ s' =>
      Shows config stale segments { esp with state := target } (pending + 1) none s' := by
  refine (Simulator.command_succeeds h.failing_eq rfl rfl
    (Simulator.execute_writeByte config.bootModeOffset target)).orFail.bind ?_
  rintro _ s₁ ⟨log₁, rfl⟩
  have h₁ := (h.write config.bootModeOffset target.toUInt32.toInt32).withLog log₁
  refine (Simulator.command_succeeds h₁.failing_eq rfl rfl
    (Simulator.execute_dataNotify config.bootModeEvent)).orFail.mono ?_
  rintro _ s₂ ⟨log₂, rfl⟩
  refine (h₁.notify hmask ?_).withLog log₂
  rw [Simulator.register, Simulator.lookup_setRegister]
  rfl

/-- What a device map and the time limits must give, so that a coprocessor can be waited for which
`stale` notifications precede. -/
structure Suffices (config : EspConfig) (timings : DfuTimings) (stale : Nat) : Prop where
  mask_ne : config.changeMask ≠ 0
  offset_ne : config.notifyOffset ≠ config.stateOffset
  stateAttempts_pos : 1 ≤ timings.stateAttempts
  notifyAttempts_pos : 1 ≤ timings.notifyAttempts
  reads_le : stale + 2 ≤ timings.notificationReads

section Phases

variable (hsuffices : Suffices config timings stale)
include hsuffices

theorem setState_succeeds (h : Shows config stale segments esp pending code s) (target : UInt8) :
    (setState config timings target).Succeeds transport s fun _ s' =>
      Shows config stale segments { esp with state := target } pending none s' := by
  refine (setBootMode_succeeds hsuffices.mask_ne h target).bind fun _ s₁ h₁ => ?_
  refine (awaitChange_succeeds hsuffices.reads_le h₁).bind fun _ s₂ h₂ => ?_
  exact awaitState_succeeds hsuffices.stateAttempts_pos h₂

theorem makeOff_succeeds (h : Shows config stale segments esp pending code s)
    (hstart : MayStart config esp.state) :
    (makeOff config timings esp.state).Succeeds transport s fun _ s' =>
      Shows config stale segments { esp with state := config.states.off } pending none s' := by
  unfold makeOff
  rw [if_neg hstart.1]
  split
  · exact setState_succeeds hsuffices h _
  · next hnormal =>
    have hoff : esp.state = config.states.off := hstart.2.resolve_right hnormal
    rw [if_neg (not_not_intro hoff), ← hoff]
    exact Procedure.succeeds_pure h.forget

theorem start_succeeds (h : Shows config stale segments esp pending code s) (data : Bytes)
    (md5 : Octets 16) :
    (start config timings data md5).Succeeds transport s fun _ s' =>
      Shows config stale segments (esp.start (UInt32.ofNat data.length) md5) pending none s' := by
  obtain rfl := h.config_eq
  refine (Simulator.command_succeeds h.failing_eq rfl rfl
    (Simulator.execute_espDfuStart (UInt32.ofNat data.length) md5)).orFail.bind ?_
  rintro _ s₁ ⟨log₁, rfl⟩
  have h₁ := (h.startDfu hsuffices.mask_ne (UInt32.ofNat data.length) md5).withLog log₁
  refine (awaitChange_succeeds hsuffices.reads_le h₁).bind fun _ s₂ h₂ => ?_
  refine (awaitState_succeeds hsuffices.stateAttempts_pos h₂).bind fun _ s₃ h₃ => ?_
  exact awaitNotify_succeeds hsuffices.offset_ne hsuffices.reads_le hsuffices.notifyAttempts_pos h₃

theorem sendBlocks_succeeds {blocks : List Bytes}
    (hblocks : ∀ block ∈ blocks, 1 ≤ block.length ∧ block.length ≤ espBlockSize)
    (h : Shows config stale segments esp pending none s) (total offset : Nat) (p : Progress) :
    (sendBlocks config timings total offset p blocks).Succeeds transport s fun _ s' =>
      Shows config stale segments (blocks.foldl (fun esp block => esp.take block) esp) pending none
        s' := by
  induction blocks generalizing esp s offset p with
  | nil => exact Procedure.succeeds_pure h
  | cons block blocks ih =>
    obtain ⟨hblock, hrest⟩ := List.forall_mem_cons.mp hblocks
    have hvalid : (Command.espDfuWrite block).validate = .ok () := if_pos hblock.2
    refine (Simulator.command_succeeds h.failing_eq hvalid rfl
      (Simulator.execute_espDfuWrite block)).orFail.bind ?_
    rintro _ s₁ ⟨log₁, rfl⟩
    have hne : block ≠ [] := List.ne_nil_of_length_pos hblock.1
    have h₁ := (h.writeDfu_block hsuffices.mask_ne hne).withLog log₁
    refine (awaitNotify_succeeds hsuffices.offset_ne hsuffices.reads_le
      hsuffices.notifyAttempts_pos h₁).bind fun _ s₂ h₂ => ?_
    refine (p.update_succeeds _).bind ?_
    rintro p' _ rfl
    refine Procedure.succeeds_tick.bind ?_
    rintro _ _ rfl
    exact ih hrest h₂ _ p'

theorem conclude_succeeds (h : Shows config stale segments esp pending none s) :
    (conclude config timings).Succeeds transport s fun _ s' =>
      Shows config stale segments { esp with finished := true, state := config.states.normal }
        pending none s' := by
  refine (Simulator.command_succeeds h.failing_eq rfl rfl
    (Simulator.execute_espDfuWrite [])).orFail.bind ?_
  rintro _ s₁ ⟨log₁, rfl⟩
  have h₁ := (h.writeDfu_last hsuffices.mask_ne).withLog log₁
  refine (awaitNotify_succeeds hsuffices.offset_ne hsuffices.reads_le
    hsuffices.notifyAttempts_pos h₁).bind fun _ s₂ h₂ => ?_
  refine (setState_succeeds hsuffices h₂ config.states.off).bind fun _ s₃ h₃ => ?_
  exact setState_succeeds hsuffices h₃ config.states.normal

theorem transfer_succeeds (h : Shows config stale segments esp pending code s)
    (hstart : MayStart config esp.state) (data : Bytes) (md5 : Octets 16) (p : Progress) :
    (transfer config timings data md5 p).Succeeds transport s fun _ s' =>
      Shows config stale segments
        { (data.chunksOf espBlockSize).foldl (fun esp block => esp.take block)
            (esp.start (UInt32.ofNat data.length) md5) with
          finished := true, state := config.states.normal }
        pending none s' := by
  rw [transfer_eq]
  refine (state_succeeds h).bind ?_
  rintro _ s₁ ⟨rfl, h₁⟩
  refine (makeOff_succeeds hsuffices h₁ hstart).bind fun _ s₂ h₂ => ?_
  refine (start_succeeds hsuffices h₂ data md5).bind fun _ s₃ h₃ => ?_
  refine (sendBlocks_succeeds hsuffices ?_ h₃ _ _ _).bind fun p s₄ h₄ => ?_
  · exact fun block hblock => Bytes.length_of_mem_chunksOf (by decide) hblock
  · refine (conclude_succeeds hsuffices h₄).bind fun _ s₅ h₅ => ?_
    exact Procedure.succeeds_pure h₅

theorem update_succeeds {id : UsbId} {payload : FirmwarePayload}
    (h : Shows config stale segments esp pending code s) (hstart : MayStart config esp.state)
    (hid : payload.checkUsbId id = .ok ()) (hdigest : payload.hasDigest = true) :
    (update (some config) id payload timings).Succeeds transport s fun _ s' =>
      Shows config stale segments
        { (payload.data.chunksOf espBlockSize).foldl (fun esp block => esp.take block)
            (esp.start (UInt32.ofNat payload.data.length) payload.md5) with
          finished := true, state := config.states.normal }
        pending none s' := by
  refine (Procedure.succeeds_ofExcept hid).bind ?_
  rintro _ _ ⟨-, rfl⟩
  rw [if_pos hdigest]
  refine (Progress.update_succeeds {} 0).bind ?_
  rintro p _ rfl
  refine (transfer_succeeds hsuffices h hstart payload.data payload.md5 p).orFail.bind ?_
  intro p s' h'
  refine (p.update_succeeds 100).bind ?_
  rintro _ _ rfl
  exact Procedure.succeeds_pure h'

end Phases

theorem foldl_take {blocks : List Bytes} (hblocks : ∀ block ∈ blocks, block ≠ []) :
    blocks.foldl (fun esp block => esp.take block) esp =
      { esp with
        memory := esp.memory ++ blocks.flatten, blocks := esp.blocks + blocks.length } := by
  induction blocks generalizing esp with
  | nil => simp
  | cons block blocks ih =>
    obtain ⟨hblock, hrest⟩ := List.forall_mem_cons.mp hblocks
    have hmemory : esp.memory ++ block ++ blocks.flatten =
        esp.memory ++ (block ++ blocks.flatten) := Array.ext' (by simp)
    rw [List.foldl_cons, ih hrest, esp.take_of_ne_nil hblock]
    simp only [List.flatten_cons, hmemory, List.length_cons, Nat.add_assoc, Nat.add_comm 1]

/-- An update succeeds and leaves the coprocessor running with the image, if it was running or off
and each wait may read the notifications in the queue and two more. Neither the noise nor the
registers matter, and the flash is as it was. -/
theorem update_completes (config : EspConfig) (timings : DfuTimings) (id : UsbId)
    (payload : FirmwarePayload) (device : Simulator) (esp : SimulatedEsp)
    (hmask : config.changeMask ≠ 0) (hoffsets : config.notifyOffset ≠ config.stateOffset)
    (hesp : device.esp = some esp) (hconfig : esp.config = config) (hrunning : esp.state ≠ 0)
    (hstate : esp.state = config.states.off ∨ esp.state = config.states.normal)
    (hstall : esp.stallAfter = none) (hsound : device.failing = [])
    (hid : payload.vid = id.vid ∧ payload.pid = id.pid)
    (hdigest : Sha256.hash payload.data = payload.sha256)
    (hlength : payload.data.length < UInt32.size) (hstates : 1 ≤ timings.stateAttempts)
    (hnotifies : 1 ≤ timings.notifyAttempts)
    (hreads : device.notifications.length + 2 ≤ timings.notificationReads) :
    ∃ link esp', (update (some config) id payload timings).perform Simulator.transport device =
        (.ok (), link) ∧
      link.device.esp = some esp' ∧ esp'.received = payload.data ∧
      (∃ n, esp'.started = some (n, payload.md5) ∧ n.toNat = payload.data.length) ∧
      esp'.blocks = (payload.data.length + 1023) / 1024 ∧ esp'.finished = true ∧
      esp'.state = config.states.normal ∧ link.device.segments = device.segments := by
  have hsuffices : Suffices config timings device.notifications.length :=
    ⟨hmask, hoffsets, hstates, hnotifies, hreads⟩
  -- nothing is known of the queue at the start but how long it is
  obtain ⟨n, hspaced⟩ : ∃ n, Spaced config.changeMask device.notifications.length n
      device.notifications := Spaced.of_length_le (Nat.le_refl _)
  have hshows : Shows config device.notifications.length device.segments esp 0 none device :=
    ⟨hsound, rfl, hesp, hconfig, hstall, ⟨n, Nat.zero_le n, hspaced⟩, fun _ hv => nomatch hv⟩
  obtain ⟨_, link, hrun, h⟩ := update_succeeds hsuffices hshows ⟨hrunning, hstate⟩ (if_pos hid)
    (decide_eq_true hdigest) []
  have hblocks : ∀ block ∈ payload.data.chunksOf espBlockSize, block ≠ [] := fun block hblock =>
    List.ne_nil_of_length_pos (Bytes.length_of_mem_chunksOf (by decide) hblock).1
  rw [foldl_take hblocks] at h
  refine ⟨link, _, hrun, h.esp_eq, ?_, ⟨_, rfl, ?_⟩, ?_, rfl, rfl, h.segments_eq⟩
  · have hflatten := Bytes.flatten_chunksOf (n := espBlockSize) (by decide) payload.data
    simp [SimulatedEsp.received, SimulatedEsp.start, hflatten]
  · exact UInt32.toNat_ofNat_of_lt' hlength
  · have hcount := Bytes.length_chunksOf (n := espBlockSize) (by decide) payload.data
    simp only [SimulatedEsp.start, Nat.zero_add]
    exact hcount

/-- The noise is taken for a signal, and so is one of the notifications that were left over. -/
theorem noisy_update_completes :
    let config : EspConfig := ⟨⟨1, 2, 3⟩, ⟨0, 1, 2, 3⟩, 0x10, 0x20, 0x30, 8, 5⟩
    let esp : SimulatedEsp := { config, state := 3, noise := some 24 }
    let device : Simulator :=
      { esp := some esp, notifications := [4, 8], registers := [(0x30, 7)] }
    let payload : FirmwarePayload := ⟨1, 2, Sha256.hash [7, 8, 9], Octets.zero 16, [7, 8, 9]⟩
    24 &&& config.changeMask ≠ 0 ∧ device.notifications.any (· &&& config.changeMask ≠ 0) ∧
      ∃ link esp', (update (some config) ⟨1, 2⟩ payload ⟨4, 1, 1⟩).perform Simulator.transport
          device = (.ok (), link) ∧
        link.device.esp = some esp' ∧ esp'.received = [7, 8, 9] ∧
        (∃ n, esp'.started = some (n, Octets.zero 16) ∧ n.toNat = 3) ∧ esp'.blocks = 1 ∧
        esp'.finished = true ∧ esp'.state = 3 ∧ link.device.segments = [] := by
  intro config esp device payload
  refine ⟨by decide, by decide, ?_⟩
  obtain ⟨link, esp', hrun, hesp, hreceived, hstarted, hblocks, hfinished, hstate, hsegments⟩ :=
    update_completes config ⟨4, 1, 1⟩ ⟨1, 2⟩ payload device esp (by decide) (by decide) rfl rfl
      (by decide) (.inr rfl) rfl rfl ⟨rfl, rfl⟩ rfl (by decide) (by decide) (by decide) (by decide)
  have hcount : (payload.data.length + 1023) / 1024 = 1 := by decide
  exact ⟨link, esp', hrun, hesp, hreceived, hstarted, hblocks.trans hcount, hfinished, hstate,
    hsegments⟩

end Esp

end CardFirmware
