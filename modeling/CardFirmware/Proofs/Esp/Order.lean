import CardFirmware.Device.Simulator
import CardFirmware.Proofs.Chunks
import CardFirmware.Proofs.Device.Order
import CardFirmware.Proofs.Esp.History
import CardFirmware.Proofs.Esp.Transfer

/-! The order in which an image is transferred, whatever the device answers: the coprocessor is off
before it is told to expect an image, every block is asked for since the one before it, and the
coprocessor is started again only after it has reported the end. -/

namespace CardFirmware

namespace Esp

section Rules

variable (config : EspConfig) (data : Bytes) (md5 : Octets 16)

def announcement : Command := .espDfuStart (UInt32.ofNat data.length) md5

/-- Nothing was announced yet and the coprocessor is off, either from the beginning or because it
was switched off in its normal state. -/
structure SwitchedOff (past : List Event) : Prop where
  starts_eq : seen Event.start? past = []
  blocks_eq : seen Event.block? past = []
  off : lastRead config.stateOffset past = some (.ok [config.states.off])
  how : past = [reading config.stateOffset config.states.off] ∨
    [reading config.stateOffset config.states.normal] <:+ past ∧
      seen (Event.written? config.bootModeOffset) past = [codeValue config.states.off] ∧
      [reading config.stateOffset config.states.off,
        .sent (switchTo config config.states.off) (.ok [])].Sublist past

structure MayAnnounce (past : List Event) (length : UInt32) (digest : Octets 16) : Prop where
  length_eq : length.toNat = data.length
  digest_eq : digest = md5
  switchedOff : SwitchedOff config past

structure MayWrite (past : List Event) (block : Bytes) : Prop where
  in_order : seen Event.block? past ++ [block] <+: data.chunksOf espBlockSize ++ [[]]
  prepared : [reading config.notifyOffset config.notifications.nextBlock,
    reading config.stateOffset config.states.dfu,
    .sent (announcement data md5) (.ok [])].Sublist past
  asked : lastRead config.notifyOffset (sinceBlock past) =
    some (.ok [config.notifications.nextBlock])

/-- When a boot mode may be written: off at the beginning, if the coprocessor was found in its
normal state; then off and normal, once each, after the end was reported for the empty block. -/
structure MaySwitch (past : List Event) (mode : Int32) : Prop where
  before : [] ∉ seen Event.block? past → mode = codeValue config.states.off ∧
    past = [reading config.stateOffset config.states.normal]
  finished : [] ∈ seen Event.block? past →
    lastRead config.notifyOffset (sinceBlock past) = some (.ok [config.notifications.finish])
  in_order : [] ∈ seen Event.block? past →
    seen (Event.written? config.bootModeOffset) (sinceBlock past) ++ [mode] <+:
      [codeValue config.states.off, codeValue config.states.normal]
  switched : [] ∈ seen Event.block? past →
    seen (Event.written? config.bootModeOffset) (sinceBlock past) ≠ [] →
      lastRead config.stateOffset (sinceBlock past) = some (.ok [config.states.off])

def Permits (past : List Event) : Command → Prop
  | .espDfuStart length digest => MayAnnounce config data md5 past length digest
  | .espDfuWrite block => MayWrite config data md5 past block
  | .dataWrite offset _ value => offset = config.bootModeOffset → MaySwitch config past value
  | _ => True

structure Sees (register : UInt32) (v : UInt8) (past now : List Event) : Prop where
  waits : Waits config register past now
  last : lastRead register now = some (.ok [v])
  last_since : lastRead register (sinceBlock now) = some (.ok [v])
  sublist : ∀ {l : List Event}, l.Sublist past → (reading register v :: l).Sublist now

structure Ready (sent : List Bytes) (past : List Event) : Prop where
  starts_eq : seen Event.start? past = [(UInt32.ofNat data.length, md5)]
  blocks_eq : seen Event.block? past = sent
  prepared : [reading config.notifyOffset config.notifications.nextBlock,
    reading config.stateOffset config.states.dfu,
    .sent (announcement data md5) (.ok [])].Sublist past
  asked : lastRead config.notifyOffset (sinceBlock past) =
    some (.ok [config.notifications.nextBlock])

structure Closing (modes : List Int32) (past : List Event) : Prop where
  starts_eq : seen Event.start? past = [(UInt32.ofNat data.length, md5)]
  blocks_eq : seen Event.block? past = data.chunksOf espBlockSize ++ [[]]
  finished : lastRead config.notifyOffset (sinceBlock past) =
    some (.ok [config.notifications.finish])
  modes_eq : seen (Event.written? config.bootModeOffset) (sinceBlock past) = modes

end Rules

section Waiting

variable {config : EspConfig} {data : Bytes} {md5 : Octets 16} {register : UInt32} {v : UInt8}
  {past middle now : List Event} {e : Event}

theorem waits_reading : Waits config register past (reading register v :: past) := .next rfl .refl

theorem sees_reading (h : Waits config register past now) :
    Sees config register v past (reading register v :: now) := by
  refine ⟨.next rfl h, ?_, ?_, fun hl => (hl.trans h.suffix.sublist).cons_cons _⟩
  · rw [lastRead_cons, read?_reading, Option.some_or]
  · rw [sinceBlock_cons_none block?_reading, lastRead_cons, read?_reading, Option.some_or]

namespace Sees

theorem after (hwaits : Waits config register past middle)
    (h : Sees config register v middle now) : Sees config register v past now :=
  ⟨hwaits.trans h.waits, h.last, h.last_since, fun hl => h.sublist (hl.trans hwaits.suffix.sublist)⟩

theorem next (h : Sees config register v past now) (he : Idle config register e)
    (hread : e.read? register = none) : Sees config register v past (e :: now) := by
  refine ⟨.next he h.waits, ?_, ?_, fun hl => (h.sublist hl).cons _⟩
  · rw [lastRead_cons, hread, Option.none_or, h.last]
  · rw [sinceBlock_cons_none he.block?_eq, lastRead_cons, hread, Option.none_or, h.last_since]

end Sees

theorem readByte_follows {A : List Event → Command → Prop} (hA : A past (.dataRead register .one)) :
    (Device.dataRead register .one false).Follows A past fun v now =>
      now = reading register v.toUInt32.toUInt8 :: past := by
  refine (Device.follows_query hA).mono fun v now h => ?_
  obtain ⟨b, hb, hv, rfl⟩ := h
  obtain ⟨x, rfl⟩ := List.length_eq_one_iff.mp hb
  cases hv
  simp [reading, Bytes.byteAt]

theorem state_follows : (state config).Follows (Permits config data md5) past fun v now =>
    now = reading config.stateOffset v :: past := by
  refine (readByte_follows trivial).orFail.bind fun v now h => ?_
  exact Procedure.follows_pure h

theorem awaitChange_follows (register : UInt32) (awaited : String) (n : Nat) :
    (awaitChange config awaited n).Follows (Permits config data md5) past fun _ now =>
      Waits config register past now := by
  induction n generalizing past with
  | zero => exact Procedure.follows_throw
  | succ n ih =>
    refine Device.follows_readNotification.orFail.bind fun bits now h => ?_
    subst h
    have hheard : Waits config register past (.heard (.ok bits) :: past) := .next trivial .refl
    split
    · exact Procedure.follows_throw
    · split
      · exact Procedure.follows_pure hheard
      · exact ih.mono fun _ _ h => hheard.trans h

theorem awaitState_follows (expected : UInt8) (n : Nat) (actual : UInt8) :
    (awaitState config expected n actual).Follows (Permits config data md5) past fun _ now =>
      Sees config config.stateOffset expected past now := by
  induction n generalizing past actual with
  | zero => exact Procedure.follows_throw
  | succ n ih =>
    refine state_follows.bind fun actual now h => ?_
    subst h
    split
    · next hactual =>
      subst hactual
      exact Procedure.follows_pure (sees_reading .refl)
    · exact (ih actual).mono fun _ _ h => h.after waits_reading

variable (hmode : config.bootModeOffset ≠ config.notifyOffset)
include hmode

theorem awaitNotify_follows (reads : Nat) (expected : UInt8) (awaited : String) (n : Nat) :
    (awaitNotify config reads expected awaited n).Follows (Permits config data md5) past
      fun _ now => Sees config config.notifyOffset expected past now := by
  induction n generalizing past with
  | zero => exact Procedure.follows_throw
  | succ n ih =>
    refine (awaitChange_follows config.notifyOffset awaited reads).bind fun _ now hnow => ?_
    refine (readByte_follows trivial).orFail.bind fun v now' h => ?_
    subst h
    have hclear : Permits config data md5 (reading config.notifyOffset v.toUInt32.toUInt8 :: now)
        (.dataWrite config.notifyOffset .one config.notifications.clear.toUInt32.toInt32) :=
      fun heq => absurd heq.symm hmode
    refine (Device.follows_command hclear rfl).orFail.bind fun _ now' h => ?_
    subst h
    have hsees := (sees_reading (v := v.toUInt32.toUInt8) hnow).next
      (e := .sent (.dataWrite config.notifyOffset .one
        config.notifications.clear.toUInt32.toInt32) (.ok [])) rfl rfl
    split
    · next hexpected =>
      subst hexpected
      exact Procedure.follows_pure hsees
    · exact ih.mono fun _ _ h => h.after hsees.waits

omit hmode in
theorem setState_follows {timings : DfuTimings} {target : UInt8}
    (hswitch : MaySwitch config past (codeValue target)) :
    (setState config timings target).Follows (Permits config data md5) past fun _ now =>
      Sees config config.stateOffset target
        (.sent (switchTo config target) (.ok []) :: past) now := by
  -- one write of the mode, and from then on only waiting
  have hboot : (setBootMode config target).Follows (Permits config data md5) past fun _ now =>
      Waits config config.stateOffset (.sent (switchTo config target) (.ok []) :: past) now := by
    refine (Device.follows_command (fun _ => hswitch) rfl).orFail.bind fun _ now h => ?_
    subst h
    refine (Device.follows_command trivial rfl).orFail.mono fun _ now h => ?_
    subst h
    exact .next trivial .refl
  refine hboot.bind fun _ now hnow => ?_
  refine (awaitChange_follows config.stateOffset _ _).bind fun _ now' hnow' => ?_
  exact (awaitState_follows target _ 0).mono fun _ _ h => h.after (hnow.trans hnow')

end Waiting

section Phases

variable {config : EspConfig} {timings : DfuTimings} {data : Bytes} {md5 : Octets 16}
  {past now : List Event}

theorem makeOff_follows (hmode : config.bootModeOffset ≠ config.notifyOffset) (v : UInt8) :
    (makeOff config timings v).Follows (Permits config data md5) [reading config.stateOffset v]
      fun _ now => SwitchedOff config now := by
  unfold makeOff
  split
  · exact Procedure.follows_throw
  · split
    · next hv =>
      subst hv
      have hswitch : MaySwitch config [reading config.stateOffset config.states.normal]
          (codeValue config.states.off) :=
        ⟨fun _ => ⟨rfl, rfl⟩, nofun, nofun, nofun⟩
      refine (setState_follows hswitch).mono fun _ now h => ?_
      have hwritten : seen (Event.written? config.bootModeOffset) now =
          [codeValue config.states.off] := by
        rw [h.waits.writes_eq hmode, seen_cons_some written?_switchTo,
          seen_cons_none written?_reading, seen_nil, List.nil_append]
      refine ⟨?_, ?_, h.last, .inr ⟨?_, hwritten, ?_⟩⟩
      · exact h.waits.starts_eq
      · exact h.waits.blocks_eq
      · exact (List.suffix_cons _ _).trans h.waits.suffix
      · apply h.sublist
        exact List.Sublist.cons_cons _ (List.nil_sublist _)
    · split
      · exact Procedure.follows_throw
      · next hv =>
        obtain rfl : v = config.states.off := Decidable.not_not.mp hv
        refine Procedure.follows_pure ⟨rfl, rfl, ?_, .inl rfl⟩
        rw [lastRead_cons, read?_reading, Option.some_or]

theorem start_follows (hmode : config.bootModeOffset ≠ config.notifyOffset)
    (hlength : data.length < UInt32.size) (hoff : SwitchedOff config past) :
    (start config timings data md5).Follows (Permits config data md5) past
      fun _ now => Ready config data md5 [] now := by
  have hpermit : Permits config data md5 past (announcement data md5) :=
    ⟨UInt32.toNat_ofNat_of_lt' hlength, rfl, hoff⟩
  refine (Device.follows_command hpermit rfl).orFail.bind fun _ announced h => ?_
  refine (awaitChange_follows config.stateOffset _ _).bind fun _ changed hchanged => ?_
  refine (awaitState_follows _ _ _).bind fun _ prepared hprepared => ?_
  refine (awaitNotify_follows hmode _ _ _ _).mono fun _ now hasked => ?_
  have hwaits := hchanged.trans hprepared.waits
  refine ⟨?_, ?_, ?_, hasked.last_since⟩
  · rw [hasked.waits.starts_eq, hwaits.starts_eq, h, seen_cons, hoff.starts_eq]
    rfl
  · rw [hasked.waits.blocks_eq, hwaits.blocks_eq, h, seen_cons, hoff.blocks_eq]
    rfl
  · apply hasked.sublist
    apply hprepared.sublist
    refine List.Sublist.trans ?_ hchanged.suffix.sublist
    rw [h]
    exact List.Sublist.cons_cons _ (List.nil_sublist _)

theorem Ready.after {sent : List Bytes} (hstate : config.stateOffset ≠ config.notifyOffset)
    (hready : Ready config data md5 sent past) (h : Waits config config.stateOffset past now) :
    Ready config data md5 sent now := by
  refine ⟨?_, ?_, hready.prepared.trans h.suffix.sublist, ?_⟩
  · rw [h.starts_eq, hready.starts_eq]
  · rw [h.blocks_eq, hready.blocks_eq]
  · rw [h.since.lastRead_eq hstate.symm, hready.asked]

theorem Ready.sent {sent : List Bytes} {block : Bytes} (hready : Ready config data md5 sent past)
    (h : Sees config config.notifyOffset config.notifications.nextBlock
      (.sent (.espDfuWrite block) (.ok []) :: past) now) :
    Ready config data md5 (sent ++ [block]) now := by
  refine ⟨?_, ?_, ?_, h.last_since⟩
  · rw [h.waits.starts_eq, seen_cons_none rfl, hready.starts_eq]
  · rw [h.waits.blocks_eq, seen_cons_some block?_espDfuWrite, hready.blocks_eq]
  · exact (hready.prepared.cons _).trans h.waits.suffix.sublist

theorem sendBlocks_follows (hstate : config.stateOffset ≠ config.notifyOffset)
    (hmode : config.bootModeOffset ≠ config.notifyOffset) (total offset : Nat) (p : Progress)
    {sent remaining : List Bytes} (hsplit : sent ++ remaining = data.chunksOf espBlockSize)
    (hready : Ready config data md5 sent past) :
    (sendBlocks config timings total offset p remaining).Follows (Permits config data md5) past
      fun _ now => Ready config data md5 (data.chunksOf espBlockSize) now := by
  -- the blocks sent and those that remain always make up the image
  induction remaining generalizing sent past offset p with
  | nil =>
    rw [List.append_nil] at hsplit
    subst hsplit
    exact Procedure.follows_pure hready
  | cons block rest ih =>
    -- the block is the next one of the image, and it was asked for after the last one
    have hpermit : Permits config data md5 past (.espDfuWrite block) := by
      refine ⟨?_, hready.prepared, hready.asked⟩
      rw [hready.blocks_eq, ← hsplit]
      exact ⟨rest ++ [[]], by simp⟩
    refine (Device.follows_command hpermit rfl).orFail.bind fun _ written h => ?_
    refine (awaitNotify_follows hmode _ _ _ _).bind fun _ asked hasked => ?_
    rw [h] at hasked
    have hready' := hready.sent hasked
    refine (p.follows_update _).bind fun p reported hreported => ?_
    refine Procedure.follows_tick.bind fun _ ticked hticked => ?_
    have hwaits : Waits config config.stateOffset asked ticked := by
      subst hticked
      rcases hreported with rfl | rfl
      · exact .next trivial .refl
      · exact .next trivial (.next trivial .refl)
    apply ih _ p _ (hready'.after hstate hwaits)
    rw [List.append_assoc, List.singleton_append, hsplit]

theorem switch_follows (hstate : config.stateOffset ≠ config.notifyOffset)
    (hmode : config.bootModeOffset ≠ config.notifyOffset) {modes : List Int32} {mode : UInt8}
    (hclosing : Closing config data md5 modes past)
    (hmodes : modes ++ [codeValue mode] <+:
      [codeValue config.states.off, codeValue config.states.normal])
    (hoff : modes ≠ [] →
      lastRead config.stateOffset (sinceBlock past) = some (.ok [config.states.off])) :
    (setState config timings mode).Follows (Permits config data md5) past fun _ now =>
      Closing config data md5 (modes ++ [codeValue mode]) now ∧
        lastRead config.stateOffset (sinceBlock now) = some (.ok [mode]) := by
  have hended : [] ∈ seen Event.block? past := by
    rw [hclosing.blocks_eq]
    exact List.mem_append_right _ (List.mem_singleton.mpr rfl)
  have hswitch : MaySwitch config past (codeValue mode) := by
    refine ⟨fun h => absurd hended h, fun _ => hclosing.finished, fun _ => ?_, fun _ h => ?_⟩
    · rw [hclosing.modes_eq]
      exact hmodes
    · rw [hclosing.modes_eq] at h
      exact hoff h
  refine (setState_follows hswitch).mono fun _ now h => ?_
  have hsince := h.waits.since
  rw [sinceBlock_cons_none rfl] at hsince
  refine ⟨⟨?_, ?_, ?_, ?_⟩, h.last_since⟩
  · rw [h.waits.starts_eq, seen_cons_none rfl, hclosing.starts_eq]
  · rw [h.waits.blocks_eq, seen_cons_none rfl, hclosing.blocks_eq]
  · rw [hsince.lastRead_eq hstate.symm, lastRead_cons]
    exact hclosing.finished
  · rw [hsince.writes_eq hmode, seen_cons_some written?_switchTo, hclosing.modes_eq]

theorem conclude_follows (hstate : config.stateOffset ≠ config.notifyOffset)
    (hmode : config.bootModeOffset ≠ config.notifyOffset)
    (hready : Ready config data md5 (data.chunksOf espBlockSize) past) :
    (conclude config timings).Follows (Permits config data md5) past fun _ now =>
      Closing config data md5
          [codeValue config.states.off, codeValue config.states.normal] now ∧
        lastRead config.stateOffset (sinceBlock now) = some (.ok [config.states.normal]) := by
  have hpermit : Permits config data md5 past (.espDfuWrite []) := by
    refine ⟨⟨[], ?_⟩, hready.prepared, hready.asked⟩
    rw [List.append_nil, hready.blocks_eq]
  refine (Device.follows_command hpermit rfl).orFail.bind fun _ ended h => ?_
  refine (awaitNotify_follows hmode _ _ _ _).bind fun _ finished hfinished => ?_
  rw [h] at hfinished
  have hsince := hfinished.waits.since
  rw [sinceBlock_cons_some rfl] at hsince
  -- the end was reported since the empty block, and no mode was written meanwhile
  have hclosing : Closing config data md5 [] finished := by
    refine ⟨?_, ?_, hfinished.last_since, ?_⟩
    · rw [hfinished.waits.starts_eq, seen_cons_none rfl, hready.starts_eq]
    · rw [hfinished.waits.blocks_eq, seen_cons_some block?_espDfuWrite,
        hready.blocks_eq]
    · rw [hsince.writes_eq hmode, seen_nil]
  refine (switch_follows hstate hmode hclosing ⟨_, rfl⟩ (absurd rfl)).bind fun _ off hoff => ?_
  exact switch_follows hstate hmode hoff.1 List.prefix_rfl fun _ => hoff.2

theorem transfer_follows (hstate : config.stateOffset ≠ config.notifyOffset)
    (hmode : config.bootModeOffset ≠ config.notifyOffset) (hlength : data.length < UInt32.size)
    (p : Progress) :
    (transfer config timings data md5 p).Follows (Permits config data md5) [] fun _ now =>
      Closing config data md5
          [codeValue config.states.off, codeValue config.states.normal] now ∧
        lastRead config.stateOffset (sinceBlock now) = some (.ok [config.states.normal]) := by
  rw [transfer_eq]
  refine state_follows.bind fun v shown h => ?_
  subst h
  refine (makeOff_follows hmode v).bind fun _ off hoff => ?_
  refine (start_follows hmode hlength hoff).bind fun _ prepared hprepared => ?_
  refine (sendBlocks_follows hstate hmode _ _ _ (List.nil_append _) hprepared).bind
    fun p sent hsent => ?_
  exact (conclude_follows hstate hmode hsent).bind fun _ now hnow => Procedure.follows_pure hnow

end Phases

section Run

variable {config : EspConfig} {data : Bytes} {md5 : Octets 16} {past : List Event}

def Permitted (config : EspConfig) (data : Bytes) (md5 : Octets 16) (events : List Event) : Prop :=
  ∀ past c reply, .sent c reply :: past <:+ events → Permits config data md5 past c

theorem Permitted.tail {e : Event} (h : Permitted config data md5 (e :: past)) :
    Permitted config data md5 past :=
  fun past' c reply hs => h past' c reply (hs.trans (List.suffix_cons _ _))

theorem Permitted.blocks_prefix {events : List Event} (h : Permitted config data md5 events) :
    seen Event.block? events <+: data.chunksOf espBlockSize ++ [[]] := by
  induction events with
  | nil => exact List.nil_prefix
  | cons e past ih =>
    cases hblock : e.block? with
    | none =>
      rw [seen_cons_none hblock]
      exact ih h.tail
    | some block =>
      unfold Event.block? at hblock
      split at hblock
      · cases hblock
        rw [seen_cons_some block?_espDfuWrite]
        exact (h past _ _ List.suffix_rfl).in_order
      · cases hblock

theorem Permitted.starts_prefix {events : List Event} (h : Permitted config data md5 events) :
    seen Event.start? events <+: [(UInt32.ofNat data.length, md5)] := by
  induction events with
  | nil => exact List.nil_prefix
  | cons e past ih =>
    cases hstart : e.start? with
    | none =>
      rw [seen_cons_none hstart]
      exact ih h.tail
    | some announced =>
      have hannounced := hstart
      unfold Event.start? at hstart
      split at hstart
      · next length digest _ =>
        obtain ⟨hlength, rfl, hoff⟩ := h past _ _ List.suffix_rfl
        cases hstart
        rw [seen_cons_some hannounced, hoff.starts_eq, ← hlength, UInt32.ofNat_toNat]
        exact List.prefix_rfl
      · cases hstart

end Run

/-- Of a transfer against any device: every command is permitted by what happened before it, the
blocks sent are the first of those of the image, and the image is announced once at most. A
transfer that succeeds has sent them all and seen the coprocessor start again. -/
theorem transfer_orderly {σ : Type} (config : EspConfig) (timings : DfuTimings) (data : Bytes)
    (md5 : Octets 16) (p : Progress) (t : Transport σ) (device : σ)
    (hstate : config.stateOffset ≠ config.notifyOffset)
    (hmode : config.bootModeOffset ≠ config.notifyOffset) (hlength : data.length < UInt32.size) :
    let (result, link) := (transfer config timings data md5 p).perform t device
    Permitted config data md5 link.events ∧
      (seen Event.block? link.events).filter (· ≠ []) <+: data.chunksOf espBlockSize ∧
      seen Event.block? link.events <+: data.chunksOf espBlockSize ++ [[]] ∧
      seen Event.start? link.events <+: [(UInt32.ofNat data.length, md5)] ∧
      ∀ p', result = .ok p' →
        Closing config data md5
            [codeValue config.states.off, codeValue config.states.normal] link.events ∧
          lastRead config.stateOffset (sinceBlock link.events) =
            some (.ok [config.states.normal]) := by
  have hruns := Procedure.runs_perform t (transfer config timings data md5 p) device
  obtain ⟨halong, hdone⟩ := transfer_follows hstate hmode hlength p _ _ hruns
  rw [List.reverse_reverse, List.append_nil] at hdone
  have hpermitted : Permitted config data md5
      ((transfer config timings data md5 p).perform t device).2.events := by
    intro past c reply hsuffix
    exact halong.allowed (by rwa [List.reverse_reverse])
  refine ⟨hpermitted, ?_, hpermitted.blocks_prefix, hpermitted.starts_prefix, hdone⟩
  have hblocks := hpermitted.blocks_prefix.filter (· ≠ [])
  have hchunks : (data.chunksOf espBlockSize ++ [[]]).filter (· ≠ []) =
      data.chunksOf espBlockSize := by
    have hnonempty : ∀ block ∈ data.chunksOf espBlockSize, decide (block ≠ []) = true := by
      rintro block hblock
      have hpos := (Bytes.length_of_mem_chunksOf (by decide) hblock).1
      exact decide_eq_true (List.ne_nil_of_length_pos hpos)
    rw [List.filter_append, List.filter_eq_self.mpr hnonempty]
    exact List.append_nil _
  rwa [hchunks] at hblocks

/-- A transfer of one byte more than a block holds, to a coprocessor that was found in its normal
state. -/
theorem simulated_transfer_orderly :
    let config : EspConfig := ⟨⟨1, 2, 3⟩, ⟨0, 1, 2, 3⟩, 0x10, 0x20, 0x30, 8, 5⟩
    let device : Simulator := { esp := some { config, state := 3 } }
    let data : Bytes := List.replicate 1025 7
    let (result, link) := (transfer config ⟨8, 2, 2⟩ data (Octets.zero 16) {}).perform
      Simulator.transport device
    config.stateOffset ≠ config.notifyOffset ∧ config.bootModeOffset ≠ config.notifyOffset ∧
      data.length < UInt32.size ∧ result.toOption = some ⟨some 100⟩ ∧
      Permitted config data (Octets.zero 16) link.events ∧
      seen Event.block? link.events = [List.replicate 1024 7, [7], []] := by
  intro config device data
  have hlength : data.length < UInt32.size :=
    Nat.lt_of_le_of_lt (Nat.le_of_eq List.length_replicate) (by decide)
  have horderly := transfer_orderly config ⟨8, 2, 2⟩ data (Octets.zero 16) {} Simulator.transport
    device (by decide) (by decide) hlength
  have hblocks : data.chunksOf espBlockSize ++ [[]] = [List.replicate 1024 7, [7], []] := by
    decide +kernel
  have hresult : ((transfer config ⟨8, 2, 2⟩ data (Octets.zero 16) {}).perform Simulator.transport
      device).1.toOption = some ⟨some 100⟩ := by decide +kernel
  generalize hrun : (transfer config ⟨8, 2, 2⟩ data (Octets.zero 16) {}).perform
    Simulator.transport device = run at horderly hresult ⊢
  obtain ⟨result, link⟩ := run
  obtain ⟨hpermitted, -, -, -, hdone⟩ := horderly
  cases result with
  | error e => cases hresult
  | ok p =>
    exact ⟨by decide, by decide, hlength, hresult, hpermitted,
      (hdone p rfl).1.blocks_eq.trans hblocks⟩

end Esp

end CardFirmware
