import CardFirmware.Esp.Update
import CardFirmware.Proofs.Device.Reports
import CardFirmware.Proofs.Flash.Update

/-! The transfer of an image to the coprocessor in its four parts (`transfer_eq`), the commands that
it may send, and the failures that it may end with once the coprocessor has shown its state. -/

namespace CardFirmware

def Command.ConcernsEsp : Command → Prop
  | .espDfuStart _ _ | .espDfuWrite _ | .dataRead _ _ | .dataWrite _ _ _ | .dataNotify _ => True
  | _ => False

namespace Esp

variable (config : EspConfig) (timings : DfuTimings) {es : List Event}

def makeOff (current : UInt8) : Procedure DfuError Unit :=
  if current = 0 then throw .notLeapfrog
  else if current = config.states.normal then setState config timings config.states.off
  else if current ≠ config.states.off then throw (.invalidState config.states.off current)
  else return ()

def start (data : Bytes) (md5 : Octets 16) : Procedure DfuError Unit := do
  (Device.espDfuStart (UInt32.ofNat data.length) md5).orFail .fcp
  awaitChange config "ESP DFU start" timings.notificationReads
  awaitState config config.states.dfu timings.stateAttempts 0
  awaitNotify config timings.notificationReads config.notifications.nextBlock
    "first block request" timings.notifyAttempts

def conclude : Procedure DfuError Unit := do
  (Device.espDfuWrite []).orFail .write
  awaitNotify config timings.notificationReads config.notifications.finish "DFU finish"
    timings.notifyAttempts
  setState config timings config.states.off
  setState config timings config.states.normal

theorem transfer_eq (data : Bytes) (md5 : Octets 16) (p : Progress) :
    transfer config timings data md5 p = (do
      let current ← state config
      makeOff config timings current
      start config timings data md5
      let p ← sendBlocks config timings data.length 0 p (data.chunksOf espBlockSize)
      conclude config timings
      return p) := by
  unfold transfer makeOff start conclude
  -- the branches that go on all go on with the same
  refine congrArg _ (funext fun current => ?_)
  simp only [bind_assoc]
  split
  · rfl
  · split
    · rfl
    · split
      · rfl
      · rfl

theorem runs_readByte {register : UInt32} {r : Except TransportError Int32}
    (h : (Device.dataRead register .one false).Runs es r) :
    ∃ reply, es = [.sent (.dataRead register .one) reply] ∧
      ∀ v, r = .ok v → reply = .ok [v.toUInt32.toUInt8] := by
  obtain ⟨reply, rfl, hr⟩ := Device.runs_query rfl h
  refine ⟨reply, rfl, fun v hv => ?_⟩
  obtain ⟨b, rfl, hb, hv⟩ := hr v hv
  obtain ⟨x, rfl⟩ := List.length_eq_one_iff.mp hb
  cases hv
  simp [Bytes.byteAt]

theorem runs_state {r : Except DfuError UInt8} (h : (state config).Runs es r) :
    ∃ reply, es = [.sent (.dataRead config.stateOffset .one) reply] ∧
      ∀ v, r = .ok v → reply = .ok [v] := by
  obtain ⟨e, h₁, rfl⟩ | ⟨v, es₁, es₂, rfl, h₁, h₂⟩ := Procedure.runs_bind.mp h
  · obtain ⟨r', h₁, -⟩ := Procedure.runs_orFail.mp h₁
    obtain ⟨reply, rfl, -⟩ := runs_readByte h₁
    exact ⟨reply, rfl, fun v hv => nomatch hv⟩
  · obtain ⟨r', h₁, hr'⟩ := Procedure.runs_orFail.mp h₁
    obtain ⟨reply, rfl, hreply⟩ := runs_readByte h₁
    obtain ⟨rfl, rfl⟩ := Procedure.runs_pure.mp h₂
    refine ⟨reply, List.append_nil _, fun v' hv' => ?_⟩
    cases r' with
    | error e => cases hr'
    | ok w =>
      cases hr'
      cases hv'
      exact hreply v rfl

section Commands

variable {P : Command → Prop}

theorem awaitChange_sends (awaited : String) (n : Nat) :
    (awaitChange config awaited n).Sends P := by
  induction n with
  | zero => exact Procedure.sends_throw _
  | succ n ih =>
    refine Device.sends_readNotification.orFail.bind fun bits => ?_
    split
    · exact Procedure.sends_throw _
    · split
      · exact Procedure.sends_pure ()
      · exact ih

theorem state_sends : (state config).Sends Command.ConcernsEsp :=
  (Device.sends_query trivial).orFail.bind fun _ => Procedure.sends_pure _

theorem awaitState_sends (expected : UInt8) (n : Nat) (actual : UInt8) :
    (awaitState config expected n actual).Sends Command.ConcernsEsp := by
  induction n generalizing actual with
  | zero => exact Procedure.sends_throw _
  | succ n ih =>
    refine (state_sends config).bind fun actual => ?_
    split
    · exact Procedure.sends_pure ()
    · exact ih actual

theorem awaitNotify_sends (reads : Nat) (expected : UInt8) (awaited : String) (n : Nat) :
    (awaitNotify config reads expected awaited n).Sends Command.ConcernsEsp := by
  induction n with
  | zero => exact Procedure.sends_throw _
  | succ n ih =>
    refine (awaitChange_sends config awaited reads).bind fun _ =>
      (Device.sends_query trivial).orFail.bind fun v =>
        (Device.sends_command trivial).orFail.bind fun _ => ?_
    split
    · exact Procedure.sends_pure ()
    · exact ih

theorem setState_sends (target : UInt8) :
    (setState config timings target).Sends Command.ConcernsEsp := by
  have hmode : (setBootMode config target).Sends Command.ConcernsEsp :=
    (Device.sends_command trivial).orFail.bind fun _ => (Device.sends_command trivial).orFail
  exact hmode.bind fun _ => (awaitChange_sends config _ _).bind fun _ =>
    awaitState_sends config target _ 0

theorem makeOff_sends (current : UInt8) :
    (makeOff config timings current).Sends Command.ConcernsEsp := by
  unfold makeOff
  split
  · exact Procedure.sends_throw _
  · split
    · exact setState_sends config timings _
    · split
      · exact Procedure.sends_throw _
      · exact Procedure.sends_pure ()

theorem sendBlocks_sends (total offset : Nat) (p : Progress) (blocks : List Bytes) :
    (sendBlocks config timings total offset p blocks).Sends Command.ConcernsEsp := by
  induction blocks generalizing offset p with
  | nil => exact Procedure.sends_pure p
  | cons block blocks ih =>
    exact (Device.sends_command trivial).orFail.bind fun _ =>
      (awaitNotify_sends config _ _ _ _).bind fun _ => (p.update_sends _).bind fun p =>
        Procedure.sends_tick.bind fun _ => ih _ p

theorem start_sends (data : Bytes) (md5 : Octets 16) :
    (start config timings data md5).Sends Command.ConcernsEsp :=
  (Device.sends_command trivial).orFail.bind fun _ => (awaitChange_sends config _ _).bind fun _ =>
    (awaitState_sends config _ _ _).bind fun _ => awaitNotify_sends config _ _ _ _

theorem conclude_sends : (conclude config timings).Sends Command.ConcernsEsp :=
  (Device.sends_command trivial).orFail.bind fun _ => (awaitNotify_sends config _ _ _ _).bind
    fun _ => (setState_sends config timings _).bind fun _ => setState_sends config timings _

theorem transfer_sends (data : Bytes) (md5 : Octets 16) (p : Progress) :
    (transfer config timings data md5 p).Sends Command.ConcernsEsp := by
  rw [transfer_eq]
  refine (state_sends config).bind fun current => ?_
  refine (makeOff_sends config timings current).bind fun _ => ?_
  refine (start_sends config timings data md5).bind fun _ => ?_
  refine (sendBlocks_sends config timings _ _ _ _).bind fun p => ?_
  exact (conclude_sends config timings).bind fun _ => Procedure.sends_pure p

theorem update_sends (config : Option EspConfig) (id : UsbId) (payload : FirmwarePayload) :
    (update config id payload timings).Sends Command.ConcernsEsp := by
  unfold update
  split
  · exact Procedure.sends_throw _
  · next config =>
    refine (Procedure.sends_ofExcept _).bind fun _ => ?_
    split
    · refine (Progress.update_sends {} 0).bind fun p => ?_
      refine (transfer_sends config timings _ _ p).orFail.bind fun p => ?_
      exact (p.update_sends 100).bind fun _ => Procedure.sends_pure ()
    · exact Procedure.sends_throw _

end Commands

section Failures

def FailsRunning (e : DfuError) : Prop :=
  e.code = .fcp ∨ e.code = .write ∨ e.code = .timeout ∨ e.code = .invalidState

theorem awaitChange_fails (awaited : String) (n : Nat) :
    (awaitChange config awaited n).Fails FailsRunning := by
  induction n with
  | zero => exact Procedure.fails_throw (.inr (.inr (.inl rfl)))
  | succ n ih =>
    refine (Procedure.fails_orFail fun e => .inl rfl).bind fun bits => ?_
    split
    · exact Procedure.fails_throw (.inr (.inr (.inl rfl)))
    · split
      · exact Procedure.fails_pure ()
      · exact ih

theorem awaitState_fails (expected : UInt8) (n : Nat) (actual : UInt8) :
    (awaitState config expected n actual).Fails FailsRunning := by
  induction n generalizing actual with
  | zero => exact Procedure.fails_throw (.inr (.inr (.inr rfl)))
  | succ n ih =>
    have hstate : (state config).Fails FailsRunning :=
      (Procedure.fails_orFail fun e => .inl rfl).bind fun _ => Procedure.fails_pure _
    refine hstate.bind fun actual => ?_
    split
    · exact Procedure.fails_pure ()
    · exact ih actual

theorem awaitNotify_fails (reads : Nat) (expected : UInt8) (awaited : String) (n : Nat) :
    (awaitNotify config reads expected awaited n).Fails FailsRunning := by
  induction n with
  | zero => exact Procedure.fails_throw (.inr (.inr (.inl rfl)))
  | succ n ih =>
    refine (awaitChange_fails config awaited reads).bind fun _ =>
      (Procedure.fails_orFail fun e => .inl rfl).bind fun v =>
        (Procedure.fails_orFail fun e => .inl rfl).bind fun _ => ?_
    split
    · exact Procedure.fails_pure ()
    · exact ih

theorem setState_fails (target : UInt8) : (setState config timings target).Fails FailsRunning := by
  have hmode : (setBootMode config target).Fails FailsRunning :=
    (Procedure.fails_orFail fun e => .inl rfl).bind fun _ =>
      Procedure.fails_orFail fun e => .inl rfl
  exact hmode.bind fun _ => (awaitChange_fails config _ _).bind fun _ =>
    awaitState_fails config target _ 0

theorem sendBlocks_fails (total offset : Nat) (p : Progress) (blocks : List Bytes) :
    (sendBlocks config timings total offset p blocks).Fails FailsRunning := by
  induction blocks generalizing offset p with
  | nil => exact Procedure.fails_pure p
  | cons block blocks ih =>
    exact (Procedure.fails_orFail fun e => .inr (.inl rfl)).bind fun _ =>
      (awaitNotify_fails config _ _ _ _).bind fun _ => (p.update_fails _).bind fun p =>
        Procedure.fails_tick.bind fun _ => ih _ p

def MayStart (v : UInt8) : Prop := v ≠ 0 ∧ (v = config.states.off ∨ v = config.states.normal)

theorem makeOff_fails {v : UInt8} (hv : MayStart config v) :
    (makeOff config timings v).Fails FailsRunning := by
  unfold makeOff
  rw [if_neg hv.1]
  split
  · exact setState_fails config timings _
  · split
    · exact Procedure.fails_throw (.inr (.inr (.inr rfl)))
    · exact Procedure.fails_pure ()

theorem makeOff_eq_throw {v : UInt8} (hv : ¬MayStart config v) :
    ∃ e, makeOff config timings v = throw e := by
  unfold makeOff
  by_cases h0 : v = 0
  · exact ⟨_, if_pos h0⟩
  · rw [if_neg h0, if_neg fun hn => hv ⟨h0, .inr hn⟩, if_pos fun ho => hv ⟨h0, .inl ho⟩]
    exact ⟨_, rfl⟩

theorem start_fails (data : Bytes) (md5 : Octets 16) :
    (start config timings data md5).Fails FailsRunning :=
  (Procedure.fails_orFail fun _ => .inl rfl).bind fun _ => (awaitChange_fails config _ _).bind
    fun _ => (awaitState_fails config _ _ _).bind fun _ => awaitNotify_fails config _ _ _ _

theorem conclude_fails : (conclude config timings).Fails FailsRunning :=
  (Procedure.fails_orFail fun _ => .inr (.inl rfl)).bind fun _ =>
    (awaitNotify_fails config _ _ _ _).bind fun _ => (setState_fails config timings _).bind
      fun _ => setState_fails config timings _

end Failures

theorem transfer_cases {data : Bytes} {md5 : Octets 16} {p : Progress}
    {r : Except DfuError Progress} (h : (transfer config timings data md5 p).Runs es r) :
    (∃ reply, es = [.sent (.dataRead config.stateOffset .one) reply]) ∨
      (∃ v rest, es = .sent (.dataRead config.stateOffset .one) (.ok [v]) :: rest ∧
        MayStart config v) ∧ ∀ e, r = .error e → FailsRunning e := by
  rw [transfer_eq] at h
  obtain ⟨e, h₁, -⟩ | ⟨v, es₁, es₂, rfl, h₁, h₂⟩ := Procedure.runs_bind.mp h
  · obtain ⟨reply, rfl, -⟩ := runs_state config h₁
    exact .inl ⟨reply, rfl⟩
  · obtain ⟨reply, rfl, hreply⟩ := runs_state config h₁
    obtain rfl := hreply v rfl
    by_cases hv : MayStart config v
    · refine .inr ⟨⟨v, es₂, rfl, hv⟩, ?_⟩
      have hblocks := sendBlocks_fails config timings data.length 0 p (data.chunksOf espBlockSize)
      have hrest := (makeOff_fails config timings hv).bind fun _ =>
        (start_fails config timings data md5).bind fun _ =>
          hblocks.bind fun p => (conclude_fails config timings).bind fun _ =>
            Procedure.fails_pure p
      rintro e rfl
      exact hrest es₂ e h₂
    · obtain ⟨e, he⟩ := makeOff_eq_throw config timings hv
      rw [he] at h₂
      rw [(Procedure.runs_throw.mp h₂).1]
      exact .inl ⟨_, rfl⟩

theorem runs_checked {c : EspConfig} {payload : FirmwarePayload} {r : Except DriverError Unit}
    (h : (do
      let p ← Progress.update {} 0
      let p ← (transfer c timings payload.data payload.md5 p).orFail .dfu
      let _ ← p.finish
      : Procedure DriverError Unit).Runs es r) :
    ∃ r' es₁, (transfer c timings payload.data payload.md5 ⟨some 0⟩).Runs es₁ r' ∧
      es = .reported 0 :: (es₁ ++ (Progress.ended r').map .reported) ∧
      r = (r'.mapError .dfu).map fun _ => () := by
  obtain ⟨e, h₁, -⟩ | ⟨p, es₁, es₂, rfl, h₁, h₂⟩ := Procedure.runs_bind.mp h
  · cases (Progress.runs_update h₁).1
  · obtain ⟨hp, rfl⟩ := Progress.runs_update h₁
    cases hp
    obtain ⟨e, h₃, rfl⟩ | ⟨q, es₃, es₄, rfl, h₃, h₄⟩ := Procedure.runs_bind.mp h₂
    · obtain ⟨d, ht, rfl⟩ := Procedure.runs_orFail_error.mp h₃
      exact ⟨.error d, es₂, ht, by simp [Progress.ended], rfl⟩
    · obtain ⟨r', ht, hr'⟩ := Procedure.runs_orFail.mp h₃
      obtain ⟨rfl, rfl⟩ := Progress.runs_finish h₄
      cases r' with
      | error d => cases hr'
      | ok q' =>
        cases hr'
        exact ⟨.ok q, es₃, ht, rfl, rfl⟩

theorem runs_update {config : Option EspConfig} {id : UsbId} {payload : FirmwarePayload}
    {r : Except DriverError Unit} (h : (update config id payload timings).Runs es r) :
    (es = [] ∧ ∃ e, r = .error e) ∨
      ∃ c r' es₁ es₂, config = some c ∧ payload.checkUsbId id = .ok () ∧ payload.hasDigest ∧
        (transfer c timings payload.data payload.md5 ⟨some 0⟩).Runs es₁ r' ∧
        es = .reported 0 :: (es₁ ++ es₂) ∧ (es₂ = [] ∨ es₂ = [.reported 100]) ∧
        ∀ e, r = .error e → ∃ e', r' = .error e' ∧ e = .dfu e' := by
  unfold update at h
  split at h
  · obtain ⟨rfl, rfl⟩ := Procedure.runs_throw.mp h
    exact .inl ⟨rfl, _, rfl⟩
  · next c =>
    obtain ⟨e, h₁, rfl⟩ | ⟨⟨⟩, es₁, es₂, rfl, h₁, h₂⟩ := Procedure.runs_bind.mp h
    · exact .inl ⟨(Procedure.runs_ofExcept.mp h₁).1, e, rfl⟩
    · obtain ⟨rfl, hid⟩ := Procedure.runs_ofExcept.mp h₁
      split at h₂
      · next hd =>
        obtain ⟨r', es₁, ht, rfl, rfl⟩ := runs_checked timings h₂
        refine .inr ⟨c, r', es₁, _, rfl, hid.symm, hd, ht, rfl, ?_, ?_⟩
        · cases r' with
          | error d => exact .inl rfl
          | ok q =>
            simp only [Progress.ended, Progress.reported]
            split
            · exact .inl rfl
            · exact .inr rfl
        · intro e he
          cases r' with
          | error d => cases he; exact ⟨d, rfl, rfl⟩
          | ok q => cases he
      · obtain ⟨rfl, rfl⟩ := Procedure.runs_throw.mp h₂
        exact .inl ⟨rfl, _, rfl⟩

end Esp

end CardFirmware
