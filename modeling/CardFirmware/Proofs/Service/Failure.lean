import CardFirmware.Proofs.Device.Failure
import CardFirmware.Proofs.Service.Dispatch

/-! A failed call ends the request that made it, wherever it happens: in discovery, between two
polls of an erase, in the middle of a write or inside any wait of a transfer. Nothing is sent or
listened to afterwards, and the client hears of it under the code of the call
(`failed_call_ends_request`). -/

namespace CardFirmware

namespace FlashDirectory

theorem survey_halts (found : Found) (n index : Nat) :
    (survey found n index).Halts DirectoryError.code := by
  induction n generalizing found index with
  | zero => exact Procedure.halts_pure found
  | succ n ih =>
    refine (Device.halts_query_orFail (fun _ => rfl) fun _ => rfl).bind fun info => ?_
    exact ih _ _

theorem discover_halts : discover.Halts DirectoryError.code := by
  refine (Device.halts_query_orFail (fun _ => rfl) fun _ => rfl).bind fun info => ?_
  split
  · exact (survey_halts _ _ _).bind fun found => Procedure.halts_ofExcept _
  · exact Procedure.halts_throw _

end FlashDirectory

namespace Flash

theorem awaitErase_halts (s : Segment) (n : Nat) (p : Progress) :
    (awaitErase s n p).Halts DriverError.code := by
  induction n generalizing p with
  | zero =>
    refine (Device.halts_query_orFail (fun _ => rfl) fun _ => rfl).bind fun raw => ?_
    split
    · exact Procedure.halts_pure p
    · exact Procedure.halts_throw _
  | succ n ih =>
    refine (Device.halts_query_orFail (fun _ => rfl) fun _ => rfl).bind fun raw => ?_
    split
    · exact Procedure.halts_pure p
    · exact (p.update_halts _).bind fun p => Procedure.halts_tick.bind fun _ => ih p

theorem erase_halts (s : Segment) (timings : FlashTimings) :
    (erase s timings).Halts DriverError.code := by
  unfold erase
  split
  · refine (Device.halts_command_orFail (fun _ => rfl) fun _ => rfl).bind fun _ => ?_
    refine (awaitErase_halts s _ _).bind fun p => ?_
    exact (p.update_halts 100).bind fun _ => Procedure.halts_pure ()
  · exact Procedure.halts_throw _

theorem writeChunks_halts (s : Segment) (total offset : Nat) (p : Progress) (chunks : List Bytes) :
    (writeChunks s total offset p chunks).Halts DriverError.code := by
  induction chunks generalizing offset p with
  | nil => exact Procedure.halts_pure p
  | cons chunk chunks ih =>
    refine (Device.halts_command_orFail (fun _ => rfl) fun _ => rfl).bind fun _ => ?_
    exact (p.update_halts _).bind fun p => Procedure.halts_tick.bind fun _ => ih _ p

theorem updateApp_halts (d : FlashDirectory) (p : FirmwarePayload) (id : UsbId) :
    (updateApp d p id).Halts DriverError.code := by
  refine (Procedure.halts_ofExcept _).bind fun _ => ?_
  refine (writeChunks_halts d.upgrade _ _ _ _).bind fun p => ?_
  exact (p.update_halts 100).bind fun _ => Procedure.halts_pure ()

end Flash

namespace Esp

variable (config : EspConfig) (timings : DfuTimings)

theorem state_halts : (state config).Halts DfuError.code :=
  ((Device.dataRead_halts _ _ _).orFail fun _ => rfl).bind fun _ => Procedure.halts_pure _

theorem awaitChange_halts (awaited : String) (n : Nat) :
    (awaitChange config awaited n).Halts DfuError.code := by
  induction n with
  | zero => exact Procedure.halts_throw _
  | succ n ih =>
    refine (Device.readNotification_halts.orFail fun _ => rfl).bind fun bits => ?_
    split
    · exact Procedure.halts_throw _
    · split
      · exact Procedure.halts_pure ()
      · exact ih

theorem awaitState_halts (expected : UInt8) (n : Nat) (actual : UInt8) :
    (awaitState config expected n actual).Halts DfuError.code := by
  induction n generalizing actual with
  | zero => exact Procedure.halts_throw _
  | succ n ih =>
    refine (state_halts config).bind fun actual => ?_
    split
    · exact Procedure.halts_pure ()
    · exact ih actual

theorem awaitNotify_halts (reads : Nat) (expected : UInt8) (awaited : String) (n : Nat) :
    (awaitNotify config reads expected awaited n).Halts DfuError.code := by
  induction n with
  | zero => exact Procedure.halts_throw _
  | succ n ih =>
    refine (awaitChange_halts config awaited reads).bind fun _ => ?_
    refine ((Device.dataRead_halts _ _ _).orFail fun _ => rfl).bind fun v => ?_
    refine (Device.halts_command_orFail (fun _ => rfl) fun _ => rfl).bind fun _ => ?_
    split
    · exact Procedure.halts_pure ()
    · exact ih

theorem setState_halts (target : UInt8) :
    (setState config timings target).Halts DfuError.code := by
  have hmode : (setBootMode config target).Halts DfuError.code :=
    (Device.halts_command_orFail (fun _ => rfl) fun _ => rfl).bind fun _ =>
      (Device.halts_command_orFail (fun _ => rfl) fun _ => rfl)
  refine hmode.bind fun _ => (awaitChange_halts config _ _).bind fun _ => ?_
  exact awaitState_halts config target _ 0

theorem makeOff_halts (current : UInt8) :
    (makeOff config timings current).Halts DfuError.code := by
  unfold makeOff
  split
  · exact Procedure.halts_throw _
  · split
    · exact setState_halts config timings _
    · split
      · exact Procedure.halts_throw _
      · exact Procedure.halts_pure ()

theorem start_halts (data : Bytes) (md5 : Octets 16) :
    (start config timings data md5).Halts DfuError.code := by
  refine (Device.halts_command_orFail (fun _ => rfl) fun _ => rfl).bind fun _ => ?_
  refine (awaitChange_halts config _ _).bind fun _ => ?_
  exact (awaitState_halts config _ _ _).bind fun _ => awaitNotify_halts config _ _ _ _

theorem sendBlocks_halts (total offset : Nat) (p : Progress) (blocks : List Bytes) :
    (sendBlocks config timings total offset p blocks).Halts DfuError.code := by
  induction blocks generalizing offset p with
  | nil => exact Procedure.halts_pure p
  | cons block blocks ih =>
    refine (Device.halts_command_orFail (fun _ => rfl) fun _ => rfl).bind fun _ => ?_
    refine (awaitNotify_halts config _ _ _ _).bind fun _ => ?_
    exact (p.update_halts _).bind fun p => Procedure.halts_tick.bind fun _ => ih _ p

theorem conclude_halts : (conclude config timings).Halts DfuError.code := by
  refine (Device.halts_command_orFail (fun _ => rfl) fun _ => rfl).bind fun _ => ?_
  refine (awaitNotify_halts config _ _ _ _).bind fun _ => ?_
  exact (setState_halts config timings _).bind fun _ => setState_halts config timings _

theorem transfer_halts (data : Bytes) (md5 : Octets 16) (p : Progress) :
    (transfer config timings data md5 p).Halts DfuError.code := by
  rw [transfer_eq]
  refine (state_halts config).bind fun current => ?_
  refine (makeOff_halts config timings current).bind fun _ => ?_
  refine (start_halts config timings data md5).bind fun _ => ?_
  refine (sendBlocks_halts config timings _ _ _ _).bind fun p => ?_
  exact (conclude_halts config timings).bind fun _ => Procedure.halts_pure p

theorem update_halts (config : Option EspConfig) (id : UsbId) (payload : FirmwarePayload) :
    (update config id payload timings).Halts DriverError.code := by
  unfold update
  split
  · exact Procedure.halts_throw _
  · next config =>
    refine (Procedure.halts_ofExcept _).bind fun _ => ?_
    split
    · have htransfer : ∀ p, ((transfer config timings payload.data payload.md5 p).orFail
          DriverError.dfu).Halts DriverError.code :=
        fun p => (transfer_halts config timings _ _ p).orFail fun _ => rfl
      refine (Progress.update_halts {} 0).bind fun p => (htransfer p).bind fun p => ?_
      exact (p.update_halts 100).bind fun _ => Procedure.halts_pure ()
    · exact Procedure.halts_throw _

end Esp

namespace ServiceContext

variable {ctx ctx' : ServiceContext} {es : List Event}

theorem findDirectory_halts : ctx.findDirectory.Halts DirectoryError.code := by
  unfold findDirectory
  split
  · exact Procedure.halts_pure _
  · exact FlashDirectory.discover_halts

theorem withDirectory_halts {body : FlashDirectory → Procedure RequestError Unit}
    {result : Except RequestError Unit} (hbody : ∀ d, (body d).Halts RequestError.code)
    (h : (ctx.withDirectory body).Runs es (result, ctx')) :
    Halted RequestError.code es result := by
  rcases runs_withDirectory h with ⟨e, h₁, rfl, -⟩ | ⟨d, es₁, es₂, rfl, h₁, h₂, -⟩
  · exact (findDirectory_halts es _ h₁).of_error rfl
  · exact (hbody d es₂ _ h₂).prepend (findDirectory_halts es₁ _ h₁).of_ok

theorem perform_halts {payload : Bytes} {type : RequestType} {result : Except RequestError Unit}
    (h : (ctx.perform payload type).Runs es (result, ctx')) :
    Halted RequestError.code es result := by
  cases type with
  | reboot =>
    have hreboot : (Device.reboot.orFail (RequestError.driver ∘ .write)).Halts RequestError.code :=
      (Device.halts_command_orFail (fun _ => rfl) fun _ => rfl)
    exact hreboot es _ (runs_withoutDirectory h).1
  | configErase =>
    refine withDirectory_halts (fun d => ?_) h
    exact (Flash.erase_halts d.settings _).orFail fun _ => rfl
  | appErase =>
    refine withDirectory_halts (fun d => ?_) h
    exact (Flash.erase_halts d.upgrade _).orFail fun _ => rfl
  | appUpdate =>
    refine withDirectory_halts (fun d => ?_) h
    refine (Procedure.halts_ofExcept _).bind fun p => ?_
    exact (Flash.updateApp_halts d p _).orFail fun _ => rfl
  | espUpdate =>
    have hupdate : ∀ p, ((Esp.update ctx.espConfig ctx.usbId p ctx.dfuTimings).orFail
        RequestError.driver).Halts RequestError.code :=
      fun p => (Esp.update_halts ctx.dfuTimings _ _ p).orFail fun _ => rfl
    exact (Procedure.halts_ofExcept _).bind hupdate es _ (runs_withoutDirectory h).1

/-- Whatever a device answers: nothing follows a call that failed, and the request fails under the
code of that call. So no call of a request that succeeds has failed. -/
theorem failed_call_ends_request {σ : Type} (t : Transport σ) (device : σ) (ctx : ServiceContext)
    (request : Request) :
    let ((result, _), link) := (ctx.dispatch request).run t ⟨device, []⟩
    (∀ past e later, link.events.reverse = past ++ e :: later → e.Fails →
      later = [] ∧ ∃ err, result = .error err ∧ e.failureCode = some err.code) ∧
    ∀ type, result = .ok type → ∀ e ∈ link.events.reverse, ¬e.Fails := by
  have hruns := (ctx.dispatch request).runs_events t device
  generalize (ctx.dispatch request).run t ⟨device, []⟩ = out at hruns ⊢
  obtain ⟨⟨result, ctx'⟩, link⟩ := out
  have hhalted : Halted RequestError.code link.events.reverse result := by
    rcases runs_dispatch hruns with ⟨e, -, hnil, rfl, -⟩ | ⟨type, r, -, h, rfl⟩
    · rw [hnil]
      exact .nil
    · have hperform := perform_halts h
      cases r with
      | error e => exact hperform.of_error rfl
      | ok a => exact .clean hperform.of_ok
  refine ⟨fun past e later hsplit he => ?_, ?_⟩
  · rw [hsplit] at hhalted
    exact hhalted.ends he
  · rintro type rfl
    exact hhalted.of_ok

end ServiceContext

end CardFirmware
