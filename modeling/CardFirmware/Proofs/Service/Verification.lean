import CardFirmware.Proofs.Service.Dispatch

/-! Nothing is written before it is verified. Data reaches the flash memory or the coprocessor only
from an image that was checked in full, and a request that is refused has not changed the device
(`writes_verified`). -/

namespace CardFirmware

def Command.CarriesImage : Command → Prop
  | .flashWrite _ _ _ | .espDfuStart _ _ | .espDfuWrite _ | .dataWrite _ _ _ | .dataNotify _ => True
  | _ => False

def Command.ChangesDevice : Command → Prop
  | .reboot | .flashErase _ => True
  | c => c.CarriesImage

def ErrorCode.refusals : List ErrorCode :=
  [.invalidCommand, .invalidLength, .invalidHash, .invalidUsbId, .config, .notLeapfrog]

theorem Command.CarriesImage.changesDevice {c : Command} (h : c.CarriesImage) :
    c.ChangesDevice := by
  cases c <;> trivial

theorem Command.ReadsDirectory.not_changesDevice {c : Command} (h : c.ReadsDirectory) :
    ¬c.ChangesDevice := by
  cases c <;> first | exact h.elim | exact id

/-- What was checked of the image that a request carries to the device: its form, its digest and
its device, and its length or the state of the coprocessor. The state is the first thing that is
read, and it is read before anything else happens. -/
structure Verified (ctx ctx' : ServiceContext) (request : Request) (events : List Event)
    (p : FirmwarePayload) : Prop where
  decoded : FirmwarePayload.decode request.payload = .ok p
  digest : Sha256.hash p.data = p.sha256
  device : p.vid = ctx.usbId.vid ∧ p.pid = ctx.usbId.pid
  target :
    (request.requestType = .ok .appUpdate ∧ ∃ d, ctx'.directory = some d ∧
      65536 ≤ p.data.length ∧ p.data.length ≤ d.upgrade.size.toNat) ∨
    (request.requestType = .ok .espUpdate ∧ ∃ config v rest, ctx.espConfig = some config ∧
      events = .reported 0 :: .sent (.dataRead config.stateOffset .one) (.ok [v]) :: rest ∧
      v ≠ 0 ∧ (v = config.states.off ∨ v = config.states.normal))

theorem Flash.FailsRunning.not_refusal {e : DriverError} (h : Flash.FailsRunning e) :
    e.code ∉ ErrorCode.refusals := by
  obtain h | h | h := h <;> rw [h] <;> decide

theorem Esp.FailsRunning.not_refusal {e : DfuError} (h : Esp.FailsRunning e) :
    e.code ∉ ErrorCode.refusals := by
  obtain h | h | h | h := h <;> rw [h] <;> decide

theorem Flash.updateApp_fails (d : FlashDirectory) (p : FirmwarePayload) (id : UsbId) :
    (Flash.updateApp d p id).Fails fun e => e.code = .invalidHash → p.hasDigest = false := by
  intro es e h hcode
  obtain ⟨e', hcheck, -, he⟩ | ⟨-, hwrite⟩ := Flash.runs_updateApp h
  · cases he
    unfold FirmwarePayload.checkApp at hcheck
    split at hcheck
    · split at hcheck
      · unfold FirmwarePayload.checkUsbId at hcheck
        split at hcheck
        · cases hcheck
        · cases hcheck
          cases hcode
      · next hd => exact Bool.eq_false_iff.mpr hd
    · cases hcheck
      cases hcode
  · have hrunning := (Flash.write_fails d.upgrade p.data es e hwrite).not_refusal
    rw [hcode] at hrunning
    exact absurd (by decide) hrunning

theorem Esp.update_fails (config : Option EspConfig) (id : UsbId) (p : FirmwarePayload)
    (timings : DfuTimings) :
    (Esp.update config id p timings).Fails fun e =>
      e.code = .invalidHash → p.hasDigest = false := by
  have hdfu : ∀ e : DfuError, (DriverError.dfu e).code ≠ .invalidHash := by
    intro e
    cases e <;> exact fun h => nomatch h
  unfold Esp.update
  split
  · exact Procedure.fails_throw fun h => nomatch h
  · refine (Procedure.fails_ofExcept fun e he => ?_).bind fun _ => ?_
    · unfold FirmwarePayload.checkUsbId at he
      split at he
      · cases he
      · cases he
        exact fun h => nomatch h
    · split
      · refine (Progress.update_fails {} 0).bind fun q => ?_
        refine (Procedure.fails_orFail fun e he => absurd he (hdfu e)).bind fun q => ?_
        exact (q.update_fails 100).bind fun _ => Procedure.fails_pure ()
      · next hd => exact Procedure.fails_throw fun _ => Bool.eq_false_iff.mpr hd

namespace ServiceContext

variable {ctx ctx' : ServiceContext} {es : List Event}

/-- What a part of a request guarantees: images that it carries are as `V` says, and a refusal has
changed nothing. -/
def Guards (V : Prop) (es : List Event) (r : Except RequestError Unit) : Prop :=
  (∀ c reply, .sent c reply ∈ es → c.CarriesImage → V) ∧
    ∀ e, r = .error e → e.code ∈ ErrorCode.refusals →
      ∀ c reply, .sent c reply ∈ es → ¬c.ChangesDevice

theorem guards_nil {V : Prop} {r : Except RequestError Unit} : Guards V [] r :=
  ⟨fun _ _ h => absurd h List.not_mem_nil, fun _ _ _ _ _ h => absurd h List.not_mem_nil⟩

theorem Guards.prepend {V : Prop} {es₁ es₂ : List Event} {r : Except RequestError Unit}
    (h₁ : ∀ c reply, .sent c reply ∈ es₁ → c.ReadsDirectory) (h₂ : Guards V es₂ r) :
    Guards V (es₁ ++ es₂) r := by
  have hkept : ∀ c reply, .sent c reply ∈ es₁ → ¬c.ChangesDevice :=
    fun c reply hc => (h₁ c reply hc).not_changesDevice
  constructor
  · intro c reply hc hm
    obtain hc | hc := List.mem_append.mp hc
    · exact absurd hm.changesDevice (hkept c reply hc)
    · exact h₂.1 c reply hc hm
  · intro e he hcode c reply hc
    obtain hc | hc := List.mem_append.mp hc
    · exact hkept c reply hc
    · exact h₂.2 e he hcode c reply hc

theorem withDirectory_guards {body : FlashDirectory → Procedure RequestError Unit}
    {result : Except RequestError Unit} {V : ServiceContext → Prop}
    (hbody : ∀ d es r, (body d).Runs es r → Guards (V { ctx with directory := some d }) es r)
    (h : (ctx.withDirectory body).Runs es (result, ctx')) : Guards (V ctx') es result := by
  obtain ⟨e, h₁, rfl, rfl⟩ | ⟨d, es₁, es₂, rfl, h₁, h₂, rfl⟩ := runs_withDirectory h
  · rw [← List.append_nil es]
    exact guards_nil.prepend (findDirectory_sends es _ h₁)
  · exact (hbody d es₂ result h₂).prepend (findDirectory_sends es₁ _ h₁)

theorem reboot_guards {V : Prop} {r : Except RequestError Unit}
    (h : (Device.reboot.orFail (RequestError.driver ∘ .write)).Runs es r) : Guards V es r := by
  have hsends : Device.reboot.Sends fun c => ¬c.CarriesImage :=
    Device.sends_command (show ¬Command.reboot.CarriesImage from id)
  refine ⟨fun c reply hc hm => absurd hm (hsends.orFail es r h c reply hc), ?_⟩
  rintro e rfl hcode
  have hfails : (Device.reboot.orFail (RequestError.driver ∘ .write)).Fails
      fun e => e.code = .write := Procedure.fails_orFail fun _ => rfl
  rw [hfails es e h] at hcode
  exact absurd hcode (by decide)

theorem erase_guards {s : Segment} {timings : FlashTimings} {V : Prop}
    {r : Except RequestError Unit} (h : ((Flash.erase s timings).orFail .driver).Runs es r) :
    Guards V es r := by
  obtain ⟨r', h₁, rfl⟩ := Procedure.runs_orFail.mp h
  constructor
  · intro c reply hc hm
    obtain ⟨rfl, -⟩ | rfl := Flash.erase_sends s timings es r' h₁ c reply hc
    · exact hm.elim
    · exact hm.elim
  · intro e he hcode
    cases r' with
    | error e' =>
      cases he
      exact absurd hcode (Flash.erase_fails s timings es e' h₁).not_refusal
    | ok a => cases he

theorem appUpdate_guards {request : Request} (htype : request.requestType = .ok .appUpdate)
    {d : FlashDirectory} (events : List Event) {r : Except RequestError Unit}
    (h : (Procedure.ofExcept ((FirmwarePayload.decode request.payload).mapError RequestError.wire)
      >>= fun p => (Flash.updateApp d p ctx.usbId).orFail .driver).Runs es r) :
    Guards (∃ p, Verified ctx { ctx with directory := some d } request events p) es r := by
  obtain ⟨e, -, rfl, -⟩ | ⟨p, hp, h₁⟩ := runs_payload h
  · exact guards_nil
  · obtain ⟨r', h₂, rfl⟩ := Procedure.runs_orFail.mp h₁
    obtain ⟨e, -, rfl, -⟩ | ⟨hcheck, h₃⟩ := Flash.runs_updateApp h₂
    · exact guards_nil
    · obtain ⟨hsize, hd, hid⟩ := FirmwarePayload.checkApp_eq_ok.mp hcheck
      refine ⟨fun _ _ _ _ => ⟨p, hp, hd, hid, .inl ⟨htype, d, rfl, hsize⟩⟩, fun e he hcode => ?_⟩
      cases r' with
      | error e' =>
        cases he
        exact absurd hcode (Flash.write_fails d.upgrade p.data es e' h₃).not_refusal
      | ok a => cases he

theorem espUpdate_guards {request : Request} (htype : request.requestType = .ok .espUpdate)
    {r : Except RequestError Unit}
    (h : (Procedure.ofExcept ((FirmwarePayload.decode request.payload).mapError RequestError.wire)
      >>= fun p =>
        (Esp.update ctx.espConfig ctx.usbId p ctx.dfuTimings).orFail .driver).Runs es r) :
    Guards (∃ p, Verified ctx ctx request es p) es r := by
  obtain ⟨e, -, rfl, -⟩ | ⟨p, hp, h₁⟩ := runs_payload h
  · exact guards_nil
  · obtain ⟨r', h₂, rfl⟩ := Procedure.runs_orFail.mp h₁
    obtain ⟨rfl, -⟩ | ⟨config, r₁, es₁, es₂, hconfig, hid, hd, ht, rfl, hlast, hr⟩ :=
      Esp.runs_update ctx.dfuTimings h₂
    · exact guards_nil
    · have hsent : ∀ c reply, .sent c reply ∈ Event.reported 0 :: (es₁ ++ es₂) →
          .sent c reply ∈ es₁ := by
        intro c reply hc
        obtain rfl | rfl := hlast <;> simpa using hc
      obtain ⟨reply, rfl⟩ | ⟨⟨v, rest, rfl, hv⟩, hfails⟩ := Esp.transfer_cases config _ ht
      · -- Nothing but the state was read.
        have hread : ∀ c reply', .sent c reply' ∈ Event.reported 0 ::
            ([.sent (.dataRead config.stateOffset .one) reply] ++ es₂) → ¬c.ChangesDevice := by
          intro c reply' hc
          cases List.mem_singleton.mp (hsent c reply' hc)
          exact id
        exact ⟨fun c reply' hc hm => absurd hm.changesDevice (hread c reply' hc),
          fun _ _ _ => hread⟩
      · refine ⟨fun _ _ _ _ => ⟨p, hp, FirmwarePayload.hasDigest_iff.mp hd,
          FirmwarePayload.checkUsbId_eq_ok.mp hid,
          .inr ⟨htype, config, v, rest ++ es₂, hconfig, rfl, hv⟩⟩, fun e he hcode => ?_⟩
        cases r' with
        | error e' =>
          cases he
          obtain ⟨e₁, he₁, rfl⟩ := hr e' rfl
          exact absurd hcode (hfails e₁ he₁).not_refusal
        | ok a => cases he

theorem perform_guards {request : Request} {type : RequestType}
    (htype : request.requestType = .ok type) {r : Except RequestError Unit}
    (h : (ctx.perform request.payload type).Runs es (r, ctx')) :
    Guards (∃ p, Verified ctx ctx' request es p) es r := by
  let V ctx' := ∃ p, Verified ctx ctx' request es p
  cases type with
  | reboot => exact reboot_guards (runs_withoutDirectory h).1
  | configErase => exact withDirectory_guards (V := V) (fun _ _ _ h => erase_guards h) h
  | appErase => exact withDirectory_guards (V := V) (fun _ _ _ h => erase_guards h) h
  | appUpdate => exact withDirectory_guards (V := V) (fun _ _ _ h => appUpdate_guards htype es h) h
  | espUpdate =>
    obtain ⟨h₁, rfl⟩ := runs_withoutDirectory h
    exact espUpdate_guards htype h₁

theorem perform_invalidHash {payload : Bytes} {type : RequestType} {e : RequestError}
    (h : (ctx.perform payload type).Runs es (.error e, ctx')) (hcode : e.code = .invalidHash) :
    ∃ p, FirmwarePayload.decode payload = .ok p ∧ p.hasDigest = false := by
  have hwire : ∀ e : WireError, (RequestError.wire e).code ≠ .invalidHash := by
    intro e
    cases e <;> exact fun h => nomatch h
  have hdirectory : ∀ e : DirectoryError, e.code ≠ .invalidHash := by
    intro e
    cases e <;> exact fun h => nomatch h
  have hrunning : ∀ e : DriverError, Flash.FailsRunning e → e.code ≠ .invalidHash := by
    intro e he h
    exact he.not_refusal (by rw [h]; decide)
  have hpayload : ∀ f : FirmwarePayload → Procedure DriverError Unit,
      (∀ p, (f p).Fails fun e => e.code = .invalidHash → p.hasDigest = false) →
      ∀ es, (Procedure.ofExcept ((FirmwarePayload.decode payload).mapError RequestError.wire)
        >>= fun p => (f p).orFail .driver).Runs es (.error e) →
        ∃ p, FirmwarePayload.decode payload = .ok p ∧ p.hasDigest = false := by
    intro f hf es hruns
    obtain ⟨e', -, -, he⟩ | ⟨p, hp, hrest⟩ := runs_payload hruns
    · cases he
      exact absurd hcode (hwire e')
    · obtain ⟨e', hr, rfl⟩ := Procedure.runs_orFail_error.mp hrest
      exact ⟨p, hp, hf p es e' hr hcode⟩
  cases type with
  | reboot =>
    obtain ⟨h₁, -⟩ := runs_withoutDirectory h
    obtain ⟨e', -, rfl⟩ := Procedure.runs_orFail_error.mp h₁
    cases hcode
  | configErase | appErase =>
    obtain ⟨e', -, he, -⟩ | ⟨d, es₁, es₂, -, -, h₂, -⟩ := runs_withDirectory h
    · cases he
      exact absurd hcode (hdirectory e')
    · obtain ⟨e', hr, rfl⟩ := Procedure.runs_orFail_error.mp h₂
      exact absurd hcode (hrunning e' (Flash.erase_fails _ _ es₂ e' hr))
  | appUpdate =>
    obtain ⟨e', -, he, -⟩ | ⟨d, es₁, es₂, -, -, h₂, -⟩ := runs_withDirectory h
    · cases he
      exact absurd hcode (hdirectory e')
    · exact hpayload _ (fun p => Flash.updateApp_fails d p _) es₂ h₂
  | espUpdate =>
    obtain ⟨h₁, -⟩ := runs_withoutDirectory h
    exact hpayload _ (fun p => Esp.update_fails _ _ p _) es h₁

theorem dispatch_invalidHash {request : Request} {e : RequestError}
    (h : (ctx.dispatch request).Runs es (.error e, ctx')) (hcode : e.code = .invalidHash) :
    ∃ p, FirmwarePayload.decode request.payload = .ok p ∧ p.hasDigest = false := by
  obtain ⟨e', htype, -, he, -⟩ | ⟨type, r, -, hperform, hr⟩ := runs_dispatch h
  · cases he
    unfold Request.requestType at htype
    split at htype
    · cases htype
    · cases htype
      cases hcode
  · cases r with
    | error e' =>
      cases hr
      exact perform_invalidHash hperform hcode
    | ok a => cases hr

/-- Whatever a device answers, an image is carried to it only if it is verified, and a request that
is refused has not changed the device. -/
theorem writes_verified {σ : Type} (t : Transport σ) (device : σ) (ctx : ServiceContext)
    (request : Request) :
    let ((result, ctx'), link) := (ctx.dispatch request).run t ⟨device, []⟩
    ((∃ c ∈ link.commands, c.CarriesImage) →
      ∃ p, Verified ctx ctx' request link.events.reverse p) ∧
    (∀ e, result = .error e → e.code ∈ ErrorCode.refusals →
      ∀ c ∈ link.commands, ¬c.ChangesDevice) := by
  have hruns := (ctx.dispatch request).runs_events t device
  generalize (ctx.dispatch request).run t ⟨device, []⟩ = out at hruns ⊢
  obtain ⟨⟨result, ctx'⟩, link⟩ := out
  simp only [Link.mem_commands]
  obtain ⟨e, htype, hnil, rfl, rfl⟩ | ⟨type, r, htype, h, rfl⟩ := runs_dispatch hruns
  · -- a request of an unknown type sends nothing
    rw [hnil]
    simp
  · obtain ⟨hverified, hrefused⟩ := perform_guards htype h
    constructor
    · rintro ⟨c, ⟨reply, hc⟩, hm⟩
      exact hverified c reply hc hm
    · rintro e he hcode c ⟨reply, hc⟩
      cases r with
      | error e' =>
        cases he
        exact hrefused e rfl hcode c reply hc
      | ok a => cases he

end ServiceContext

end CardFirmware
