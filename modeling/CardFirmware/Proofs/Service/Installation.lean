import CardFirmware.Proofs.Firmware.Grammar
import CardFirmware.Proofs.Flash.Completion
import CardFirmware.Proofs.Service.Verification
import CardFirmware.Proofs.Tool.Session

/-! From a firmware file to the device. A section of a file that was read is uploaded as it is: an
erase and the upload leave its image in the upgrade segment, and no service refuses it for its
digest (`sections_installed`). -/

namespace CardFirmware

namespace FirmwareSection

variable {s : FirmwareSection}

theorem decode_upload (h : s.data.length ≤ 16 * 1024 * 1024) :
    FirmwarePayload.decode s.upload.request.payload = .ok s.payload := by
  have hsize : s.data.length < UInt32.size := Nat.lt_of_le_of_lt h (by decide)
  exact FirmwarePayload.decode_encode hsize

/-- A section is ready for a sound device: the directory of the device can be discovered, its
upgrade segment takes the image and can be erased in time, and the service is for the same device as
the section. -/
structure Suits (s : FirmwareSection) (ctx : ServiceContext) (device : Simulator)
    (directory : FlashDirectory) : Prop where
  sound : device.failing = []
  discovered : (FlashDirectory.discover.perform Simulator.transport device).1 = .ok directory
  cached : ctx.directory = none ∨ ctx.directory = some directory
  usbId_eq : ctx.usbId = ⟨s.vid, s.pid⟩
  one_le_blocks : 1 ≤ directory.upgrade.eraseBlocks
  blocks_le : directory.upgrade.eraseBlocks ≤ 255
  min_le : 65536 ≤ s.data.length
  le_size : s.data.length ≤ directory.upgrade.size.toNat
  erased : eraseDone ∈ device.polls.take (ctx.flashTimings.erasePolls + 1)

end FirmwareSection

namespace ServiceContext

variable {σ : Type} {t : Transport σ} {ctx : ServiceContext} {device : σ} {mid post : σ → Prop}
  {directory : FlashDirectory}

theorem withDirectory_succeeds {body : FlashDirectory → Procedure RequestError Unit}
    (hfind : ctx.findDirectory.Succeeds t device fun d device' => d = directory ∧ mid device')
    (hbody : ∀ device', mid device' →
      (body directory).Succeeds t device' fun _ device'' => post device'') :
    ∃ link, (ctx.withDirectory body).run t ⟨device, []⟩ =
      ((.ok (), { ctx with directory := some directory }), link) ∧ post link.device := by
  obtain ⟨d, ⟨device', events'⟩, hrun, rfl, hmid⟩ := hfind []
  obtain ⟨⟨⟩, link, hrun', hpost⟩ := hbody device' hmid events'
  refine ⟨link, ?_, hpost⟩
  unfold withDirectory
  rw [Dialogue.run_andThen, hrun]
  change Dialogue.run t ((body d).outcome >>= fun r =>
    pure (r, { ctx with directory := some d })) ⟨device', events'⟩ = _
  rw [Dialogue.run_andThen, hrun']
  rfl

theorem reply_of_perform {request : Request} {type : RequestType} {ctx' : ServiceContext}
    {link : Link σ} (answers : List Answer) (htype : request.requestType = .ok type)
    (h : (ctx.perform request.payload type).run t ⟨device, []⟩ = ((.ok (), ctx'), link)) :
    ∃ a : Answer, a.result = .ok type ∧
      Exchange.reply t ⟨ctx, device, answers⟩ (.ok request) =
        ⟨ctx', link.device, answers ++ [a]⟩ := by
  have hdispatch : (ctx.dispatch request).run t ⟨device, []⟩ = ((.ok type, ctx'), link) := by
    unfold dispatch
    rw [htype]
    change Dialogue.run t (ctx.perform request.payload type >>= fun out =>
      pure (out.1.map fun () => type, out.2)) ⟨device, []⟩ = _
    rw [Dialogue.run_andThen, h]
    rfl
  refine ⟨⟨link.reports, link.commands, .ok type⟩, rfl, ?_⟩
  rw [Exchange.reply]
  simp only [hdispatch]

open Simulator (transport)

variable {s : FirmwareSection} {device : Simulator}

theorem appErase_succeeds (h : s.Suits ctx device directory) (payload : Bytes)
    {g : SimulatedSegment} (hg : device.segments[directory.upgrade.index.toNat]? = some g) :
    ∃ link, (ctx.perform payload .appErase).run transport ⟨device, []⟩ =
        ((.ok (), { ctx with directory := some directory }), link) ∧
      link.device.Has (device.segments.set directory.upgrade.index.toNat g.erase)
        device.registers := by
  obtain ⟨hfirst, hmax, hi, -⟩ :=
    FlashDirectory.index_lt_of_discover h.sound h.discovered .upgrade
  have htarget : directory.upgrade.IsErasable := ⟨hfirst, hmax, h.one_le_blocks, h.blocks_le⟩
  have hself : device.segments.set directory.upgrade.index.toNat g = device.segments := by
    obtain ⟨hlt, rfl⟩ := List.getElem?_eq_some_iff.mp hg
    exact List.set_getElem_self hlt
  have hstart : device.Has (device.segments.set directory.upgrade.index.toNat g)
      device.registers := by
    rw [hself]
    exact ⟨h.sound, rfl, rfl⟩
  let mid (device' : Simulator) : Prop :=
    device'.Has (device.segments.set directory.upgrade.index.toNat g) device.registers ∧
      device'.polls = device.polls
  have hfind : ctx.findDirectory.Succeeds transport device fun d device' =>
      d = directory ∧ mid device' := by
    rcases h.cached with hnone | hsome
    · rw [findDirectory_of_none hnone]
      refine (Procedure.succeeds_of_perform h.discovered).mono fun d device' hd => ⟨hd.1, ?_⟩
      rw [hd.2]
      exact FlashDirectory.discover_keeps hstart
    · rw [findDirectory_of_some hsome]
      exact Procedure.succeeds_pure ⟨rfl, hstart, rfl⟩
  refine withDirectory_succeeds hfind fun device' hmid => ?_
  have herased := h.erased
  rw [← hmid.2] at herased
  exact (Flash.erase_succeeds htarget hi hmid.1 herased).orFail

theorem appUpdate_succeeds {p : FirmwarePayload} {payload : Bytes}
    (hp : FirmwarePayload.decode payload = .ok p)
    (hcheck : p.checkApp directory.upgrade ctx.usbId = .ok ())
    {segments : List SimulatedSegment} {registers : List (UInt32 × Int32)} {g : SimulatedSegment}
    (hfirst : 1 ≤ directory.upgrade.index.toNat)
    (hlast : directory.upgrade.index.toNat ≤ segmentNumberMax)
    (hi : directory.upgrade.index.toNat < segments.length)
    (hdirectory : ctx.directory = some directory)
    (hdevice : device.Has (segments.set directory.upgrade.index.toNat (g.holding [])) registers) :
    ∃ link, (ctx.perform payload .appUpdate).run transport ⟨device, []⟩ =
        ((.ok (), { ctx with directory := some directory }), link) ∧
      link.device.Has (segments.set directory.upgrade.index.toNat (g.holding p.data))
        registers := by
  have hfind : ctx.findDirectory.Succeeds transport device fun d device' =>
      d = directory ∧ device' = device := by
    rw [findDirectory_of_some hdirectory]
    exact Procedure.succeeds_pure ⟨rfl, rfl⟩
  refine withDirectory_succeeds hfind fun device' hd => ?_
  subst hd
  have hpayload : (FirmwarePayload.decode payload).mapError RequestError.wire = .ok p := by
    rw [hp]
    rfl
  refine (Procedure.succeeds_ofExcept hpayload).bind fun q d hq => ?_
  obtain ⟨rfl, rfl⟩ := hq
  exact (Flash.updateApp_succeeds hcheck hfirst hlast hi hdevice).orFail

end ServiceContext

namespace FirmwareFile

open Simulator (transport)

variable {s : FirmwareSection}

theorem app_installed (hs : s.WellFormed) (hkind : s.kind ≠ .esp) {ctx : ServiceContext}
    {device : Simulator} {directory : FlashDirectory} (h : s.Suits ctx device directory)
    {pieces : List Bytes}
    (hpieces : pieces.flatten = RequestType.appErase.message ++ s.upload.encode) :
    let x := Exchange.converse transport ⟨ctx, device, []⟩ (Reassembly.feed pieces .standard).1
    x.answers.map Answer.result = [.ok .appErase, .ok .appUpdate] ∧
      ∃ g, device.segments[directory.upgrade.index.toNat]? = some g ∧
        x.device.segments = device.segments.set directory.upgrade.index.toNat
          { g with memory := s.data.toArray, eraseCount := g.eraseCount + 1 } ∧
        x.device.registers = device.registers := by
  obtain ⟨hfirst, hmax, hi, hsize⟩ :=
    FlashDirectory.index_lt_of_discover h.sound h.discovered .upgrade
  have hdata : s.data.length ≤ 16 * 1024 * 1024 := Nat.le_trans h.le_size hsize
  have hitems : (Reassembly.feed pieces .standard).1 =
      [.ok (ClientMessage.plain .appErase).request, .ok s.upload.request] := by
    have hfits : ∀ m ∈ [ClientMessage.plain .appErase, s.upload], m.Fits := by
      simp only [List.forall_mem_cons]
      exact ⟨trivial, FirmwareSection.fits_upload hdata, fun _ hm => absurd hm List.not_mem_nil⟩
    refine (Reassembly.feed_messages hfits ?_).1
    rw [hpieces, List.flatMap_cons, List.flatMap_singleton]
    rfl
  have hupdate : s.upload.request.requestType = .ok .appUpdate := by
    rw [ClientMessage.requestType_request, FirmwareSection.upload, if_neg hkind]
    rfl
  let ctx' : ServiceContext := { ctx with directory := some directory }
  have hdirectory : ctx'.directory = some directory := rfl
  have hcheck : s.payload.checkApp directory.upgrade ctx'.usbId = .ok () := by
    change s.payload.checkApp directory.upgrade ctx.usbId = .ok ()
    rw [h.usbId_eq]
    exact FirmwarePayload.checkApp_eq_ok.mpr
      ⟨⟨h.min_le, h.le_size⟩, hs.sha256_eq.symm, rfl, rfl⟩
  have hlast : directory.upgrade.index.toNat ≤ segmentNumberMax := Nat.le_trans hmax (by decide)
  let g := device.segments[directory.upgrade.index.toNat]
  have hg : device.segments[directory.upgrade.index.toNat]? = some g :=
    List.getElem?_eq_getElem hi
  obtain ⟨link, herase, hempty⟩ := ServiceContext.appErase_succeeds h [] hg
  obtain ⟨a, ha, hreply⟩ := ServiceContext.reply_of_perform []
    (ClientMessage.plain .appErase).requestType_request herase
  obtain ⟨link', hwrite, hfull⟩ := ServiceContext.appUpdate_succeeds (g := g.erase)
    (FirmwareSection.decode_upload hdata) hcheck hfirst hlast hi hdirectory hempty
  obtain ⟨a', ha', hreply'⟩ := ServiceContext.reply_of_perform [a] hupdate hwrite
  have hgoing : a.isReboot = false := by
    rw [Answer.isReboot, ha]
    rfl
  have hx : Exchange.converse transport ⟨ctx, device, []⟩ (Reassembly.feed pieces .standard).1 =
      ⟨{ ctx with directory := some directory }, link'.device, [a, a']⟩ := by
    rw [hitems, Exchange.converse_cons rfl, hreply, Exchange.converse_cons, List.nil_append]
    · exact hreply'
    · exact (Bool.or_false _).trans hgoing
  rw [hx]
  refine ⟨?_, g, hg, hfull.segments_eq, hfull.registers_eq⟩
  rw [List.map_cons, List.map_cons, ha, ha']
  rfl

/-- Of a file that was read every section can be uploaded. If it is for the application, or takes
its place, and suits a device, then an erase and the upload succeed however the two are cut, and
they leave the image in the upgrade segment and all else as it was. If it is for the coprocessor,
the service reads its image and its digests off the request. Whatever the device and the state of
the service, a section is not refused for its digest. -/
theorem sections_installed {b : Bytes} {f : FirmwareFile} (hfile : decode b = .ok f)
    {s : FirmwareSection} (hs : s ∈ f.sections) :
    ∃ m, s.uploadMessage = .ok m ∧
      (s.kind = .app ∨ s.kind = .leapfrog →
        ∀ (ctx : ServiceContext) (device : Simulator) (directory : FlashDirectory)
          (pieces : List Bytes), s.Suits ctx device directory →
          pieces.flatten = RequestType.appErase.message ++ m →
          let x := Exchange.converse transport ⟨ctx, device, []⟩
            (Reassembly.feed pieces .standard).1
          x.answers.map Answer.result = [.ok .appErase, .ok .appUpdate] ∧
            ∃ g, device.segments[directory.upgrade.index.toNat]? = some g ∧
              x.device.segments = device.segments.set directory.upgrade.index.toNat
                { g with memory := s.data.toArray, eraseCount := g.eraseCount + 1 } ∧
              x.device.registers = device.registers) ∧
      (s.data.length ≤ 16 * 1024 * 1024 → ∀ pieces : List Bytes, pieces.flatten = m →
        ∃ request, (Reassembly.feed pieces .standard).1 = [.ok request] ∧
          (s.kind = .esp → request.requestType = .ok .espUpdate ∧
            ∃ p, FirmwarePayload.decode request.payload = .ok p ∧ p.data = s.data ∧
              p.sha256 = s.sha256 ∧ p.md5 = Md5.hash s.data) ∧
          ∀ {σ : Type} (t : Transport σ) (device : σ) (ctx : ServiceContext) (e : RequestError),
            ((ctx.dispatch request).run t ⟨device, []⟩).1.1 = .error e →
              e.code ≠ .invalidHash) := by
  have hsection : s.WellFormed := (wellFormed_of_decode hfile).sections s hs
  refine ⟨s.upload.encode, FirmwareSection.uploadMessage_eq hsection.kind_ne, ?_, ?_⟩
  · intro hkind ctx device directory pieces hsuits hpieces
    have hesp : s.kind ≠ .esp := by
      rcases hkind with hk | hk <;> rw [hk] <;> decide
    exact app_installed hsection hesp hsuits hpieces
  · intro hdata pieces hpieces
    have hfits : ∀ m ∈ [s.upload], m.Fits :=
      List.forall_mem_singleton.mpr (FirmwareSection.fits_upload hdata)
    have hmessage : pieces.flatten = [s.upload].flatMap (·.encode) := by
      rw [hpieces, List.flatMap_singleton]
    have hpayload := FirmwareSection.decode_upload hdata
    refine ⟨s.upload.request, (Reassembly.feed_messages hfits hmessage).1, ?_, ?_⟩
    · intro hkind
      refine ⟨?_, s.payload, hpayload, rfl, rfl, ?_⟩
      · rw [ClientMessage.requestType_request, FirmwareSection.upload, if_pos hkind]
        rfl
      · have hmd5 := hsection.md5_eq
        rw [if_pos hkind] at hmd5
        change s.md5.getD (Octets.zero 16) = Md5.hash s.data
        rw [hmd5]
        rfl
    · intro σ t device ctx e he hcode
      have hruns := (ctx.dispatch s.upload.request).runs_events t device
      generalize (ctx.dispatch s.upload.request).run t ⟨device, []⟩ = out at he hruns
      obtain ⟨⟨result, ctx'⟩, link⟩ := out
      obtain rfl : result = .error e := he
      -- the image of the request is that of the section, which has its digest
      obtain ⟨p, hp, hdigest⟩ := ServiceContext.dispatch_invalidHash hruns hcode
      rw [hpayload] at hp
      cases hp
      have hintact : s.payload.hasDigest = true :=
        FirmwarePayload.hasDigest_iff.mpr hsection.sha256_eq.symm
      rw [hintact] at hdigest
      cases hdigest

theorem app_and_esp_installed :
    let app := FirmwareSection.ofData .app 1 2 ⟨1, 0, 0, 7⟩ (List.replicate 65536 0)
    let esp := FirmwareSection.ofData .esp 1 2 ⟨1, 0, 0, 7⟩ [7, 8, 9]
    let f := ofSections 1 2 ⟨1, 0, 0, 7⟩ [app, esp]
    let ctx : ServiceContext := { usbId := ⟨1, 2⟩, firmwareBuild := 3 }
    let directory : FlashDirectory :=
      ⟨0x800000, ⟨1, 0x80000⟩, ⟨2, 0x10000⟩, ⟨3, 0x40000⟩, ⟨4, 0x2000⟩⟩
    decode f.encode = .ok f ∧ app ∈ f.sections ∧ esp ∈ f.sections ∧
      app.Suits ctx .fourRoles directory ∧
      (∃ m, app.uploadMessage = .ok m ∧
        let x := Exchange.converse transport ⟨ctx, .fourRoles, []⟩
          (Reassembly.feed [RequestType.appErase.message, m] .standard).1
        x.answers.map Answer.result = [.ok .appErase, .ok .appUpdate] ∧
          x.device.segments[1]? = some ⟨"App_Upgrade", 0x80000, app.data.toArray, 1⟩) ∧
      ∃ m request, esp.uploadMessage = .ok m ∧
        (Reassembly.feed [m] .standard).1 = [.ok request] ∧
        ∃ p, FirmwarePayload.decode request.payload = .ok p ∧ p.data = [7, 8, 9] := by
  intro app esp f ctx directory
  have happ : app.data.length = 65536 := List.length_replicate
  have hfile : decode f.encode = .ok f := by
    have hsize : (List.replicate 65536 (0 : UInt8)).length < UInt32.size := by
      rw [List.length_replicate]
      decide
    have hboth : ∀ s ∈ f.sections, s.WellFormed := by
      refine List.forall_mem_cons.mpr ⟨?_, List.forall_mem_singleton.mpr ?_⟩
      · exact FirmwareSection.wellFormed_ofData (.inl rfl) 1 2 _ hsize
      · exact FirmwareSection.wellFormed_ofData (.inr (.inl rfl)) 1 2 _ (by decide)
    have h := decode_encode_append (f := f) ⟨by decide, by decide, rfl, hboth⟩ []
    rwa [List.append_nil] at h
  have hmem : app ∈ f.sections := List.mem_cons_self
  have hmem' : esp ∈ f.sections := List.mem_cons_of_mem app List.mem_cons_self
  have hdiscovered : (FlashDirectory.discover.perform transport .fourRoles).1 = .ok directory := by
    have hfound : (FlashDirectory.discover.perform transport .fourRoles).1.toOption =
        some directory := by decide +kernel
    generalize (FlashDirectory.discover.perform transport .fourRoles).1 = found at hfound ⊢
    cases found with
    | error e => cases hfound
    | ok d => exact congrArg Except.ok (Option.some.inj hfound)
  have hsuits : app.Suits ctx .fourRoles directory :=
    ⟨rfl, hdiscovered, .inl rfl, rfl, by decide, by decide, Nat.le_of_eq happ.symm,
      by rw [happ]; decide, by decide⟩
  refine ⟨hfile, hmem, hmem', hsuits, ?_, ?_⟩
  · obtain ⟨m, hm, hinstalled, -⟩ := sections_installed hfile hmem
    refine ⟨m, hm, ?_⟩
    obtain ⟨hresults, g, hg, hsegments, -⟩ := hinstalled (.inl rfl) ctx .fourRoles directory
      [RequestType.appErase.message, m] hsuits (by simp)
    refine ⟨hresults, ?_⟩
    cases hg
    rw [hsegments]
    rfl
  · obtain ⟨m, hm, -, hread⟩ := sections_installed hfile hmem'
    obtain ⟨request, hrequest, hesp, -⟩ := hread (by decide) [m] (by simp)
    obtain ⟨-, p, hp, hdata, -⟩ := hesp rfl
    exact ⟨m, request, hm, hrequest, p, hp, hdata⟩

end FirmwareFile

end CardFirmware
