import CardFirmware.Device.Simulator
import CardFirmware.Proofs.Service.DirectoryCache

/-! What a service does to the flash memory of its device, over any requests and any device. Erases
and writes stay in the directory that was discovered first: they name the settings or the upgrade
segment and end before the end of it (`flash_changes_permitted`). -/

namespace CardFirmware

def Command.flashTarget : Command → Option Nat
  | .flashErase segment => some segment.toNat
  | .flashWrite segment _ _ => some segment.toNat
  | _ => none

def FlashDirectory.Permits (d : FlashDirectory) (type : RequestType) : Command → Prop
  | .flashErase segment =>
    (type = .configErase ∧ segment.toNat = d.settings.index.toNat) ∨
      (type = .appErase ∧ segment.toNat = d.upgrade.index.toNat)
  | .flashWrite segment offset data =>
    type = .appUpdate ∧ segment = d.upgrade.index ∧
      offset.toNat + data.length ≤ d.upgrade.size.toNat
  | _ => True

theorem Command.ReadsDirectory.flashTarget_eq_none {c : Command} (h : c.ReadsDirectory) :
    c.flashTarget = none := by
  cases c <;> first | rfl | exact h.elim

theorem Command.ConcernsEsp.flashTarget_eq_none {c : Command} (h : c.ConcernsEsp) :
    c.flashTarget = none := by
  cases c <;> first | rfl | exact h.elim

namespace FlashDirectory

variable {d : FlashDirectory}

theorem Permits.spares {type : RequestType} {c : Command} {n : Nat} (h : d.Permits type c)
    (hd : d.Separate) (hn : c.flashTarget = some n) :
    n ≠ 0 ∧ n ≠ d.disk.index.toNat ∧ n ≠ d.env.index.toNat := by
  have hrole : ∃ role, n = (d.segment role).index.toNat ∧ role ≠ .disk ∧ role ≠ .env := by
    cases c <;> cases hn
    · obtain ⟨-, hs⟩ | ⟨-, hs⟩ := h
      · exact ⟨.settings, hs, by decide, by decide⟩
      · exact ⟨.upgrade, hs, by decide, by decide⟩
    · exact ⟨.upgrade, congrArg UInt32.toNat h.2.1, by decide, by decide⟩
  obtain ⟨role, rfl, hdisk, henv⟩ := hrole
  refine ⟨fun h0 => hd.ne_zero role (UInt32.toNat_inj.mp h0), fun he => ?_, fun he => ?_⟩
  · exact hdisk (hd.injective role .disk (UInt32.toNat_inj.mp he))
  · exact henv (hd.injective role .env (UInt32.toNat_inj.mp he))

end FlashDirectory

theorem RequestType.Comprises.permits {type : RequestType} {directory : Option FlashDirectory}
    {c : Command} (h : type.Comprises directory c) {n : Nat} (hn : c.flashTarget = some n) :
    ∃ d, directory = some d ∧ d.Permits type c := by
  cases type with
  | reboot =>
    cases h
    cases hn
  | configErase =>
    obtain ⟨d, hd, ⟨rfl, herasable⟩ | rfl⟩ := h
    · exact ⟨d, hd, .inl ⟨rfl, herasable.toNat_index⟩⟩
    · cases hn
  | appErase =>
    obtain ⟨d, hd, ⟨rfl, herasable⟩ | rfl⟩ := h
    · exact ⟨d, hd, .inr ⟨rfl, herasable.toNat_index⟩⟩
    · cases hn
  | appUpdate =>
    obtain ⟨d, hd, offset, data, rfl, hsize⟩ := h
    exact ⟨d, hd, rfl, rfl, hsize⟩
  | espUpdate =>
    rw [Command.ConcernsEsp.flashTarget_eq_none h] at hn
    cases hn

namespace ServiceContext

variable {ctx : ServiceContext} {σ : Type} (t : Transport σ)

theorem dispatch_permitted (ctx : ServiceContext) (request : Request) (device : σ) {c : Command}
    (hc : c ∈ ((ctx.dispatch request).run t ⟨device, []⟩).2.commands) {n : Nat}
    (hn : c.flashTarget = some n) :
    ∃ d type, ((ctx.dispatch request).run t ⟨device, []⟩).1.2.directory = some d ∧
      request.requestType = .ok type ∧ d.Permits type c := by
  have hcomprised {directory : Option FlashDirectory} (h : request.Comprises directory c) :
      ∃ d type, directory = some d ∧ request.requestType = .ok type ∧ d.Permits type c := by
    obtain ⟨type, htype, hcomprises⟩ := h
    obtain ⟨d, hd, hp⟩ := hcomprises.permits hn
    exact ⟨d, type, hd, htype, hp⟩
  by_cases hknown : request.usesDirectory → ∃ d, ctx.directory = some d
  · obtain ⟨hctx, hsends⟩ := dispatch_known t ctx hknown device
    rw [hctx]
    exact hcomprised (hsends c hc).2
  · obtain ⟨huses, hunknown⟩ := Classical.not_imp.mp hknown
    have hnone : ctx.directory = none :=
      Option.eq_none_iff_forall_ne_some.mpr fun d hd => hunknown ⟨d, hd⟩
    have hreads : c ∉ (FlashDirectory.discover.perform t device).2.commands := by
      intro hc
      obtain ⟨reply, hc⟩ := Link.mem_commands.mp hc
      have hruns := Procedure.runs_perform t FlashDirectory.discover device
      have hread := FlashDirectory.discover_sends _ _ hruns c reply hc
      rw [hread.flashTarget_eq_none] at hn
      cases hn
    cases hfound : FlashDirectory.discover.perform t device with
    | mk found discovery =>
      rw [hfound] at hreads
      cases found with
      | error e =>
        rw [dispatch_undiscovered t hnone huses hfound] at hc
        exact absurd hc hreads
      | ok d =>
        have hdispatch := dispatch_discovers t hnone huses hfound
        obtain ⟨hkept, hsends⟩ := dispatch_known t { ctx with directory := some d }
          (fun _ : request.usesDirectory => ⟨d, rfl⟩) discovery.device
        rw [hdispatch, Link.commands_append] at hc
        obtain hc | hc := List.mem_append.mp hc
        · exact absurd hc hreads
        · rw [hdispatch, hkept]
          exact hcomprised (hsends c hc).2

theorem history_permitted {d : FlashDirectory} (hd : ctx.directory = some d)
    (requests : List Request) (device : σ) {s : Served} (hs : s ∈ ctx.history t requests device)
    {c : Command} (hc : c ∈ s.commands) {n : Nat} (hn : c.flashTarget = some n) :
    ∃ type, s.request.requestType = .ok type ∧ d.Permits type c := by
  induction requests generalizing ctx device with
  | nil => exact absurd hs List.not_mem_nil
  | cons request rest ih =>
    have hkept := directory_dispatch t ctx request device
    rw [hd, Option.some_or] at hkept
    obtain rfl | hs := List.mem_cons.mp hs
    · obtain ⟨d', type, hd', htype, hp⟩ := dispatch_permitted t ctx request device hc hn
      cases hkept.symm.trans hd'
      exact ⟨type, htype, hp⟩
    · exact ih hkept _ hs

theorem discovers_separate {request : Request} {device : σ} {d : FlashDirectory}
    (h : request.discovers t device = some d) : d.Separate := by
  unfold Request.discovers at h
  split at h
  · split at h
    · have hruns := Procedure.runs_perform t FlashDirectory.discover device
      cases hr : (FlashDirectory.discover.perform t device).1 with
      | error e =>
        rw [hr] at h
        cases h
      | ok d' =>
        rw [hr] at h hruns
        cases h
        exact FlashDirectory.discover_separate hruns
    · cases h
  · cases h

theorem history_within_first (fresh : ctx.directory = none) (requests : List Request) (device : σ)
    {s : Served} (hs : s ∈ ctx.history t requests device) {c : Command} (hc : c ∈ s.commands)
    {n : Nat} (hn : c.flashTarget = some n) :
    ∃ d type, ctx.firstDirectory t requests device = some d ∧ d.Separate ∧
      s.request.requestType = .ok type ∧ d.Permits type c := by
  induction requests generalizing ctx device with
  | nil => exact absurd hs List.not_mem_nil
  | cons request rest ih =>
    have hdir := directory_dispatch t ctx request device
    rw [fresh, Option.none_or] at hdir
    rw [firstDirectory]
    cases hfound : request.discovers t device with
    | none =>
      -- without a directory nothing is erased or written, and the context is still fresh
      rw [hfound] at hdir
      obtain rfl | hs := List.mem_cons.mp hs
      · obtain ⟨d, type, hd, -, -⟩ := dispatch_permitted t ctx request device hc hn
        cases hdir.symm.trans hd
      · exact ih hdir _ hs
    | some d =>
      -- this directory stays, for the rest of this request and for all that follow
      rw [hfound] at hdir
      suffices ∃ type, s.request.requestType = .ok type ∧ d.Permits type c by
        obtain ⟨type, htype, hp⟩ := this
        exact ⟨d, type, rfl, discovers_separate t hfound, htype, hp⟩
      obtain rfl | hs := List.mem_cons.mp hs
      · obtain ⟨d', type, hd, htype, hp⟩ := dispatch_permitted t ctx request device hc hn
        cases hdir.symm.trans hd
        exact ⟨type, htype, hp⟩
      · exact history_permitted t hdir rest _ hs hc hn

/-- Whatever a device answers and whatever is asked for, erases and writes name the settings or the
upgrade segment of the directory that was discovered first, and stay within it. -/
theorem flash_changes_permitted (fresh : ctx.directory = none) (requests : List Request)
    (device : σ) :
    ∀ s ∈ ctx.history t requests device, ∀ c ∈ s.commands, ∀ n, c.flashTarget = some n →
      ∃ d type, ctx.firstDirectory t requests device = some d ∧
        s.request.requestType = .ok type ∧ d.Permits type c ∧
        n ≠ 0 ∧ n ≠ d.disk.index.toNat ∧ n ≠ d.env.index.toNat := by
  intro s hs c hc n hn
  obtain ⟨d, type, hfirst, hseparate, htype, hp⟩ :=
    history_within_first t fresh requests device hs hc hn
  exact ⟨d, type, hfirst, htype, hp, hp.spares hseparate hn⟩

theorem settings_erase_permitted :
    let ctx : ServiceContext := { usbId := ⟨0x1235, 0x821d⟩, firmwareBuild := 2115 }
    let requests : List Request := [⟨2, []⟩, ⟨3, []⟩]
    ctx.directory = none ∧
      ∃ s ∈ ctx.history Simulator.transport requests Simulator.fourRoles,
        .flashErase 2 ∈ s.commands ∧ (Command.flashErase 2).flashTarget = some 2 ∧
        ∃ d type, ctx.firstDirectory Simulator.transport requests Simulator.fourRoles = some d ∧
          s.request.requestType = .ok type ∧ d.Permits type (.flashErase 2) ∧
          2 ≠ 0 ∧ 2 ≠ d.disk.index.toNat ∧ 2 ≠ d.env.index.toNat := by
  intro ctx requests
  have hfirst : ((ctx.history Simulator.transport requests Simulator.fourRoles)[0]?.map
      (·.commands)) = some [.flashInfo, .flashSegmentInfo 0, .flashSegmentInfo 1,
        .flashSegmentInfo 2, .flashSegmentInfo 3, .flashSegmentInfo 4, .flashErase 2,
        .flashEraseProgress 2] := by decide +kernel
  obtain ⟨s, hs, hcommands⟩ := Option.map_eq_some_iff.mp hfirst
  have hmem := List.mem_of_getElem? hs
  have herase : .flashErase 2 ∈ s.commands := by
    rw [hcommands]
    decide
  exact ⟨rfl, s, hmem, herase, rfl,
    flash_changes_permitted _ rfl requests _ s hmem _ herase 2 rfl⟩

end ServiceContext

end CardFirmware
