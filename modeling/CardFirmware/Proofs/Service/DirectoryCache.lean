import CardFirmware.Device.Simulator
import CardFirmware.Proofs.Device.Success
import CardFirmware.Proofs.Service.Dispatch

/-! The flash directory between requests. It is read by the first request that needs it, and again
by the next one if that failed; once it was found no request reads it again, and all that is erased
and written is in the segments that were found then (`directory_read_once`). -/

namespace CardFirmware

def RequestType.Comprises (directory : Option FlashDirectory) : RequestType → Command → Prop
  | .reboot, c => c = .reboot
  | .configErase, c => ∃ d, directory = some d ∧ Flash.Erases d.settings c
  | .appErase, c => ∃ d, directory = some d ∧ Flash.Erases d.upgrade c
  | .appUpdate, c => ∃ d, directory = some d ∧ ∃ offset data,
      c = .flashWrite d.upgrade.index offset data ∧
        offset.toNat + data.length ≤ d.upgrade.size.toNat
  | .espUpdate, c => c.ConcernsEsp

namespace Request

def usesDirectory (request : Request) : Prop :=
  ∃ type, request.requestType = .ok type ∧ type.usesDirectory

def Comprises (request : Request) (directory : Option FlashDirectory) (c : Command) : Prop :=
  ∃ type, request.requestType = .ok type ∧ type.Comprises directory c

end Request

theorem RequestType.Comprises.not_readsDirectory {type : RequestType}
    {directory : Option FlashDirectory} {c : Command} (h : type.Comprises directory c) :
    ¬c.ReadsDirectory := by
  intro hc
  cases type with
  | reboot =>
    cases h
    exact hc
  | configErase | appErase =>
    obtain ⟨d, -, ⟨rfl, -⟩ | rfl⟩ := h
    · exact hc
    · exact hc
  | appUpdate =>
    obtain ⟨d, -, offset, data, rfl, -⟩ := h
    exact hc
  | espUpdate => cases c <;> first | exact hc | exact h

theorem FlashDirectory.discover_first {es : List Event} {r : Except DirectoryError FlashDirectory}
    (h : discover.Runs es r) : ∃ reply rest, es = .sent .flashInfo reply :: rest := by
  obtain ⟨e, h₁, -⟩ | ⟨info, es₁, es₂, rfl, h₁, -⟩ := Procedure.runs_bind.mp h
  · obtain ⟨r', hquery, -⟩ := Procedure.runs_orFail.mp h₁
    obtain ⟨reply, rfl, -⟩ := Device.runs_query rfl hquery
    exact ⟨reply, [], rfl⟩
  · obtain ⟨r', hquery, -⟩ := Procedure.runs_orFail.mp h₁
    obtain ⟨reply, rfl, -⟩ := Device.runs_query rfl hquery
    exact ⟨reply, es₂, rfl⟩

theorem Link.commands_append {σ : Type} (device : σ) (es past : List Event) :
    (Link.mk device (es ++ past)).commands =
      (Link.mk device past).commands ++ (Link.mk device es).commands := by
  simp only [commands, List.reverse_append, List.filterMap_append]

namespace ServiceContext

variable {ctx ctx' : ServiceContext} {es : List Event}

theorem updateApp_sends (d : FlashDirectory) (p : FirmwarePayload) (id : UsbId) :
    (Flash.updateApp d p id).Sends (RequestType.appUpdate.Comprises (some d)) := by
  intro es r h c reply hc
  obtain ⟨e, -, rfl, -⟩ | ⟨hcheck, hwrite⟩ := Flash.runs_updateApp h
  · exact absurd hc List.not_mem_nil
  · have hsize := (FirmwarePayload.checkApp_eq_ok.mp hcheck).1.2
    exact ⟨d, rfl, (Flash.write_sends d.upgrade p.data es r hwrite c reply hc).le_size hsize⟩

theorem withDirectory_comprises {type : RequestType} {d : FlashDirectory}
    {body : FlashDirectory → Procedure RequestError Unit} {result : Except RequestError Unit}
    (hbody : (body d).Sends (type.Comprises (some d))) (hd : ctx.directory = some d)
    (h : (ctx.withDirectory body).Runs es (result, ctx')) :
    ctx' = ctx ∧ ∀ c reply, .sent c reply ∈ es → type.Comprises ctx.directory c := by
  obtain ⟨e, h₁, -, -⟩ | ⟨d', es₁, es₂, rfl, h₁, h₂, rfl⟩ := runs_withDirectory h
  · rw [findDirectory_of_some hd] at h₁
    cases (Procedure.runs_pure.mp h₁).2
  · rw [findDirectory_of_some hd] at h₁
    obtain ⟨rfl, hd'⟩ := Procedure.runs_pure.mp h₁
    cases hd'
    refine ⟨?_, fun c reply hc => ?_⟩
    · rw [← hd]
    · rw [hd]
      exact hbody es₂ _ h₂ c reply hc

theorem perform_comprises {type : RequestType} {payload : Bytes}
    {result : Except RequestError Unit}
    (hknown : type.usesDirectory → ∃ d, ctx.directory = some d)
    (h : (ctx.perform payload type).Runs es (result, ctx')) :
    ctx' = ctx ∧ ∀ c reply, .sent c reply ∈ es → type.Comprises ctx.directory c := by
  cases type with
  | reboot =>
    obtain ⟨h₁, rfl⟩ := runs_withoutDirectory h
    have hsends : Device.reboot.Sends (RequestType.reboot.Comprises ctx'.directory) :=
      Device.sends_command rfl
    exact ⟨rfl, hsends.orFail es _ h₁⟩
  | configErase =>
    obtain ⟨d, hd⟩ := hknown rfl
    exact withDirectory_comprises
      ((Flash.erase_sends d.settings _).mono fun c hc => ⟨d, rfl, hc⟩).orFail hd h
  | appErase =>
    obtain ⟨d, hd⟩ := hknown rfl
    exact withDirectory_comprises
      ((Flash.erase_sends d.upgrade _).mono fun c hc => ⟨d, rfl, hc⟩).orFail hd h
  | appUpdate =>
    obtain ⟨d, hd⟩ := hknown rfl
    exact withDirectory_comprises ((Procedure.sends_ofExcept _).bind fun p =>
      (updateApp_sends d p _).orFail) hd h
  | espUpdate =>
    obtain ⟨h₁, rfl⟩ := runs_withoutDirectory h
    have hsends := (Procedure.sends_ofExcept ((FirmwarePayload.decode payload).mapError
      RequestError.wire)).bind fun p =>
        (Esp.update_sends ctx'.dfuTimings ctx'.espConfig ctx'.usbId p).orFail (g := .driver)
    exact ⟨rfl, hsends es _ h₁⟩

theorem dispatch_comprises {request : Request} {result : Except RequestError RequestType}
    (hknown : request.usesDirectory → ∃ d, ctx.directory = some d)
    (h : (ctx.dispatch request).Runs es (result, ctx')) :
    ctx' = ctx ∧ ∀ c reply, .sent c reply ∈ es → request.Comprises ctx.directory c := by
  obtain ⟨e, -, rfl, -, rfl⟩ | ⟨type, r, htype, h, -⟩ := runs_dispatch h
  · exact ⟨rfl, fun c reply hc => absurd hc List.not_mem_nil⟩
  · obtain ⟨hctx, hsends⟩ := perform_comprises (fun hu => hknown ⟨type, htype, hu⟩) h
    exact ⟨hctx, fun c reply hc => ⟨type, htype, hsends c reply hc⟩⟩

variable {σ : Type} (t : Transport σ)

theorem withDirectory_of_none (hnone : ctx.directory = none)
    (body : FlashDirectory → Procedure RequestError Unit) (l : Link σ) :
    (ctx.withDirectory body).run t l =
      match FlashDirectory.discover.outcome.run t l with
      | (.error e, l) => ((.error (.driver (.directory e)), ctx), l)
      | (.ok d, l) => ({ ctx with directory := some d }.withDirectory body).run t l := by
  unfold withDirectory
  rw [findDirectory_of_none hnone, Dialogue.run_andThen]
  cases FlashDirectory.discover.outcome.run t l with
  | mk found l =>
    cases found with
    | error e => rfl
    | ok d => rfl

theorem dispatch_of_none (hnone : ctx.directory = none) {request : Request}
    (huses : request.usesDirectory) (l : Link σ) :
    (ctx.dispatch request).run t l =
      match FlashDirectory.discover.outcome.run t l with
      | (.error e, l) => ((.error (.driver (.directory e)), ctx), l)
      | (.ok d, l) => ({ ctx with directory := some d }.dispatch request).run t l := by
  obtain ⟨type, htype, huses⟩ := huses
  unfold dispatch
  rw [htype]
  simp only [Dialogue.run_andThen]
  cases type with
  | reboot | espUpdate => cases huses
  | configErase | appErase | appUpdate =>
    simp only [perform]
    rw [withDirectory_of_none t hnone]
    cases FlashDirectory.discover.outcome.run t l with
    | mk found l =>
      cases found with
      | error e => rfl
      | ok d => rfl

theorem discovers_of_usesDirectory {request : Request} (huses : request.usesDirectory)
    (device : σ) :
    request.discovers t device = (FlashDirectory.discover.perform t device).1.toOption := by
  obtain ⟨type, htype, huses⟩ := huses
  simp only [Request.discovers, htype, if_pos huses]

theorem discovers_of_not_usesDirectory {request : Request} (hnot : ¬request.usesDirectory)
    (device : σ) : request.discovers t device = none := by
  unfold Request.discovers
  split
  · next type htype => exact if_neg fun huses => hnot ⟨type, htype, huses⟩
  · rfl

theorem context_dispatch (ctx : ServiceContext) (request : Request) (device : σ) :
    ((ctx.dispatch request).run t ⟨device, []⟩).1.2 =
      { ctx with directory := ctx.directory.or (request.discovers t device) } := by
  have hsame (ctx : ServiceContext) (l : Link σ)
      (hknown : request.usesDirectory → ∃ d, ctx.directory = some d) :
      ((ctx.dispatch request).run t l).1.2 = ctx := by
    obtain ⟨es, -, hruns⟩ := (ctx.dispatch request).run_runs t l
    exact (dispatch_comprises hknown hruns).1
  by_cases huses : request.usesDirectory
  · cases hdirectory : ctx.directory with
    | some d => rw [hsame ctx _ fun _ => ⟨d, hdirectory⟩, Option.some_or, ← hdirectory]
    | none =>
      rw [dispatch_of_none t hdirectory huses, discovers_of_usesDirectory t huses, Option.none_or,
        Procedure.perform]
      cases FlashDirectory.discover.outcome.run t ⟨device, []⟩ with
      | mk found l =>
        cases found with
        | error e => exact congrArg (fun o => { ctx with directory := o }) hdirectory
        | ok d => exact hsame { ctx with directory := some d } l fun _ => ⟨d, rfl⟩
  · rw [hsame ctx _ fun h => absurd h huses, discovers_of_not_usesDirectory t huses,
      Option.or_none]

theorem directory_dispatch (ctx : ServiceContext) (request : Request) (device : σ) :
    ((ctx.dispatch request).run t ⟨device, []⟩).1.2.directory =
      ctx.directory.or (request.discovers t device) :=
  congrArg directory (context_dispatch t ctx request device)

def after : List Request → ServiceContext → σ → ServiceContext × σ
  | [], ctx, device => (ctx, device)
  | request :: rest, ctx, device =>
    let ((_, ctx), link) := (ctx.dispatch request).run t ⟨device, []⟩
    after rest ctx link.device

theorem after_context (ctx : ServiceContext) (requests : List Request) (device : σ) :
    (ctx.after t requests device).1 =
      { ctx with directory := ctx.directory.or (ctx.firstDirectory t requests device) } := by
  induction requests generalizing ctx device with
  | nil => rw [firstDirectory, Option.or_none, after]
  | cons request rest ih =>
    have hctx := context_dispatch t ctx request device
    rw [after, firstDirectory]
    simp only [ih, hctx]
    cases request.discovers t device with
    | none => simp only [Option.or_none]
    | some d => cases ctx.directory <;> rfl

theorem dispatch_known (ctx : ServiceContext) {request : Request}
    (hknown : request.usesDirectory → ∃ d, ctx.directory = some d) (device : σ) :
    let ((_, ctx'), link) := (ctx.dispatch request).run t ⟨device, []⟩
    ctx' = ctx ∧
      ∀ c ∈ link.commands, ¬c.ReadsDirectory ∧ request.Comprises ctx.directory c := by
  obtain ⟨hctx, hsends⟩ := dispatch_comprises hknown ((ctx.dispatch request).runs_events t device)
  refine ⟨hctx, fun c hc => ?_⟩
  obtain ⟨reply, hc⟩ := Link.mem_commands.mp hc
  obtain ⟨type, htype, hcomprises⟩ := hsends c reply hc
  exact ⟨hcomprises.not_readsDirectory, type, htype, hcomprises⟩

theorem dispatch_discovers (hnone : ctx.directory = none) {request : Request}
    (huses : request.usesDirectory) {device : σ} {d : FlashDirectory} {discovery : Link σ}
    (hfound : FlashDirectory.discover.perform t device = (.ok d, discovery)) :
    let known := { ctx with directory := some d }
    let (rest, link) := (known.dispatch request).run t ⟨discovery.device, []⟩
    (ctx.dispatch request).run t ⟨device, []⟩ =
      (rest, ⟨link.device, link.events ++ discovery.events⟩) := by
  have hdispatch := dispatch_of_none t hnone huses ⟨device, []⟩
  rw [← Procedure.perform, hfound] at hdispatch
  exact hdispatch.trans
    (Dialogue.run_past t _ ⟨discovery.device, []⟩ discovery.events)

theorem dispatch_undiscovered (hnone : ctx.directory = none) {request : Request}
    (huses : request.usesDirectory) {device : σ} {e : DirectoryError} {discovery : Link σ}
    (hfound : FlashDirectory.discover.perform t device = (.error e, discovery)) :
    (ctx.dispatch request).run t ⟨device, []⟩ =
      ((.error (.driver (.directory e)), ctx), discovery) := by
  have hdispatch := dispatch_of_none t hnone huses ⟨device, []⟩
  rw [← Procedure.perform, hfound] at hdispatch
  exact hdispatch

theorem dispatch_first (hnone : ctx.directory = none) {request : Request}
    (huses : request.usesDirectory) (device : σ) :
    let (found, discovery) := FlashDirectory.discover.perform t device
    let ((result, ctx'), link) := (ctx.dispatch request).run t ⟨device, []⟩
    discovery.commands.head? = some .flashInfo ∧
      match found with
      | .error e => result = .error (.driver (.directory e)) ∧ ctx' = ctx ∧ link = discovery
      | .ok d =>
        let known := { ctx with directory := some d }
        let (rest, link') := (known.dispatch request).run t ⟨discovery.device, []⟩
        (result, ctx') = rest ∧ ctx' = known ∧
          link = ⟨link'.device, link'.events ++ discovery.events⟩ ∧
          link.commands = discovery.commands ++ link'.commands ∧
          ∀ c ∈ link'.commands, ¬c.ReadsDirectory ∧ request.Comprises (some d) c := by
  generalize hfound : FlashDirectory.discover.perform t device = out
  obtain ⟨found, discovery⟩ := out
  constructor
  · have hruns := Procedure.runs_perform t FlashDirectory.discover device
    rw [hfound] at hruns
    obtain ⟨reply, rest, hevents⟩ := FlashDirectory.discover_first hruns
    rw [Link.commands, hevents]
    rfl
  · cases found with
    | error e =>
      rw [dispatch_undiscovered t hnone huses hfound]
      exact ⟨rfl, rfl, rfl⟩
    | ok d =>
      rw [dispatch_discovers t hnone huses hfound]
      obtain ⟨hkept, hsends⟩ := dispatch_known t { ctx with directory := some d }
        (fun _ : request.usesDirectory => ⟨d, rfl⟩) discovery.device
      exact ⟨rfl, hkept, rfl, Link.commands_append _ _ _, hsends⟩

/-- A request, after any others, on any device. The context differs from the one at the start at
most by the directory that was discovered first. If this is known, or not needed, the request does
not read it again and keeps to it. Otherwise it discovers a directory from the beginning. If that
fails the context stays as it is; if not, the directory is kept and the request goes on as if it had
been known. -/
theorem directory_read_once (ctx : ServiceContext) (earlier : List Request) (device : σ)
    (request : Request) :
    let (ctx₁, device₁) := ctx.after t earlier device
    let (found, discovery) := FlashDirectory.discover.perform t device₁
    let ((result, ctx₂), link) := (ctx₁.dispatch request).run t ⟨device₁, []⟩
    ctx₁ = { ctx with directory := ctx.directory.or (ctx.firstDirectory t earlier device) } ∧
      ((request.usesDirectory → ∃ d, ctx₁.directory = some d) →
        ctx₂ = ctx₁ ∧
        ∀ c ∈ link.commands, ¬c.ReadsDirectory ∧ request.Comprises ctx₁.directory c) ∧
      (request.usesDirectory → ctx₁.directory = none →
        discovery.commands.head? = some .flashInfo ∧
        match found with
        | .error e => result = .error (.driver (.directory e)) ∧ ctx₂ = ctx₁ ∧ link = discovery
        | .ok d =>
          let known := { ctx₁ with directory := some d }
          let (rest, link') := (known.dispatch request).run t ⟨discovery.device, []⟩
          (result, ctx₂) = rest ∧ ctx₂ = known ∧
            link = ⟨link'.device, link'.events ++ discovery.events⟩ ∧
            link.commands = discovery.commands ++ link'.commands ∧
            ∀ c ∈ link'.commands, ¬c.ReadsDirectory ∧ request.Comprises (some d) c) :=
  ⟨after_context t ctx earlier device, fun hknown => dispatch_known t _ hknown _,
    fun huses hnone => dispatch_first t hnone huses _⟩

/-- A device that loses its first answer: one request fails, the next one finds the directory. -/
example :
    let forgetful : Transport (Bool × Simulator) :=
      { transact := fun c (awake, s) =>
          if awake then ((s.transact c).1, true, (s.transact c).2)
          else (.error (.io "port" .deviceFault), true, s)
        readNotification := fun (awake, s) => ((s.readNotification).1, awake, s)
        announces := fun _ => false }
    let ctx : ServiceContext := { usbId := ⟨0x1235, 0x821d⟩, firmwareBuild := 2417 }
    let request : Request := ⟨RequestType.configErase.number, []⟩
    (ctx.after forgetful [request] (false, .fourRoles)).1.directory = none ∧
      (ctx.after forgetful [request, request] (false, .fourRoles)).1.directory.isSome := by
  decide +kernel

end ServiceContext

end CardFirmware
