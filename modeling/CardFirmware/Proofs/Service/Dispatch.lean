import CardFirmware.Service.Dispatch
import CardFirmware.Proofs.Esp.Transfer
import CardFirmware.Proofs.Flash.Directory

/-! The runs of a request by its type, and requests carried out one after the other on one device.
The directory that a fresh context keeps is that of the first discovery that succeeds. -/

namespace CardFirmware

namespace ServiceContext

variable {ctx ctx' : ServiceContext} {es : List Event}

section Runs

variable {body : FlashDirectory → Procedure RequestError Unit}
  {result : Except RequestError Unit}

theorem runs_withDirectory (h : (ctx.withDirectory body).Runs es (result, ctx')) :
    (∃ e, ctx.findDirectory.Runs es (.error e) ∧ result = .error (.driver (.directory e)) ∧
      ctx' = ctx) ∨
      ∃ d es₁ es₂, es = es₁ ++ es₂ ∧ ctx.findDirectory.Runs es₁ (.ok d) ∧
        (body d).Runs es₂ result ∧ ctx' = { ctx with directory := some d } := by
  obtain ⟨found, es₁, es₂, rfl, h₁, h₂⟩ := Dialogue.runs_bind.mp h
  cases found with
  | error e =>
    obtain ⟨rfl, he⟩ := Dialogue.runs_done.mp h₂
    cases he
    rw [List.append_nil]
    exact .inl ⟨e, h₁, rfl, rfl⟩
  | ok d =>
    obtain ⟨r, es₃, es₄, rfl, h₃, h₄⟩ := Dialogue.runs_bind.mp h₂
    obtain ⟨rfl, he⟩ := Dialogue.runs_done.mp h₄
    cases he
    rw [List.append_nil]
    exact .inr ⟨d, es₁, es₃, rfl, h₁, h₃, rfl⟩

theorem runs_withoutDirectory {p : Procedure RequestError Unit}
    (h : (ctx.withoutDirectory p).Runs es (result, ctx')) : p.Runs es result ∧ ctx' = ctx := by
  obtain ⟨r, es₁, es₂, rfl, h₁, h₂⟩ := Dialogue.runs_bind.mp h
  obtain ⟨rfl, he⟩ := Dialogue.runs_done.mp h₂
  cases he
  rw [List.append_nil]
  exact ⟨h₁, rfl⟩

theorem findDirectory_of_some {d : FlashDirectory} (h : ctx.directory = some d) :
    ctx.findDirectory = pure d := by
  rw [findDirectory, h]

theorem findDirectory_of_none (h : ctx.directory = none) :
    ctx.findDirectory = FlashDirectory.discover := by
  rw [findDirectory, h]

theorem findDirectory_sends : ctx.findDirectory.Sends Command.ReadsDirectory := by
  unfold findDirectory
  split
  · exact Procedure.sends_pure _
  · exact FlashDirectory.discover_sends

theorem runs_dispatch {request : Request} {result : Except RequestError RequestType}
    (h : (ctx.dispatch request).Runs es (result, ctx')) :
    (∃ e, request.requestType = .error e ∧ es = [] ∧ result = .error (.wire e) ∧ ctx' = ctx) ∨
      ∃ type r, request.requestType = .ok type ∧
        (ctx.perform request.payload type).Runs es (r, ctx') ∧ result = r.map fun () => type := by
  unfold dispatch at h
  split at h
  · next e he =>
    obtain ⟨rfl, ho⟩ := Dialogue.runs_done.mp h
    cases ho
    exact .inl ⟨e, he, rfl, rfl, rfl⟩
  · next type htype =>
    obtain ⟨⟨r, ctx₁⟩, es₁, es₂, rfl, h₁, h₂⟩ := Dialogue.runs_bind.mp h
    obtain ⟨rfl, ho⟩ := Dialogue.runs_done.mp h₂
    cases ho
    rw [List.append_nil]
    exact .inr ⟨type, r, htype, h₁, rfl⟩

theorem runs_payload {payload : Bytes} {f : FirmwarePayload → Procedure RequestError Unit}
    (h : (Procedure.ofExcept ((FirmwarePayload.decode payload).mapError RequestError.wire)
      >>= f).Runs es result) :
    (∃ e, FirmwarePayload.decode payload = .error e ∧ es = [] ∧ result = .error (.wire e)) ∨
      ∃ p, FirmwarePayload.decode payload = .ok p ∧ (f p).Runs es result := by
  obtain ⟨e, h₁, rfl⟩ | ⟨p, es₁, es₂, rfl, h₁, h₂⟩ := Procedure.runs_bind.mp h
  · obtain ⟨rfl, he⟩ := Procedure.runs_ofExcept.mp h₁
    cases hd : FirmwarePayload.decode payload with
    | error e' =>
      rw [hd] at he
      cases he
      exact .inl ⟨e', rfl, rfl, rfl⟩
    | ok p =>
      rw [hd] at he
      cases he
  · obtain ⟨rfl, he⟩ := Procedure.runs_ofExcept.mp h₁
    cases hd : FirmwarePayload.decode payload with
    | error e' =>
      rw [hd] at he
      cases he
    | ok p' =>
      rw [hd] at he
      cases he
      exact .inr ⟨p, rfl, h₂⟩

end Runs

end ServiceContext

namespace RequestType

def usesDirectory : RequestType → Bool
  | configErase | appErase | appUpdate => true
  | reboot | espUpdate => false

end RequestType

def Request.discovers {σ : Type} (request : Request) (t : Transport σ) (device : σ) :
    Option FlashDirectory :=
  match request.requestType with
  | .ok type =>
    if type.usesDirectory then (FlashDirectory.discover.perform t device).1.toOption else none
  | .error _ => none

structure Served where
  request : Request
  commands : List Command
  result : Except RequestError RequestType

namespace ServiceContext

variable {σ : Type} (t : Transport σ)

def history : List Request → ServiceContext → σ → List Served
  | [], _, _ => []
  | request :: rest, ctx, device =>
    let ((result, ctx), link) := (ctx.dispatch request).run t ⟨device, []⟩
    ⟨request, link.commands, result⟩ :: history rest ctx link.device

def firstDirectory : List Request → ServiceContext → σ → Option FlashDirectory
  | [], _, _ => none
  | request :: rest, ctx, device =>
    match request.discovers t device with
    | some d => some d
    | none =>
      let ((_, ctx), link) := (ctx.dispatch request).run t ⟨device, []⟩
      firstDirectory rest ctx link.device

end ServiceContext

end CardFirmware
