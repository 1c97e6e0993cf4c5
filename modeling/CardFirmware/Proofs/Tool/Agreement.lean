import Mathlib.Control.Monad.Basic
import CardFirmware.Proofs.Service.Settling
import CardFirmware.Proofs.Tool.Session

/-! Both ends of a connection together: the calls that the tool makes through one session, and the
answers of the service that it is connected to. Every call returns the result of its own request and
reads its own answer (`outcomes_agree`). -/

namespace CardFirmware

inductive SessionRequest where
  | simple (type : RequestType) (quiet : Bool)
  | firmware (s : FirmwareSection)
  deriving DecidableEq

namespace SessionRequest

def quiet : SessionRequest → Bool
  | simple _ quiet => quiet
  | firmware _ => false

def message : SessionRequest → Except SessionError Bytes
  | simple type _ => .ok type.message
  | firmware s => s.uploadMessage

def clientMessage : SessionRequest → ClientMessage
  | simple type _ => .plain type
  | firmware s => s.upload

/-- A section can be sent unless it is a container, if it has 16 MiB at most. -/
def Sendable : SessionRequest → Prop
  | simple _ _ => True
  | firmware s => s.kind ≠ .container ∧ s.data.length ≤ 16 * 1024 * 1024

theorem message_eq {q : SessionRequest} (h : q.Sendable) :
    q.message = .ok q.clientMessage.encode := by
  cases q with
  | simple type quiet => rfl
  | firmware s => exact FirmwareSection.uploadMessage_eq h.1

theorem fits_clientMessage {q : SessionRequest} (h : q.Sendable) : q.clientMessage.Fits := by
  cases q with
  | simple type quiet => trivial
  | firmware s => exact FirmwareSection.fits_upload h.2

end SessionRequest

/-- How a call went: what it returned, what had arrived for it, and what of this it did not read. -/
structure SessionCall where
  result : Except SessionError Unit
  arrived : Bytes
  left : Bytes

def Answer.call (a : Answer) : SessionCall := ⟨a.outcome, a.frames.flatten, []⟩

namespace Host

variable {σ : Type}

def request (t : Transport σ) (q : SessionRequest) (s : Session) (h : Host σ) :
    SessionCall × Session × Host σ :=
  match q.message with
  | .error e => (⟨.error e, s.stream.incoming, s.stream.incoming⟩, s, h)
  | .ok message =>
    let (result, s', h') := h.call t s message q.quiet
    (⟨result, (h.submit t s message).1.stream.incoming, s'.stream.incoming⟩, s', h')

def requestAll (t : Transport σ) :
    List SessionRequest → Session → Host σ → List SessionCall × Session × Host σ
  | [], s, h => ([], s, h)
  | q :: requests, s, h =>
    let (call, s, h) := h.request t q s
    let (calls, s, h) := requestAll t requests s h
    (call :: calls, s, h)

/-- The service has the connection as its client and waits for a message. It has sent nothing that
the client has not received. -/
def Awaits (i : Nat) (id : ConnectionId) (context : ServiceContext) (device : σ) (h : Host σ) :
    Prop :=
  ∃ r received, h.services[i]? = some r ∧ received.Clear ∧
    Server.Alone id r.server r.surroundings ∧
    Server.Serves id received [] [] r.server.resyncs ⟨context, device, []⟩ r.server r.surroundings

def HasClosed (i : Nat) (id : ConnectionId) (context : ServiceContext) (device : σ) (h : Host σ) :
    Prop :=
  ∃ r, h.services[i]? = some r ∧ r.network.LetGo id [] ∧ r.server.context = context ∧
    r.server.device = device

variable {t : Transport σ} {q : SessionRequest} {s : Session} {context : ServiceContext}
  {device : σ} {h : Host σ} {i : Nat} {id : ConnectionId} {r : RunningService σ}

theorem getElem?_actOn (a : Activity) (hr : h.services[i]? = some r) :
    (h.actOn t i a).services[i]? = some (r.act t a) := by
  rw [actOn, List.getElem?_modify_eq, hr]
  rfl

theorem deliver_eq (hr : h.services[s.service]? = some r) :
    h.deliver s =
      ({ s with
          stream := { s.stream with
            incoming := s.stream.incoming ++ (r.network.receive s.id).1
            ended := ((r.network.receive s.id).2.find s.id).closedByService } },
        { h with
          services := h.services.set s.service
            { r with network := (r.network.receive s.id).2 } }) := by
  rw [deliver, hr]

theorem getElem?_deliver (hr : h.services[s.service]? = some r) :
    (h.deliver s).2.services[s.service]? =
      some { r with network := (r.network.receive s.id).2 } := by
  rw [deliver_eq hr]
  exact List.getElem?_set_self (List.getElem?_eq_some_iff.mp hr).1

theorem hasEnded_of_awaits (hawaits : h.Awaits s.service s.id context device) :
    hasEnded s h = false := by
  obtain ⟨r, received, hr, -, -, hserves⟩ := hawaits
  obtain ⟨unread, hcarries, -⟩ := hserves.carries
  rw [hasEnded, hr, Option.any_some]
  show (r.surroundings.network.find s.id).closedByService = false
  rw [hcarries.find_eq]

theorem hasEnded_of_hasClosed (hclosed : h.HasClosed s.service s.id context device) :
    hasEnded s h = true := by
  obtain ⟨r, hr, hletGo, -⟩ := hclosed
  rw [hasEnded, hr, Option.any_some]
  exact hletGo.find_eq.2

theorem submit_awaits {m : ClientMessage} (hhears : ∀ device, Server.Hears t device) (hm : m.Fits)
    (hawaits : h.Awaits s.service s.id context device) :
    let (s', h') := h.submit t s m.encode
    ∃ a context' device',
      Exchange.Proceeds t [.ok m.request] ⟨context, device, []⟩ ⟨context', device', [a]⟩ ∧
      s'.service = s.service ∧ s'.id = s.id ∧
      s'.stream.incoming = s.stream.incoming ++ a.frames.flatten ∧
      (a.isReboot = false ∧ h'.Awaits s.service s.id context' device' ∨
        a.isReboot = true ∧ h'.HasClosed s.service s.id context' device') := by
  obtain ⟨r, received, hr, hclear, halone, hserves⟩ := hawaits
  obtain ⟨received', ⟨context', device', answers⟩, hclear', hproceeds, halone', hend⟩ :=
    RunningService.act_write hhears hclear hm hserves halone
  obtain ⟨a, ha⟩ := hproceeds.answers_single rfl
  obtain rfl : answers = [a] := ha
  have hacted := getElem?_actOn (t := t) (.write s.id m.encode) hr
  have hdelivered := getElem?_deliver hacted
  have hsubmit : h.submit t s m.encode = _ := deliver_eq hacted
  rw [deliver_eq hacted] at hdelivered
  rw [hsubmit]
  generalize r.act t (.write s.id m.encode) = r' at halone' hend hdelivered
  refine ⟨a, context', device', hproceeds, rfl, rfl, ?_⟩
  have hbytes : Exchange.bytes ⟨context', device', [a]⟩ = a.frames.flatten := by
    rw [Exchange.bytes, List.flatMap_singleton]
  have hover : Exchange.isOver ⟨context', device', [a]⟩ = a.isReboot := by
    rw [Exchange.isOver, List.any_cons, List.any_nil, Bool.or_false]
  rw [← hbytes, ← hover]
  rcases hend with hserves' | hleft
  · obtain ⟨unread, hcarries, hnothing⟩ := hserves'.carries
    obtain ⟨rfl, -⟩ := List.append_eq_nil_iff.mp hnothing
    obtain ⟨harrived, hcarries'⟩ := hcarries.receive
    refine ⟨?_, .inl ⟨hserves'.isOver_eq, _, received', hdelivered, hclear', ?_, ?_⟩⟩
    · exact congrArg (s.stream.incoming ++ ·) harrived
    · exact { halone' with }
    · have hanew := Server.serves_anew hserves'.client_eq hcarries'
      rw [hserves'.context_eq, hserves'.device_eq] at hanew
      exact hanew
  · obtain ⟨harrived, hletGo⟩ := hleft.letGo.receive
    refine ⟨?_, .inr ⟨hleft.isOver_eq, _, hdelivered, hletGo, hleft.context_eq, hleft.device_eq⟩⟩
    exact congrArg (s.stream.incoming ++ ·) harrived

theorem request_awaits (hhears : ∀ device, Server.Hears t device) (hq : q.Sendable)
    (hincoming : s.stream.incoming = []) (hawaits : h.Awaits s.service s.id context device) :
    let (call, s', h') := h.request t q s
    ∃ a context' device', call = a.call ∧
      Exchange.Proceeds t [.ok q.clientMessage.request] ⟨context, device, []⟩
        ⟨context', device', [a]⟩ ∧
      s'.service = s.service ∧ s'.id = s.id ∧ s'.stream.incoming = [] ∧
      (a.isReboot = false ∧ h'.Awaits s.service s.id context' device' ∨
        a.isReboot = true ∧ h'.HasClosed s.service s.id context' device') := by
  have hsubmitted := submit_awaits hhears (SessionRequest.fits_clientMessage hq) hawaits
  simp only [request, SessionRequest.message_eq hq, call, hasEnded_of_awaits hawaits,
    Bool.false_eq_true, if_false]
  generalize h.submit t s q.clientMessage.encode = submitted at hsubmitted
  obtain ⟨s', h'⟩ := submitted
  obtain ⟨a, context', device', hproceeds, hservice, hid, harrived, hend⟩ := hsubmitted
  rw [hincoming, List.nil_append] at harrived
  have hframes : s'.stream.incoming = a.frames.flatten ++ [] := by
    rw [harrived, List.append_nil]
  obtain ⟨hresult, hleft⟩ := ReplyStream.await_frames q.quiet a hframes
  refine ⟨a, context', device', ?_, hproceeds, hservice, hid, hleft, hend⟩
  rw [Answer.call, hresult, harrived, hleft]

theorem requestAll_closed (requests : List SessionRequest) (hended : hasEnded s h = true) :
    (h.requestAll t requests s).2.2 = h := by
  induction requests with
  | nil => rfl
  | cons q requests ih =>
    rw [requestAll, request]
    cases q.message with
    | error e => exact ih
    | ok message =>
      simp only [call, hended, if_true]
      exact ih

theorem requestAll_awaits (hhears : ∀ device, Server.Hears t device)
    {requests : List SessionRequest} (hrequests : ∀ q ∈ requests, q.Sendable)
    (hincoming : s.stream.incoming = []) (hawaits : h.Awaits s.service s.id context device) :
    let (calls, _, h') := h.requestAll t requests s
    ∃ x, Exchange.Proceeds t (requests.map fun q => .ok q.clientMessage.request)
        ⟨context, device, []⟩ x ∧
      (x.answers.length = requests.length ∨ x.isOver = true) ∧
      calls.take x.answers.length = x.answers.map Answer.call ∧
      ∃ r, h'.services[s.service]? = some r ∧ r.server.context = x.context ∧
        r.server.device = x.device := by
  induction requests generalizing s h context device with
  | nil =>
    obtain ⟨r, received, hr, -, -, hserves⟩ := hawaits
    exact ⟨⟨context, device, []⟩, .done _, .inl rfl, rfl, r, hr, hserves.context_eq,
      hserves.device_eq⟩
  | cons q requests ih =>
    obtain ⟨hq, hrequests⟩ := List.forall_mem_cons.mp hrequests
    have hrequested := request_awaits hhears hq hincoming hawaits
    rw [requestAll]
    generalize h.request t q s = requested at hrequested
    obtain ⟨call, s', h'⟩ := requested
    obtain ⟨a, context', device', rfl, hproceeds, hservice, hid, hincoming', hend⟩ := hrequested
    rw [← hservice, ← hid] at hend
    rcases hend with ⟨hgoing, hawaits'⟩ | ⟨hover, hclosed⟩
    · have hrest := ih hrequests hincoming' hawaits'
      simp only
      generalize h'.requestAll t requests s' = rest at hrest
      obtain ⟨calls, s'', h''⟩ := rest
      obtain ⟨x, hlater, hlength, htake, hleft⟩ := hrest
      rw [← hservice]
      have hearlier : [a].any Answer.isReboot = false := by
        rw [List.any_cons, hgoing, List.any_nil, Bool.or_false]
      refine ⟨x.after [a], hproceeds.append (hlater.after hearlier), ?_, ?_, hleft⟩
      · rw [Exchange.isOver_after hearlier]
        exact hlength.imp_left (congrArg (· + 1))
      · exact congrArg (a.call :: ·) htake
    · have hended := requestAll_closed (t := t) requests (hasEnded_of_hasClosed hclosed)
      obtain ⟨r, hr, -, hcontext, hdevice⟩ := hclosed
      simp only
      generalize h'.requestAll t requests s' = rest at hended
      obtain ⟨calls, s'', h''⟩ := rest
      obtain rfl : h'' = h' := hended
      rw [← hservice]
      have hx : Exchange.isOver ⟨context', device', [a]⟩ = true := by
        rw [Exchange.isOver, List.any_cons, hover, Bool.true_or]
      have hnone := Exchange.proceeds_converse t ⟨context', device', [a]⟩
        (requests.map fun q => .ok q.clientMessage.request)
      rw [Exchange.converse_of_isOver hx] at hnone
      exact ⟨⟨context', device', [a]⟩, hproceeds.append hnone, .inr hx, rfl, r, hr, hcontext,
        hdevice⟩

theorem connect_eq {path : Path} {h₁ : Host σ} (hconnect : h.connect t path = (.ok s, h₁)) :
    s.stream.incoming = [] ∧ h₁ = h.actOn t s.service (.connect s.id) := by
  unfold connect at hconnect
  split at hconnect
  · cases hconnect
  · obtain ⟨hs, rfl⟩ := Prod.mk.inj hconnect
    obtain rfl := Except.ok.inj hs
    exact ⟨rfl, rfl⟩

/-- A tool connects to a service that nobody else uses and that no notification makes fail. It makes
call after call, whatever comes of them. The calls are answered in order up to a reboot: each one
returns the result that its request had with the service, and the frames of its answer are all that
arrives for it and all that it reads. -/
theorem outcomes_agree (t : Transport σ) (path : Path) (h h₁ : Host σ) (s : Session)
    (r : RunningService σ) (requests : List SessionRequest)
    (hhears : ∀ device, Server.Hears t device) (hconnect : h.connect t path = (.ok s, h₁))
    (hr : h.services[s.service]? = some r) (hnone : r.server.client = none)
    (hwaiting : r.network.waiting = []) (hfresh : r.network.connections.lookup s.id = none)
    (hrequests : ∀ q ∈ requests, q.Sendable) :
    let (calls, _, h₂) := h₁.requestAll t requests s
    ∃ x, Exchange.Proceeds t (requests.map fun q => .ok q.clientMessage.request)
        ⟨r.server.context, r.server.device, []⟩ x ∧
      (x.answers.length = requests.length ∨ x.isOver = true) ∧
      calls.take x.answers.length =
        x.answers.map (fun a => ⟨a.outcome, a.frames.flatten, []⟩) ∧
      ∃ r₂, h₂.services[s.service]? = some r₂ ∧ r₂.server.context = x.context ∧
        r₂.server.device = x.device := by
  obtain ⟨hincoming, rfl⟩ := connect_eq hconnect
  obtain ⟨received, ⟨context, device, answers⟩, hclear, hearlier, halone, hserves⟩ :=
    RunningService.act_connect hhears hnone hwaiting hfresh
  obtain rfl : answers = [] := hearlier.answers_nil
  have hawaits : (h.actOn t s.service (.connect s.id)).Awaits s.service s.id context device := by
    refine ⟨_, received, getElem?_actOn (.connect s.id) hr, hclear, halone, ?_⟩
    have hcount : (r.act t (.connect s.id)).server.resyncs = r.server.resyncs := hserves.resyncs_eq
    rw [hcount]
    exact hserves
  have hcalls := requestAll_awaits hhears hrequests hincoming hawaits
  generalize (h.actOn t s.service (.connect s.id)).requestAll t requests s = made at hcalls
  obtain ⟨calls, s', h₂⟩ := made
  obtain ⟨x, hlater, hend⟩ := hcalls
  exact ⟨x, hearlier.append hlater, hend⟩

/-- An image that is too short is refused, the settings are erased, and the device is rebooted. What
is asked for after that is not answered. -/
theorem refusal_erase_and_reboot_agree :
    let image : FirmwareSection :=
      ⟨.leapfrog, 1, 2, ⟨1, 0, 0, 7⟩, 3, Octets.zero 32, none, [1, 2, 3]⟩
    let r : RunningService Simulator :=
      { server := { device := .fourRoles, context := { usbId := ⟨1, 2⟩, firmwareBuild := 3 },
                    config := { card := 0, socketDirectory := "/run" } } }
    let h : Host Simulator :=
      { files := ⟨.directory true [("run", .directory true [("fcp-0.sock", .socket)])], []⟩,
        services := [r] }
    let s : Session := ⟨0, 0, ⟨[], false, false⟩⟩
    let requests : List SessionRequest :=
      [.firmware image, .simple .configErase false, .simple .reboot true, .simple .appErase false]
    (∀ device, Server.Hears Simulator.transport device) ∧
      (h.connect Simulator.transport "/run/fcp-0.sock").1 = .ok s ∧
      (∀ q ∈ requests, q.Sendable) ∧
      let calls := ((h.connect Simulator.transport "/run/fcp-0.sock").2.requestAll
        Simulator.transport requests s).1.take 3
      calls.map SessionCall.result = [.error (.server .invalidLength), .ok (), .ok ()] ∧
        calls.map SessionCall.left = [[], [], []] := by
  intro image r h s requests
  have hquiet : ∀ device, Simulator.transport.announces device = false := fun _ => rfl
  have hhears : ∀ device, Server.Hears Simulator.transport device := by
    intro device hannounced
    rw [hquiet device] at hannounced
    cases hannounced
  have hconnect : (h.connect Simulator.transport "/run/fcp-0.sock").1 = .ok s := by
    have hlistener : (h.listener "/run/fcp-0.sock").toOption = some 0 := by decide +kernel
    rw [connect]
    generalize h.listener "/run/fcp-0.sock" = listener at hlistener ⊢
    cases listener with
    | error cause => cases hlistener
    | ok i => cases hlistener; rfl
  have hrequests : ∀ q ∈ requests, q.Sendable := by
    refine List.forall_mem_cons.mpr ⟨⟨by decide, by decide⟩, ?_⟩
    simp [SessionRequest.Sendable]
  refine ⟨hhears, hconnect, hrequests, ?_⟩
  generalize hout : h.connect Simulator.transport "/run/fcp-0.sock" = out at hconnect ⊢
  obtain ⟨result, h₁⟩ := out
  obtain rfl : result = .ok s := hconnect
  have hagree := outcomes_agree Simulator.transport "/run/fcp-0.sock" h h₁ s r requests hhears hout
    rfl rfl rfl rfl hrequests
  generalize h₁.requestAll Simulator.transport requests s = made at hagree ⊢
  obtain ⟨calls, s', h'⟩ := made
  obtain ⟨x, hproceeds, -, htake, -⟩ := hagree
  have hx := hproceeds.eq_converse hquiet
  obtain ⟨hlength, hresults⟩ : x.answers.length = 3 ∧
      x.answers.map Answer.outcome = [.error (.server .invalidLength), .ok (), .ok ()] := by
    rw [hx]
    decide +kernel
  rw [hlength] at htake
  simp only [htake, List.map_map]
  refine ⟨hresults, ?_⟩
  have hleft : x.answers.map (fun _ => ([] : Bytes)) = List.replicate x.answers.length [] :=
    List.map_const'
  rw [hlength] at hleft
  exact hleft

end Host

end CardFirmware
