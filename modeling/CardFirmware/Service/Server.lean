import CardFirmware.Control.Reassembly
import CardFirmware.Service.Dispatch
import CardFirmware.Service.Network
import CardFirmware.Service.Publication

/-! A service on its socket. It has one client at a time and carries its requests out one after
the other; every other connection is closed at once, also while a request is running. -/

namespace CardFirmware

structure Client where
  id : ConnectionId
  received : Reassembly
  deriving DecidableEq

/-- A running service and its device. The versions are those that its controls know of; `resyncs`
and `notified` count the calls that the controls got. -/
structure Server (σ : Type) where
  device : σ
  context : ServiceContext
  config : ServiceConfig
  appVersion : Option Version := none
  espVersion : Option Version := none
  client : Option Client := none
  resyncs : Nat := 0
  notified : Nat := 0

namespace Server

variable {σ : Type}

def status (s : Server σ) : ServiceStatus :=
  { socketPath := s.config.socketFile.display
    card := s.config.card
    vid := s.context.usbId.vid
    pid := s.context.usbId.pid
    firmwareBuild := s.context.firmwareBuild
    appVersion := s.appVersion
    espVersion := s.espVersion }

def bind (t : FileTree) (s : Server σ) : Except ServerError FileTree :=
  let path := s.config.socketFile
  let cleared : Except IoError FileTree := match t.removeFile path with
    | .error .notFound => .ok t
    | r => r
  (cleared.bind (·.bindSocket path)).mapError (.socket path)

def publish (t : FileTree) (s : Server σ) : Except ServerError Unit × FileTree :=
  s.status.publish t s.config.statusFile

def withdraw (t : FileTree) (s : Server σ) : FileTree :=
  (t.discardFile s.config.statusFile).discardFile s.config.socketFile

/-- Lets the events of a request show on the network. Progress goes to its client; at each tick
the connections that wait by then are closed. `meanwhile` is what clients do before each tick. -/
def play (id : ConnectionId) :
    List Event → List (List Activity) → Network → List (List Activity) × Network
  | [], meanwhile, n => (meanwhile, n)
  | .reported p :: events, meanwhile, n =>
    play id events meanwhile (n.send id (Response.encodeProgress p))
  | .ticked :: events, meanwhile, n =>
    play id events meanwhile.tail ((meanwhile.headD []).foldl Network.act n).rejectWaiting
  | _ :: events, meanwhile, n => play id events meanwhile n

/-- What surrounds a running service: its network, and what clients do while it is busy. -/
structure Surroundings where
  network : Network
  meanwhile : List (List Activity) := []

/-- Carries out one request and answers it. After a reboot the client is let go. -/
def handle (t : Transport σ) (id : ConnectionId) (request : Request) (s : Server σ)
    (w : Surroundings) : Server σ × Surroundings :=
  let ((result, context), link) := (s.context.dispatch request).run t ⟨s.device, []⟩
  let (meanwhile, network) := play id link.events.reverse w.meanwhile w.network
  let s := { s with device := link.device, context }
  match result with
  | .ok .reboot =>
    ({ s with client := none }, ⟨(network.send id Response.encodeSuccess).hangUp id, meanwhile⟩)
  | .ok _ =>
    ({ s with resyncs := s.resyncs + 1 }, ⟨network.send id Response.encodeSuccess, meanwhile⟩)
  | .error e => (s, ⟨network.send id (Response.encodeError e.code), meanwhile⟩)

def handleAll (t : Transport σ) (id : ConnectionId) :
    List (Except WireError Request) → Server σ → Surroundings → Server σ × Surroundings
  | [], s, w => (s, w)
  | .error e :: rest, s, w =>
    handleAll t id rest s { w with network := w.network.send id (Response.encodeError e.code) }
  | .ok request :: rest, s, w =>
    let (s, w) := s.handle t id request w
    match s.client with
    | none => (s, w)
    | some _ => handleAll t id rest s w

def readChunk : Nat := 65536

def serve (t : Transport σ) (client : Client) (s : Server σ) (w : Surroundings) :
    Server σ × Surroundings :=
  let sent := (w.network.find client.id).toService
  if sent.isEmpty then
    ({ s with client := none }, { w with network := w.network.hangUp client.id })
  else
    let network := w.network.modify client.id fun c =>
      { c with toService := c.toService.drop readChunk }
    let (items, received) := (client.received.extend (sent.take readChunk)).drain
    handleAll t client.id items { s with client := some ⟨client.id, received⟩ }
      { w with network }

/-- Accepts the connections that wait: the first one if there is no client, none of the others. -/
def accept (s : Server σ) (n : Network) : Server σ × Network :=
  match s.client, n.waiting with
  | none, id :: rest =>
    ({ s with client := some ⟨id, .standard⟩ }, { n with waiting := rest }.rejectWaiting)
  | _, _ => (s, n.rejectWaiting)

def hear (t : Transport σ) (s : Server σ) : Except ServerError Unit × Server σ :=
  let (reply, device) := t.readNotification s.device
  let s := { s with device }
  match reply with
  | .error e => (.error (.device e), s)
  | .ok none => (.ok (), s)
  | .ok (some _) => (.ok (), { s with notified := s.notified + 1 })

/-- One round, over what was ready when it began: a notification, then the client, then the
connections that wait. -/
def poll (t : Transport σ) (s : Server σ) (w : Surroundings) :
    Except ServerError Unit × Server σ × Surroundings :=
  let clientReady := s.client.any fun c => w.network.readable c.id
  let waiting := !w.network.waiting.isEmpty
  let (heard, s) := if t.announces s.device then s.hear t else (.ok (), s)
  match heard with
  | .error e => (.error e, s, w)
  | .ok () =>
    let (s, w) := match clientReady, s.client with
      | true, some client => s.serve t client w
      | _, _ => (s, w)
    if waiting then
      let (s, network) := s.accept w.network
      (.ok (), s, { w with network })
    else (.ok (), s, w)

end Server

end CardFirmware
