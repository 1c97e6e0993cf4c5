import CardFirmware.Service.Server
import CardFirmware.Tool.Selection

/-! The machine on which the tool runs: its files, the services behind its sockets, and what the
tool has written so far. A service has answered a request in full before the tool reads on. -/

namespace CardFirmware

structure RunningService (σ : Type) where
  server : Server σ
  network : Network := {}

namespace RunningService

variable {σ : Type}

/-- Enough rounds to accept every connection, to read all that was sent and to see who has left. -/
def rounds (r : RunningService σ) : Nat :=
  r.network.connections.foldl (fun n (_, c) => n + (c.toService.length / Server.readChunk + 2)) 1

def settle (t : Transport σ) (r : RunningService σ) : RunningService σ :=
  go r.rounds r
where
  go : Nat → RunningService σ → RunningService σ
    | 0, r => r
    | n + 1, r =>
      match r.server.poll t { network := r.network } with
      | (.ok (), server, w) => go n ⟨server, w.network⟩
      | (.error _, server, w) => ⟨server, w.network⟩

def act (t : Transport σ) (a : Activity) (r : RunningService σ) : RunningService σ :=
  { r with network := r.network.act a }.settle t

def nextId (r : RunningService σ) : ConnectionId := r.network.connections.length

end RunningService

structure Host (σ : Type) where
  files : FileTree
  services : List (RunningService σ) := []
  stdout : String := ""
  stderr : String := ""

structure Session where
  service : Nat
  id : ConnectionId
  stream : ReplyStream
  deriving DecidableEq

namespace Host

variable {σ : Type} (t : Transport σ)

/-- The service that listens at an address: the last one to have bound it. No service has an
abstract address, and a socket without a service refuses connections. -/
def listener (h : Host σ) (address : Path) : Except IoError Nat := do
  if SocketAddress.isAbstract address then
    SocketAddress.checkAbstract address
    throw .connectionRefused
  SocketAddress.checkPath address
  if address = .empty then throw .invalidArgument
  let place ← h.files.locate address
  match ← h.files.root.descend place with
  | .socket =>
    let listensHere (r : RunningService σ) : Bool :=
      (h.files.locate r.server.config.socketFile).toOption == some place
    match (h.services.zipIdx.filter fun (r, _) => listensHere r).getLast? with
    | some (_, i) => return i
    | none => throw .connectionRefused
  | _ => throw .connectionRefused

def actOn (i : Nat) (a : Activity) (h : Host σ) : Host σ :=
  { h with services := h.services.modify i (·.act t a) }

def connect (path : Path) (h : Host σ) : Except SessionError Session × Host σ :=
  match h.listener path with
  | .error cause => (.error (.connect path cause), h)
  | .ok i =>
    let id := (h.services[i]?.map (·.nextId)).getD 0
    (.ok ⟨i, id, ⟨[], false, false⟩⟩, h.actOn t i (.connect id))

def disconnect (s : Session) (h : Host σ) : Host σ := h.actOn t s.service (.close s.id)

def deliver (s : Session) (h : Host σ) : Session × Host σ :=
  match h.services[s.service]? with
  | none => (s, h)
  | some r =>
    let (arrived, network) := r.network.receive s.id
    let stream := { s.stream with
      incoming := s.stream.incoming ++ arrived
      ended := (network.find s.id).closedByService }
    ({ s with stream }, { h with services := h.services.set s.service { r with network } })

def hasEnded (s : Session) (h : Host σ) : Bool :=
  (h.services[s.service]?).any fun r => (r.network.find s.id).closedByService

def submit (s : Session) (message : Bytes) (h : Host σ) : Session × Host σ :=
  (h.actOn t s.service (.write s.id message)).deliver s

/-- Sends a request and reads its answer, showing progress. The session outlives a failure. -/
def call (s : Session) (message : Bytes) (quiet : Bool) (h : Host σ) :
    Except SessionError Unit × Session × Host σ :=
  if h.hasEnded s then (.error (.io .brokenPipe), s, h)
  else
    let (s, h) := h.submit t s message
    let (result, shown, stream) := s.stream.await quiet
    (result, { s with stream }, { h with stdout := h.stdout ++ shown })

/-- A call after which the session is used only if it succeeded. -/
def exchange (s : Session) (message : Bytes) (quiet : Bool) (h : Host σ) :
    Except SessionError Session × Host σ :=
  let (result, s, h) := h.call t s message quiet
  (result.map fun () => s, h)

end Host

end CardFirmware
