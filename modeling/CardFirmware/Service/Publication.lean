import CardFirmware.Control.Status
import CardFirmware.Device.Error
import CardFirmware.Files.SocketAddress
import CardFirmware.Files.Tree

/-! The files of a service: its socket, its status record and its lock. The record is written next
to its place and then moved there, so that readers see the old one or the new one. -/

namespace CardFirmware

inductive ServerError where
  | device (cause : TransportError)
  | missingCapability (category : String)
  | usbId (card : UInt32) (cause : IoError)
  | socket (path : Path) (cause : IoError)
  | status (path : Path) (cause : IoError)
  deriving DecidableEq

def ServerError.message : ServerError → String
  | device cause => s!"Device init error: {cause.message}"
  | missingCapability category => s!"Device does not support required {category} commands"
  | usbId card cause => s!"Cannot read USB ID for card {card.toNat}: {cause.message}"
  | socket path cause => s!"Socket init error at {path.display}: {cause.message}"
  | status path cause => s!"Cannot write status file {path.display}: {cause.message}"

namespace ServiceStatus

def temporaryPath (path : Path) : Path := path.sibling (path.name?.getD .empty ++ ".tmp")

def render (s : ServiceStatus) : Bytes := Text.Utf8.encode s.toJson.toPretty

/-- Writes the record. If the last step fails the new record is left beside the old one. -/
def publish (t : FileTree) (path : Path) (s : ServiceStatus) :
    Except ServerError Unit × FileTree :=
  match t.write (temporaryPath path) s.render with
  | .error cause => (.error (.status path cause), t)
  | .ok t =>
    match t.rename (temporaryPath path) path with
    | .error cause => (.error (.status path cause), t)
    | .ok t => (.ok (), t)

end ServiceStatus

namespace FileTree

def bindSocket (t : FileTree) (path : Path) : Except IoError FileTree := do
  SocketAddress.checkPath path
  match t.create path .socket with
  | .error .fileExists => throw .addressInUse
  | r => r

end FileTree

structure ServiceConfig where
  card : UInt32
  socketDirectory : Path
  devmapPath : Option Path := none
  lockPath : Option Path := none
  deriving DecidableEq

namespace ServiceConfig

def socketFile (c : ServiceConfig) : Path :=
  Path.join c.socketDirectory (ServiceStatus.socketName c.card)

def statusFile (c : ServiceConfig) : Path :=
  Path.join c.socketDirectory (ServiceStatus.fileName c.card)

def lockFile (c : ServiceConfig) : Path :=
  c.lockPath.getD (Path.join c.socketDirectory (ServiceStatus.lockName c.card))

end ServiceConfig

structure LockTable where
  held : List (List Path) := []
  deriving DecidableEq

namespace LockTable

/-- Takes a lock and writes the number of the process into it. A lock file that is held is not
touched. -/
def acquire (l : LockTable) (t : FileTree) (path : Path) (process : Nat) :
    Except IoError LockTable × FileTree :=
  match t.touch path with
  | .error cause => (.error cause, t)
  | .ok t =>
    match t.locate path with
    | .error cause => (.error cause, t)
    | .ok place =>
      if l.held.contains place then (.error .locked, t)
      else
        match t.write path (Text.Utf8.encode (toString process ++ "\n")) with
        | .error cause => (.error cause, t)
        | .ok t => (.ok ⟨place :: l.held⟩, t)

def release (l : LockTable) (t : FileTree) (path : Path) : LockTable :=
  match t.locate path with
  | .ok place => ⟨l.held.erase place⟩
  | .error _ => l

end LockTable

def logFilter? : String → Option String
  | "error" => some "error"
  | "warning" => some "warn"
  | "info" => some "info"
  | "debug" => some "debug"
  | _ => none

def journalStream? (s : String) : Option (Nat × Nat) := do
  let (device, file) ← Text.splitOnce? ':' s
  some (← Text.Numeral.unsigned? 10 UInt64.size device,
    ← Text.Numeral.unsigned? 10 UInt64.size file)

end CardFirmware
