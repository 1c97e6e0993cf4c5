import CardFirmware.CommandLine
import CardFirmware.Device.Devmap
import CardFirmware.Files.SocketDirectory
import CardFirmware.Service.Publication

/-! The service as a program, up to the opening of its device: the command line, the directory for
the socket, and the lock that keeps a second service of the same card away. -/

namespace CardFirmware

def ServiceConfig.devmapFile (c : ServiceConfig) (pid : UInt16) : Path :=
  c.devmapPath.getD (Devmap.fileName pid)

namespace ServiceProgram

open CommandLine

def grammar : Grammar :=
  { options := [⟨"devmap", none, .path⟩, ⟨"socket-dir", none, .path⟩, ⟨"lock-file", none, .path⟩]
    hasVersion := true
    positional := some .number }

def arguments (e : Environment) (words : List String) : Except Halt ServiceConfig := do
  let (r, _) ← read grammar {} words
  match r.positional.bind number? with
  | none => throw .rejected
  | some card => return {
      card
      socketDirectory := ((r.values.lookup "socket-dir").map Path.ofText).getD e.serviceDirectory
      devmapPath := (r.values.lookup "devmap").map Path.ofText
      lockPath := (r.values.lookup "lock-file").map Path.ofText }

def devicePath (card : UInt32) : Path := s!"/dev/snd/hwC{card.toNat}D0"

inductive StartError where
  | directory (path : Path) (cause : IoError)
  | lock (card : UInt32) (path : Path) (cause : IoError)
  | device (cause : TransportError)
  deriving DecidableEq

namespace StartError

/-- What is said of a failure. About the device there is nothing to say but in the log. -/
def text : StartError → String
  | directory path cause => s!"Cannot create socket directory {path.display}: {cause.message}\n"
  | lock card path cause =>
    s!"Failed to acquire singleton lock: {cause.message}\n" ++
    s!"Another fcp-server may be running for card {card.toNat}.\nLock file: {path.display}\n"
  | device _ => ""

/-- A card that is not for this service is no failure. -/
def status : StartError → Nat
  | device (.notSupportedDevice _) | device (.legacyProtocol _) => 0
  | _ => 1

end StartError

def version : String := "0.1.0"

structure Outcome where
  status : Nat
  stdout : String := ""
  stderr : String := ""
  files : FileTree

/-- The device of a card is asked for its protocol only if it is there. -/
def openDevice (t : FileTree) (card : UInt32) : Except TransportError Unit :=
  match t.entry (devicePath card) with
  | .error .notFound => .error (.notSupportedDevice (devicePath card))
  | .error cause => .error (.io "open" cause)
  | .ok _ => .ok ()

def prepare (c : ServiceConfig) (process : Nat) (held : LockTable) (t : FileTree) :
    Except StartError Unit × FileTree :=
  match t.createDirectories c.socketDirectory with
  | (.error cause, t) => (.error (.directory c.socketDirectory cause), t)
  | (.ok (), t) =>
    match held.acquire t c.lockFile process with
    | (.error cause, t) => (.error (.lock c.card c.lockFile cause), t)
    | (.ok _, t) => ((openDevice t c.card).mapError .device, t)

/-- Runs the program up to the opening of the device and tells its exit status. -/
def run (e : Environment) (words : List String) (process : Nat) (held : LockTable)
    (t : FileTree) : Outcome :=
  match arguments e words with
  | .error .rejected => { status := 2, files := t }
  | .error .help => { status := 0, files := t }
  | .error .version => { status := 0, stdout := s!"fcp-server {version}\n", files := t }
  | .ok c =>
    match prepare c process held t with
    | (.ok (), t) => { status := 0, files := t }
    | (.error failure, t) =>
      { status := failure.status, stderr := failure.text, files := t }

end ServiceProgram

end CardFirmware
