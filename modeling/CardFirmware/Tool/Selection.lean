import CardFirmware.Firmware.Directory
import CardFirmware.Tool.Discovery
import CardFirmware.Tool.Session

/-! Which card and which firmware a command is for. Without a file being named the newest firmware
of the product is taken, and only if it is newer than what the card runs. -/

namespace CardFirmware

def firmwareUrl : String := "https://github.com/geoffreybennett/fcp-firmware"

inductive ToolError where
  | cardWithoutCommand
  | noDevices
  | cardNotFound (card : UInt32)
  | severalDevices
  | notRunning (card : UInt32)
  | connect (card : UInt32) (cause : SessionError)
  | session (cause : SessionError)
  | unreadable (path : Path) (cause : FirmwareError)
  | unloadable (cause : FirmwareError)
  | noFirmware (product : String)
  | upToDate (running : Version) (product : String)
  | differentDevice (found expected : UInt16)
  | noSection (kind : FirmwareKind)
  | unknownSerial
  | notDisconnected (cause : SessionError)
  | notReappeared (serial : String)
  deriving DecidableEq

def FirmwareError.chain (e : FirmwareError) : List String :=
  e.message :: match e with
    | io cause => [cause.message]
    | _ => []

namespace ToolError

def chain : ToolError → List String
  | cardWithoutCommand => ["Card specified but no command"]
  | noDevices => ["No supported devices found"]
  | cardNotFound card =>
    [s!"Selected card {card.toNat} not found\nUse 'fcp-tool list' to list supported devices"]
  | severalDevices =>
    ["More than one supported device found\n" ++
      "Use 'fcp-tool list' and 'fcp-tool -c <card_num> ...' to select a device"]
  | notRunning card => [s!"fcp-server not running for card {card.toNat}"]
  | connect card cause =>
    s!"Failed to connect to fcp-server for card {card.toNat}" :: cause.chain
  | session cause => cause.chain
  | unreadable path cause => s!"Failed to read firmware file: {path.display}" :: cause.chain
  | unloadable cause => "Unable to load firmware" :: cause.chain
  | noFirmware product => [s!"No firmware available for {product}"]
  | upToDate running product =>
    [s!"Firmware {running.render} for {product} is already up to date"]
  | differentDevice found expected =>
    ["Firmware file is for a different device (PID " ++ Text.Numeral.hex 4 found.toNat ++ " != " ++
      Text.Numeral.hex 4 expected.toNat ++ ")"]
  | noSection kind => [s!"No {kind.name} firmware found in the firmware file"]
  | unknownSerial => ["Cannot follow device across reboot: serial number unknown"]
  | notDisconnected cause =>
    "fcp-server did not disconnect after reboot request" :: cause.chain
  | notReappeared serial =>
    ["Device did not reappear after reboot", s!"device with serial {serial} not found"]

def message (e : ToolError) : String := e.chain.headD ""

end ToolError

def enumerateFirmwares (t : FileTree) (directory : Path) : List FoundFirmware × String :=
  match Firmware.scan t directory vendorId with
  | .ok found => (Firmware.sort productOrder found, "")
  | .error (.io .notFound) =>
    ([], s!"Firmware directory {directory.display} not found\n" ++
      s!"Please install the firmware package from:\n  {firmwareUrl}\n\n")
  | .error e => ([], s!"Unable to open directory {directory.display}: {e.message}\n")

inductive UpdateStatus where
  | available
  | upToDate
  | newer
  | unknown
  deriving DecidableEq

namespace UpdateStatus

def compare (running : Option Version) (latest : Version) : UpdateStatus :=
  match running with
  | none => unknown
  | some v =>
    match Version.compare v latest with
    | .lt => available
    | .eq => upToDate
    | .gt => newer

def label : UpdateStatus → String
  | available => "update available"
  | upToDate => "up to date"
  | newer => "newer than"
  | unknown => "available"

def name : UpdateStatus → String
  | available => "Available"
  | upToDate => "UpToDate"
  | newer => "Newer"
  | unknown => "Unknown"

end UpdateStatus

/-- The card that is named, or else the only one. -/
def selectCard (cards : List SoundCard) (wanted : Option UInt32) : Except ToolError SoundCard :=
  match cards, wanted with
  | [], _ => .error .noDevices
  | _, some n =>
    match cards.find? (·.card = n) with
    | some c => .ok c
    | none => .error (.cardNotFound n)
  | [c], none => .ok c
  | _, none => .error .severalDevices

structure SelectedFirmware where
  path : Path
  file : FirmwareFile
  deriving DecidableEq

def newestFor (card : SoundCard) (found : List FoundFirmware) : Except ToolError Path :=
  match Firmware.latest? found card.usbId.pid with
  | none => .error (.noFirmware card.product)
  | some latest =>
    match card.appVersion with
    | some running =>
      if running.compare latest.header.version = .lt then .ok latest.path
      else .error (.upToDate running card.product)
    | none => .ok latest.path

/-- The firmware to upload, read in full. It must be for the product of the card. -/
def selectFirmware (t : FileTree) (card : SoundCard) (file : Option Path)
    (found : List FoundFirmware) : Except ToolError SelectedFirmware := do
  let path ← match file with
    | some path =>
      match Firmware.readHeader t path with
      | .ok _ => .ok path
      | .error e => .error (.unreadable path e)
    | none => newestFor card found
  match Firmware.read t path with
  | .error e => .error (.unloadable e)
  | .ok f =>
    if f.pid = card.usbId.pid then .ok ⟨path, f⟩
    else .error (.differentDevice f.pid card.usbId.pid)

def SoundCard.announcement (c : SoundCard) : String :=
  s!"Selected device {c.product} ({c.serialOrUnknown})\n"

def SelectedFirmware.announcement (s : SelectedFirmware) (product : String) : String :=
  s!"Found firmware version {s.file.version.render} for {product}\n  {s.path.display}\n"

/-- The kinds of sections to upload, in the order of the file. The coprocessor is left out if it
runs the version of the file, and the loader unless the coprocessor is updated and the loader is
not running already. -/
def updatePlan (f : FirmwareFile) (app esp : Option Version) : List FirmwareKind :=
  let needEsp := (f.section? .esp).any fun s => esp ≠ some s.version
  let needLeapfrog := needEsp && (f.section? .leapfrog).any fun s => app ≠ some s.version
  (f.sections.map (·.kind)).filter fun
    | .esp => needEsp
    | .leapfrog => needLeapfrog
    | _ => true

end CardFirmware
