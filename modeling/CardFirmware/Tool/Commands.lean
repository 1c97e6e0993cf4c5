import CardFirmware.Tool.Host
import CardFirmware.Tool.Listing

/-! The commands of the tool. An installation is planned as a list of steps before the first one is
carried out. -/

namespace CardFirmware

inductive ToolCommand where
  | list
  | listAll
  | update
  | about
  | reboot
  | eraseConfig
  | eraseApp
  | upload (kind : FirmwareKind)
  deriving DecidableEq

inductive InstallStep where
  | erase
  | upload (s : FirmwareSection)
  | reboot
  deriving DecidableEq

/-- A section is written over an erased application, except that of the coprocessor. -/
def FirmwareSection.installSteps (s : FirmwareSection) : List InstallStep :=
  if s.kind = .esp then [.upload s] else [.erase, .upload s]

def updateSteps (f : FirmwareFile) (app esp : Option Version) : List InstallStep :=
  ((updatePlan f app esp).filterMap f.section?).flatMap fun s =>
    s.installSteps ++ if s.kind = .esp then [] else [.reboot]

structure Tool where
  discovery : Discovery
  firmwareDirectory : Path := Firmware.systemDirectory
  card : Option UInt32 := none
  firmware : Option Path := none
  deriving DecidableEq

namespace Tool

variable {σ : Type}

abbrev Action (σ α : Type) := ExceptT ToolError (StateM (Host σ)) α

def print (s : String) : Action σ Unit := modify fun h => { h with stdout := h.stdout ++ s }

def files : Action σ FileTree := do return (← get).files

def onHost {α : Type} (wrap : SessionError → ToolError)
    (step : Host σ → Except SessionError α × Host σ) : Action σ α := do
  let (result, h) := step (← get)
  set h
  match result with
  | .ok a => return a
  | .error e => throw (wrap e)

variable (t : Transport σ) (tool : Tool)

def cards : Action σ (List SoundCard) := do return tool.discovery.enumerate (← files)

def firmwares : Action σ (List FoundFirmware) := do
  let (found, remarks) := enumerateFirmwares (← files) tool.firmwareDirectory
  modify fun h => { h with stderr := h.stderr ++ remarks }
  return found

def chooseCard (cards : List SoundCard) : Action σ SoundCard := do
  let card ← (selectCard cards tool.card : Except ToolError SoundCard)
  print card.announcement
  return card

/-- The directory is searched only if no file is named. -/
def chooseFirmware (card : SoundCard) : Action σ SelectedFirmware := do
  let found ← match tool.firmware with
    | some _ => pure []
    | none => tool.firmwares
  let selected ← (selectFirmware (← files) card tool.firmware found :
    Except ToolError SelectedFirmware)
  print (selected.announcement card.product)
  return selected

def connectTo (card : SoundCard) : Action σ Session :=
  match card.socketPath with
  | none => throw (.notRunning card.card)
  | some path => onHost (.connect card.card) (Host.connect t path)

def openCard : Action σ (SoundCard × Session) := do
  let card ← tool.chooseCard (← tool.cards)
  return (card, ← connectTo t card)

def request (s : Session) (type : RequestType) (quiet : Bool) : Action σ Session :=
  onHost .session (Host.exchange t s type.message quiet)

def uploadSection (session : Session) (s : FirmwareSection) : Action σ Session :=
  match s.uploadMessage with
  | .error e => throw (.session e)
  | .ok message => onHost .session (Host.exchange t session message false)

def reappearWaits : Nat := 20

def reconnect? (serial : String) (h : Host σ) : Option ((SoundCard × Session) × Host σ) := do
  let card ← tool.discovery.findSerial h.files serial
  match h.connect t (← card.socketPath) with
  | (.ok session, h) => some ((card, session), h)
  | (.error _, _) => none

def findAgain (serial : String) (waits : Nat) : Action σ (Option (SoundCard × Session)) := do
  match tool.reconnect? t serial (← get), waits with
  | some (found, h), _ =>
    set h
    return some found
  | none, 0 => return none
  | none, n + 1 =>
    print "."
    findAgain serial n

def restart (card : SoundCard) (session : Session) : Action σ (SoundCard × Session) := do
  match card.serial with
  | none => throw .unknownSerial
  | some serial =>
    let session ← request t session .reboot true
    print "Rebooting"
    match session.stream.awaitEnd.1 with
    | .error e => throw (.notDisconnected e)
    | .ok () => pure ()
    modify (Host.disconnect t session)
    let again ← tool.findAgain t serial reappearWaits
    print "\n"
    match again with
    | some r => return r
    | none => throw (.notReappeared serial)

def perform : SoundCard × Session → InstallStep → Action σ (SoundCard × Session)
  | (card, session), .erase => do
    print "Erasing App firmware...\n"
    return (card, ← request t session .appErase false)
  | (card, session), .upload s => do
    print s!"Uploading {s.kind.name} firmware...\n"
    return (card, ← uploadSection t session s)
  | (card, session), .reboot => tool.restart t card session

def install (place : SoundCard × Session) (steps : List InstallStep) : Action σ Unit := do
  let _ ← steps.foldlM (tool.perform t) place

def upload (kind : FirmwareKind) : Action σ Unit := do
  let (card, session) ← tool.openCard t
  let selected ← tool.chooseFirmware card
  match selected.file.section? kind with
  | none => throw (.noSection kind)
  | some s => tool.install t (card, session) s.installSteps

def update : Action σ Unit := do
  let (card, session) ← tool.openCard t
  let selected ← tool.chooseFirmware card
  tool.install t (card, session) (updateSteps selected.file card.appVersion card.espVersion)

def simple (announcement : String) (type : RequestType) : Action σ Unit := do
  let (_, session) ← tool.openCard t
  print announcement
  let _ ← request t session type false

def list : Action σ Unit := do
  let cards ← tool.cards
  let found ← tool.firmwares
  if cards.isEmpty then throw .noDevices
  let plural := if cards.length = 1 then "" else "s"
  print s!"Found {cards.length} supported device{plural}\n\n"
  print (String.join (cards.map fun c => describeCard c found ++ "\n"))

def listAll : Action σ Unit := do
  let cards ← tool.cards
  let found ← tool.firmwares
  print (describeAll cards found tool.firmwareDirectory)

def run : ToolCommand → Action σ Unit
  | .list => tool.list
  | .listAll => tool.listAll
  | .update => tool.update t
  | .about => print aboutText
  | .reboot => tool.simple t "Rebooting..." .reboot
  | .eraseConfig => tool.simple t "Erasing configuration...\n" .configErase
  | .eraseApp => tool.simple t "Erasing App firmware...\n" .appErase
  | .upload kind => tool.upload t kind

end Tool

end CardFirmware
