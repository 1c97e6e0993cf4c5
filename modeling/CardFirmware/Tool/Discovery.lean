import CardFirmware.Control.Status
import CardFirmware.Device.Error
import CardFirmware.Files.Tree

/-! Sound cards as the system shows them: the list of cards, the USB numbers of each, the serial
number of the device behind it, and the record of the service that runs for it. -/

namespace CardFirmware

def vendorId : UInt16 := 0x1235

structure Product where
  pid : UInt16
  name : String
  deriving DecidableEq

def supportedProducts : List Product := [
  ⟨0x821b, "Scarlett 4th Gen 16i16"⟩,
  ⟨0x821c, "Scarlett 4th Gen 18i16"⟩,
  ⟨0x821d, "Scarlett 4th Gen 18i20"⟩]

def supportedProduct? (pid : UInt16) : Option Product := supportedProducts.find? (·.pid = pid)

def productOrder : List UInt16 := supportedProducts.map (·.pid)

namespace CardFiles

def directory (root : Path) (card : UInt32) : Path := root.join s!"card{card.toNat}"

def usbIdFile (root : Path) (card : UInt32) : Path := (directory root card).join "usbid"

def usbBusFile (root : Path) (card : UInt32) : Path := (directory root card).join "usbbus"

def parsed {α : Type} (t : FileTree) (path : Path) (parse : String → Option α) :
    Except IoError α := do
  let text ← t.readText path
  match parse text with
  | some v => return v
  | none => throw (.unparsable (Text.trim text) path)

def usbId (t : FileTree) (root : Path) (card : UInt32) : Except IoError UsbId :=
  parsed t (usbIdFile root card) UsbId.ofText?

def busNumbers? (text : String) : Option (UInt32 × UInt32) := do
  let (bus, device) ← Text.splitOnce? '/' (Text.trim text)
  some (← Text.Numeral.u32? bus, ← Text.Numeral.u32? device)

def usbBus (t : FileTree) (root : Path) (card : UInt32) : Except IoError (UInt32 × UInt32) :=
  parsed t (usbBusFile root card) busNumbers?

/-- The number in the name of a card's directory, which must be a text. -/
def cardNumber? (name : Path) : Option UInt32 := do
  match (← name.text?).toList with
  | 'c' :: 'a' :: 'r' :: 'd' :: rest => Text.Numeral.u32? (String.ofList rest)
  | _ => none

def cards (t : FileTree) (root : Path) : Except IoError (List UInt32) := do
  let children ← t.list root
  return (children.filterMap fun (name, _) => cardNumber? name).mergeSort fun a b => decide (a ≤ b)

end CardFiles

structure SoundCard where
  card : UInt32
  usbId : UsbId
  product : String
  serial : Option String
  status : Option ServiceStatus
  deriving DecidableEq

namespace SoundCard

def appVersion (c : SoundCard) : Option Version := c.status.bind (·.appVersion)

def espVersion (c : SoundCard) : Option Version := c.status.bind (·.espVersion)

def socketPath (c : SoundCard) : Option String := c.status.map (·.socketPath)

def serialOrUnknown (c : SoundCard) : String := c.serial.getD "unknown"

end SoundCard

structure Discovery where
  cardRoot : Path := "/proc/asound"
  usbRoot : Path := "/sys/bus/usb/devices"
  socketDirectories : List Path
  deriving DecidableEq

namespace Discovery

def deviceNumber? (t : FileTree) (path : Path) : Option UInt32 := do
  Text.Numeral.u32? (Text.trim (← (t.readText (path.join "devnum")).toOption))

def portMark (bus : UInt32) : List Char := (toString bus.toNat).toList ++ ['-']

def isMarked (mark : List Char) (name : Path) : Bool :=
  name.text?.any fun text => mark.isPrefixOf text.toList

def branches (t : FileTree) (mark : List Char) (path : Path) : List Path :=
  match t.names path with
  | .ok names => (names.filter fun name => isMarked mark name ∧ t.isDirectory (path.join name)).map
      path.join
  | .error _ => []

def findPort (t : FileTree) (mark : List Char) (device : UInt32) : Nat → Path → Option Path
  | 0, _ => none
  | levels + 1, path =>
    if deviceNumber? t path = some device then some path
    else (branches t mark path).findSome? (findPort t mark device levels)

/-- Further down than this every path is too long. -/
def levelMax : Nat := FileTree.pathMax + 1

variable (d : Discovery) (t : FileTree)

/-- The serial number of the device behind a card: the first word of the file next to its number. -/
def serial (card : UInt32) : Option String := do
  let (bus, device) ← (CardFiles.usbBus t d.cardRoot card).toOption
  let port ← findPort t (portMark bus) device levelMax (d.usbRoot.join s!"usb{bus.toNat}")
  let text ← (t.readText (port.join "serial")).toOption
  Text.firstWord? text

def status (card : UInt32) : Option ServiceStatus :=
  d.socketDirectories.findSome? fun directory => do
    let b ← (t.readBytes (directory.join (ServiceStatus.fileName card))).toOption
    (ServiceStatus.ofBytes? b).filter (·.card = card)

def probe (card : UInt32) : Option SoundCard := do
  let id ← (CardFiles.usbId t d.cardRoot card).toOption
  if id.vid = vendorId then
    let product ← supportedProduct? id.pid
    some ⟨card, id, product.name, d.serial t card, d.status t card⟩
  else none

def enumerate : List SoundCard :=
  match CardFiles.cards t d.cardRoot with
  | .ok cards => cards.filterMap (d.probe t)
  | .error _ => []

def findSerial (serial : String) : Option SoundCard :=
  (d.enumerate t).find? (·.serial = some serial)

end Discovery

end CardFirmware
