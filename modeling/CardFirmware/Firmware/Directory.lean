import CardFirmware.Files.Tree
import CardFirmware.Firmware.File

/-! Directories of firmware files. -/

namespace CardFirmware

structure FoundFirmware where
  path : Path
  header : FirmwareFile
  deriving DecidableEq

namespace Firmware

def systemDirectory : Path := "/usr/lib/firmware/scarlett4"

def read (t : FileTree) (path : Path) : Except FirmwareError FirmwareFile :=
  match t.readBytes path with
  | .error cause => .error (.io cause)
  | .ok b => FirmwareFile.decode b

def readHeader (t : FileTree) (path : Path) : Except FirmwareError FirmwareFile :=
  match t.readBytes path with
  | .error cause => .error (.io cause)
  | .ok b => FirmwareFile.decodeHeader (b.take FirmwareFile.headerMax)

def isFirmwareName (name : Path) : Bool :=
  ending.isSuffixOf name.bytes && name.bytes ≠ ending
where
  ending : Bytes := Text.Utf8.encode ".bin"

def collect (t : FileTree) (vendor : UInt16) (found : List FoundFirmware) (path : Path) :
    List FoundFirmware :=
  match readHeader t path with
  | .error _ => found
  | .ok header =>
    if header.vid ≠ vendor ∨
        found.any fun f => f.header.pid = header.pid ∧ f.header.version = header.version then found
    else found ++ [⟨path, header⟩]

def scan (t : FileTree) (directory : Path) (vendor : UInt16) :
    Except FirmwareError (List FoundFirmware) :=
  match t.names directory with
  | .error cause => .error (.io cause)
  | .ok names =>
    let paths := (names.filter isFirmwareName).map (Path.join directory)
    .ok (paths.foldl (collect t vendor) [])

/-- The position of a product in an order; products that it lacks come last. -/
def rank (order : List UInt16) (pid : UInt16) : Nat := order.findIdx (· = pid)

def precedes (order : List UInt16) (a b : FoundFirmware) : Bool :=
  let i := rank order a.header.pid
  let j := rank order b.header.pid
  i < j || (i == j && b.header.version.compare a.header.version != .gt)

def sort (order : List UInt16) (found : List FoundFirmware) : List FoundFirmware :=
  found.mergeSort (precedes order)

def latest? (found : List FoundFirmware) (pid : UInt16) : Option FoundFirmware :=
  found.find? (·.header.pid = pid)

end Firmware

end CardFirmware
