import CardFirmware.Device.Client
import CardFirmware.Encoding.Base64
import CardFirmware.Encoding.Zlib
import CardFirmware.Files.Tree
import CardFirmware.Json.Value

/-! Device maps: a file next to the program, or the copy that the device carries as compressed
text. -/

namespace CardFirmware

inductive DevmapError where
  | io (path : Path) (cause : IoError)
  | transport (cause : TransportError)
  | base64
  | inflate
  | json
  deriving DecidableEq

def DevmapError.message? : DevmapError → Option String
  | io path cause => some s!"Cannot read devmap file {path.display}: {cause.message}"
  | transport cause => some s!"Cannot read devmap from device: {cause.message}"
  | base64 | inflate | json => none

namespace Devmap

def fileName (pid : UInt16) : Path := "fcp-devmap-" ++ Text.Numeral.hex 4 pid.toNat ++ ".json"

/-- Line breaks and zeros may stand anywhere in the stored text. -/
def isFiller (b : UInt8) : Bool :=
  b == 0 || b == 9 || b == 10 || b == 12 || b == 13 || b == 32

def decode (stored : Bytes) : Except DevmapError Json := do
  let some compressed := Base64.decode (stored.filter (!isFiller ·)) | throw .base64
  let some text := Zlib.decompress compressed | throw .inflate
  let some map := Json.ofBytes? text | throw .json
  return map

/-- Reads a map from a file; a file that is not there is no failure. -/
def ofFile (t : FileTree) (path : Path) : Except DevmapError (Option Json) :=
  match t.readText path with
  | .error .notFound => .ok none
  | .error cause => .error (.io path cause)
  | .ok text =>
    match Json.ofString? text with
    | some map => .ok (some map)
    | none => .error .json

def ofDevice : Procedure DevmapError Json := do
  let stored ← Device.devmap.orFail .transport
  Procedure.ofExcept (decode stored)

def load (t : FileTree) (path : Option Path) (pid : UInt16) : Procedure DevmapError Json := do
  match ← Procedure.ofExcept (ofFile t (path.getD (fileName pid))) with
  | some map => return map
  | none => ofDevice

end Devmap

end CardFirmware
