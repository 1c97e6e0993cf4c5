import CardFirmware.Bytes
import CardFirmware.Wire

/-! The payload of an update request: a header that states the size of the data, the device it is
meant for and its digests, then the data. -/

namespace CardFirmware

structure FirmwarePayload where
  vid : UInt16
  pid : UInt16
  sha256 : Octets 32
  md5 : Octets 16
  data : Bytes
  deriving DecidableEq

namespace FirmwarePayload

def headerLength : Nat := 56

open Bytes in
def encode (p : FirmwarePayload) : Bytes :=
  le32 (UInt32.ofNat p.data.length) ++ le16 p.vid ++ le16 p.pid ++ p.sha256.bytes ++ p.md5.bytes
    ++ p.data

def readHeader (b : Bytes) : Option (UInt32 × FirmwarePayload) := do
  let (size, b) ← Bytes.readLe32 b
  let (vid, b) ← Bytes.readLe16 b
  let (pid, b) ← Bytes.readLe16 b
  let (sha256, b) ← Octets.split 32 b
  let (md5, data) ← Octets.split 16 b
  some (size, ⟨vid, pid, sha256, md5, data⟩)

/-- The stated size must be that of the data. -/
def decode (b : Bytes) : Except WireError FirmwarePayload :=
  match readHeader b with
  | none => .error (.tooShort headerLength b.length)
  | some (size, p) =>
    if size.toNat = p.data.length then .ok p
    else .error (.length size.toNat p.data.length)

end FirmwarePayload

end CardFirmware
