import CardFirmware.Device.Command
import CardFirmware.Text.Utf8

/-! What the responses of a device mean. Every response has a fixed length, which is checked
before its fields are read. -/

namespace CardFirmware

namespace Bytes

def byteAt (b : Bytes) (i : Nat) : UInt8 := b.getD i 0

def le16At (b : Bytes) (i : Nat) : UInt16 :=
  UInt16.ofNat ((b.byteAt i).toNat + 256 * (b.byteAt (i + 1)).toNat)

def le32At (b : Bytes) (i : Nat) : UInt32 :=
  UInt32.ofNat ((b.byteAt i).toNat + 256 * (b.byteAt (i + 1)).toNat
    + 65536 * (b.byteAt (i + 2)).toNat + 16777216 * (b.byteAt (i + 3)).toNat)

end Bytes

def expectLength (b : Bytes) (expected : Nat) : Except WireError Unit :=
  if b.length = expected then .ok () else .error (.length expected b.length)

def readArray {α : Type} (read : Bytes → Option (α × Bytes)) : Nat → Bytes → List α
  | 0, _ => []
  | fuel + 1, b =>
    match read b with
    | some (v, rest) => v :: readArray read fuel rest
    | none => []

namespace Reply

structure FlashInfo where
  size : UInt32
  count : UInt32
  deriving DecidableEq

structure SegmentInfo where
  size : UInt32
  flags : UInt32
  name : String
  deriving DecidableEq

structure MixInfo where
  outputs : UInt8
  inputs : UInt8
  deriving DecidableEq

def flashInfo (b : Bytes) : Except WireError FlashInfo := do
  expectLength b 16
  let size := b.le32At 0
  let count := b.le32At 4
  Command.checkSize .flashSize flashSizeMax size.toNat
  Command.checkSize .flashSegmentCount flashCountMax count.toNat
  return ⟨size, count⟩

/-- The name field has fifteen bytes and ends at the first zero. -/
def segmentName (b : Bytes) : Bytes := ((b.drop 8).take 15).takeWhile (· != 0)

def segmentInfo (b : Bytes) : Except WireError SegmentInfo := do
  expectLength b 24
  let size := b.le32At 0
  Command.checkSize .segmentSize flashSizeMax size.toNat
  return ⟨size, b.le32At 4, Text.Utf8.decodeLossy (segmentName b)⟩

def mixInfo (b : Bytes) : Except WireError MixInfo := do
  expectLength b 8
  return ⟨b.byteAt 0, b.byteAt 1⟩

def muxInfo (b : Bytes) : Except WireError (UInt16 × UInt16 × UInt16) := do
  expectLength b 12
  return (b.le16At 0, b.le16At 2, b.le16At 4)

def meterInfo (b : Bytes) : Except WireError UInt8 := do
  expectLength b 4
  return b.byteAt 0

/-- Bytes short of a whole element are ignored. -/
def words16 (b : Bytes) : List UInt16 := readArray Bytes.readLe16 b.length b

def words32 (b : Bytes) : List UInt32 := readArray Bytes.readLe32 b.length b

def byte (b : Bytes) : Except WireError UInt8 := do
  expectLength b 1
  return b.byteAt 0

def sync (b : Bytes) : Except WireError Bool := do
  expectLength b 4
  return b.le32At 0 != 0

def devmapSize (b : Bytes) : Except WireError UInt16 := do
  expectLength b 4
  return b.le16At 2

/-- One or two bytes are extended by their sign if asked for; four bytes are always signed. -/
def data (b : Bytes) (width : Width) (signed : Bool) : Except WireError Int32 := do
  expectLength b width.bytes
  return match width, signed with
    | .one, false => (b.byteAt 0).toUInt32.toInt32
    | .one, true => (b.byteAt 0).toInt8.toInt32
    | .two, false => (b.le16At 0).toUInt32.toInt32
    | .two, true => (b.le16At 0).toInt16.toInt32
    | .four, _ => (b.le32At 0).toInt32

end Reply

end CardFirmware
