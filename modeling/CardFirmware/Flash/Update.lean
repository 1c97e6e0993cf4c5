import CardFirmware.Control.Payload
import CardFirmware.Device.Client
import CardFirmware.Device.Progress
import CardFirmware.Digest.Sha256

/-! Erasing and writing segments, and the update of the application firmware. Nothing is written
before the length, the digest and the device of an image have been checked. -/

namespace CardFirmware

/-- How long an erase may take, in polls: so many may find it unfinished. -/
structure FlashTimings where
  erasePolls : Nat
  deriving DecidableEq

def FlashTimings.ofMillis (timeout : Nat) : FlashTimings := ⟨timeout * 256⟩

def FlashTimings.standard : FlashTimings := .ofMillis 60000

def appFirmwareMin : Nat := 65536

namespace Segment

/-- The first segment of a device may not be erased, nor one that an erase cannot count through. -/
def IsErasable (s : Segment) : Prop :=
  1 ≤ s.index.toNat ∧ s.index.toNat ≤ segmentCountMax ∧
    1 ≤ s.eraseBlocks ∧ s.eraseBlocks ≤ eraseBlocksMax

instance (s : Segment) : Decidable s.IsErasable := by
  unfold IsErasable; infer_instance

end Segment

namespace Flash

def awaitErase (segment : Segment) : Nat → Progress → Procedure DriverError Progress
  | 0, p => do
    let raw ← (Device.eraseProgress segment.index).orFail .read
    if raw = eraseDone then return p else throw (.eraseTimeout segment.index)
  | n + 1, p => do
    let raw ← (Device.eraseProgress segment.index).orFail .read
    if raw = eraseDone then return p
    else do
      let p ← p.ratio raw.toNat segment.eraseBlocks
      Procedure.tick
      awaitErase segment n p

def erase (segment : Segment) (timings : FlashTimings) : Procedure DriverError Unit :=
  if segment.IsErasable then do
    (Device.flashErase (UInt8.ofNat segment.index.toNat)).orFail .write
    let p ← awaitErase segment timings.erasePolls {}
    let _ ← p.finish
  else throw (.invalidEraseTarget segment.index segment.eraseBlocks)

def writeChunks (segment : Segment) (total : Nat) :
    Nat → Progress → List Bytes → Procedure DriverError Progress
  | _, p, [] => return p
  | offset, p, chunk :: chunks => do
    (Device.flashWrite segment.index (UInt32.ofNat offset) chunk).orFail .write
    let p ← p.ratio (offset + chunk.length) total
    Procedure.tick
    writeChunks segment total (offset + chunk.length) p chunks

def write (segment : Segment) (data : Bytes) : Procedure DriverError Unit := do
  let p ← writeChunks segment data.length 0 {} (data.chunksOf flashWriteMax)
  let _ ← p.finish

end Flash

namespace FirmwarePayload

def hasDigest (p : FirmwarePayload) : Bool := Sha256.hash p.data = p.sha256

def checkUsbId (p : FirmwarePayload) (id : UsbId) : Except DriverError Unit :=
  if p.vid = id.vid ∧ p.pid = id.pid then .ok ()
  else .error (.invalidUsbId id ⟨p.vid, p.pid⟩)

def checkApp (p : FirmwarePayload) (upgrade : Segment) (id : UsbId) : Except DriverError Unit :=
  if appFirmwareMin ≤ p.data.length ∧ p.data.length ≤ upgrade.size.toNat then
    if p.hasDigest then p.checkUsbId id else .error .invalidHash
  else .error (.invalidLength p.data.length appFirmwareMin upgrade.size.toNat)

end FirmwarePayload

namespace Flash

def updateApp (directory : FlashDirectory) (p : FirmwarePayload) (id : UsbId) :
    Procedure DriverError Unit := do
  Procedure.ofExcept (p.checkApp directory.upgrade id)
  write directory.upgrade p.data

end Flash

end CardFirmware
