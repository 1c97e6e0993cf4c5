import CardFirmware.Device.Dialogue
import CardFirmware.Device.Reply

/-! One procedure for each command of a device. Arguments are checked before the device is called,
and a response is decoded only if it has the length that the command declares. -/

namespace CardFirmware.Device

abbrev Query (α : Type) := Procedure TransportError α

def decoded {α : Type} (r : Except WireError α) : Query α :=
  Procedure.ofExcept (r.mapError .wire)

def checkedReply (c : Command) : Except TransportError Bytes → Except TransportError Bytes
  | .error e => .error e
  | .ok reply =>
    if reply.length = c.responseLength then .ok reply
    else .error (.responseLength c.name c.responseLength reply.length)

def send (c : Command) : Query Bytes :=
  match c.validate with
  | .error e => throw (.wire e)
  | .ok () => ExceptT.mk (.send c fun reply => .done (checkedReply c reply))

def command (c : Command) : Query Unit := do
  let _ ← send c

def readNotification : Query (Option UInt32) := ExceptT.mk (.listen .done)

def hasCapability (category : UInt16) : Query Bool := do
  let b ← decoded (Reply.byte (← send (.capRead category)))
  return b != 0

def reboot : Query Unit := command .reboot

def meterInfo : Query UInt8 := do decoded (Reply.meterInfo (← send .meterInfo))

def meterRead (count : UInt16) : Query (List UInt32) := do
  return Reply.words32 (← send (.meterRead count))

def mixInfo : Query Reply.MixInfo := do decoded (Reply.mixInfo (← send .mixInfo))

def mixRead (mix count : UInt16) : Query (List UInt16) := do
  return Reply.words16 (← send (.mixRead mix count))

def mixWrite (mix : UInt16) (values : List UInt16) : Query Unit := command (.mixWrite mix values)

def muxInfo : Query (UInt16 × UInt16 × UInt16) := do decoded (Reply.muxInfo (← send .muxInfo))

def muxRead (mux count : UInt8) : Query (List UInt32) := do
  return Reply.words32 (← send (.muxRead mux count))

def muxWrite (mux : UInt16) (values : List UInt32) : Query Unit := command (.muxWrite mux values)

def flashInfo : Query Reply.FlashInfo := do decoded (Reply.flashInfo (← send .flashInfo))

def segmentInfo (segment : UInt32) : Query Reply.SegmentInfo := do
  decoded (Reply.segmentInfo (← send (.flashSegmentInfo segment)))

def flashErase (segment : UInt8) : Query Unit := command (.flashErase segment)

def eraseProgress (segment : UInt32) : Query UInt8 := do
  decoded (Reply.byte (← send (.flashEraseProgress segment)))

def flashWrite (segment offset : UInt32) (data : Bytes) : Query Unit :=
  command (.flashWrite segment offset data)

def syncLocked : Query Bool := do decoded (Reply.sync (← send .syncRead))

def espDfuStart (length : UInt32) (md5 : Octets 16) : Query Unit :=
  command (.espDfuStart length md5)

def espDfuWrite (data : Bytes) : Query Unit := command (.espDfuWrite data)

def dataRead (offset : UInt32) (width : Width) (signed : Bool) : Query Int32 := do
  decoded (Reply.data (← send (.dataRead offset width)) width signed)

def dataWrite (offset : UInt32) (width : Width) (value : Int32) : Query Unit :=
  command (.dataWrite offset width value)

def dataNotify (event : UInt32) : Query Unit := command (.dataNotify event)

def devmapBlocks (size : Nat) : Nat → Nat → Query Bytes
  | 0, _ => return []
  | n + 1, block => do
    let length := min devmapBlockSize (size - devmapBlockSize * block)
    let chunk ← send (.devmapRead (UInt32.ofNat block) length)
    let rest ← devmapBlocks size n (block + 1)
    return chunk ++ rest

def devmap : Query Bytes := do
  let size ← decoded (Reply.devmapSize (← send .devmapInfo))
  let blocks := (size.toNat + devmapBlockSize - 1) / devmapBlockSize
  devmapBlocks size.toNat blocks 0

end CardFirmware.Device
