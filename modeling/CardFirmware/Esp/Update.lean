import CardFirmware.Esp.Config
import CardFirmware.Flash.Update

/-! The update of the coprocessor. It is switched off, told to expect an image, fed block by block
as it asks for them, and started again once it has reported the end. Every wait is bounded. -/

namespace CardFirmware

structure DfuTimings where
  notificationReads : Nat
  stateAttempts : Nat
  notifyAttempts : Nat
  deriving DecidableEq

/-- A read takes at least the 256th part of a millisecond. -/
def DfuTimings.ofMillis (timeout stateAttempts notifyAttempts : Nat) : DfuTimings :=
  ⟨timeout * 256, stateAttempts, notifyAttempts⟩

def DfuTimings.standard : DfuTimings := .ofMillis 10000 5 5

def espBlockSize : Nat := 1024

namespace Esp

variable (config : EspConfig)

def state : Procedure DfuError UInt8 := do
  let v ← (Device.dataRead config.stateOffset .one false).orFail .fcp
  return v.toUInt32.toUInt8

def setBootMode (mode : UInt8) : Procedure DfuError Unit := do
  (Device.dataWrite config.bootModeOffset .one mode.toUInt32.toInt32).orFail .fcp
  (Device.dataNotify config.bootModeEvent).orFail .fcp

def awaitChange (awaited : String) : Nat → Procedure DfuError Unit
  | 0 => throw (.timeout awaited)
  | n + 1 => do
    match ← Device.readNotification.orFail .fcp with
    | none => throw (.timeout awaited)
    | some bits => if bits &&& config.changeMask ≠ 0 then return () else awaitChange awaited n

def awaitState (expected : UInt8) : Nat → UInt8 → Procedure DfuError Unit
  | 0, actual => throw (.invalidState expected actual)
  | n + 1, _ => do
    let actual ← state config
    if actual = expected then return () else awaitState expected n actual

/-- Waits for a notification code, which is cleared after each look at it. -/
def awaitNotify (reads : Nat) (expected : UInt8) (awaited : String) :
    Nat → Procedure DfuError Unit
  | 0 => throw (.timeout awaited)
  | n + 1 => do
    awaitChange config awaited reads
    let v ← (Device.dataRead config.notifyOffset .one false).orFail .fcp
    (Device.dataWrite config.notifyOffset .one
      config.notifications.clear.toUInt32.toInt32).orFail .fcp
    if v.toUInt32.toUInt8 = expected then return () else awaitNotify reads expected awaited n

variable (timings : DfuTimings)

def setState (target : UInt8) : Procedure DfuError Unit := do
  setBootMode config target
  awaitChange config "ESP state change" timings.notificationReads
  awaitState config target timings.stateAttempts 0

def sendBlocks (total : Nat) : Nat → Progress → List Bytes → Procedure DfuError Progress
  | _, p, [] => return p
  | offset, p, block :: blocks => do
    (Device.espDfuWrite block).orFail .write
    awaitNotify config timings.notificationReads config.notifications.nextBlock
      "next block request" timings.notifyAttempts
    let p ← p.ratio (offset + block.length) total
    Procedure.tick
    sendBlocks total (offset + block.length) p blocks

def transfer (data : Bytes) (md5 : Octets 16) (p : Progress) : Procedure DfuError Progress := do
  let current ← state config
  if current = 0 then throw .notLeapfrog
  if current = config.states.normal then setState config timings config.states.off
  else if current ≠ config.states.off then
    throw (.invalidState config.states.off current)
  (Device.espDfuStart (UInt32.ofNat data.length) md5).orFail .fcp
  awaitChange config "ESP DFU start" timings.notificationReads
  awaitState config config.states.dfu timings.stateAttempts 0
  awaitNotify config timings.notificationReads config.notifications.nextBlock
    "first block request" timings.notifyAttempts
  let p ← sendBlocks config timings data.length 0 p (data.chunksOf espBlockSize)
  (Device.espDfuWrite []).orFail .write
  awaitNotify config timings.notificationReads config.notifications.finish "DFU finish"
    timings.notifyAttempts
  setState config timings config.states.off
  setState config timings config.states.normal
  return p

def update (config : Option EspConfig) (id : UsbId) (payload : FirmwarePayload)
    (timings : DfuTimings) : Procedure DriverError Unit :=
  match config with
  | none => throw (.dfu (.config .noDevmap))
  | some config => do
    Procedure.ofExcept (payload.checkUsbId id)
    if payload.hasDigest then
      let p ← Progress.update {} 0
      let p ← (transfer config timings payload.data payload.md5 p).orFail .dfu
      let _ ← p.finish
    else throw .invalidHash

end Esp

end CardFirmware
