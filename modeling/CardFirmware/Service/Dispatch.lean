import CardFirmware.Control.Frame
import CardFirmware.Esp.Update
import CardFirmware.Flash.Directory

/-! What a service does with a request. The flash directory is read when a request first needs it
and kept from then on; nothing else outlives a request. -/

namespace CardFirmware

inductive RequestError where
  | wire (cause : WireError)
  | driver (cause : DriverError)
  deriving DecidableEq

namespace RequestError

def message : RequestError → String
  | wire cause => cause.message
  | driver cause => cause.message

def code : RequestError → ErrorCode
  | wire cause => cause.code
  | driver cause => cause.code

end RequestError

structure ServiceContext where
  usbId : UsbId
  firmwareBuild : UInt32
  directory : Option FlashDirectory := none
  espConfig : Option EspConfig := none
  flashTimings : FlashTimings := .standard
  dfuTimings : DfuTimings := .standard
  deriving DecidableEq

namespace ServiceContext

def findDirectory (ctx : ServiceContext) : Procedure DirectoryError FlashDirectory :=
  match ctx.directory with
  | some directory => return directory
  | none => FlashDirectory.discover

/-- Runs the rest of a request with the directory, which is kept whatever comes of it. -/
def withDirectory (ctx : ServiceContext)
    (body : FlashDirectory → Procedure RequestError Unit) :
    Dialogue (Except RequestError Unit × ServiceContext) := do
  match ← ctx.findDirectory.outcome with
  | .error e => return (.error (.driver (.directory e)), ctx)
  | .ok directory => return (← (body directory).outcome, { ctx with directory := some directory })

def withoutDirectory (ctx : ServiceContext) (body : Procedure RequestError Unit) :
    Dialogue (Except RequestError Unit × ServiceContext) := do
  return (← body.outcome, ctx)

def perform (ctx : ServiceContext) (payload : Bytes) :
    RequestType → Dialogue (Except RequestError Unit × ServiceContext)
  | .reboot => ctx.withoutDirectory (Device.reboot.orFail (.driver ∘ .write))
  | .configErase => ctx.withDirectory fun directory =>
    (Flash.erase directory.settings ctx.flashTimings).orFail .driver
  | .appErase => ctx.withDirectory fun directory =>
    (Flash.erase directory.upgrade ctx.flashTimings).orFail .driver
  | .appUpdate => ctx.withDirectory fun directory => do
    let p ← Procedure.ofExcept ((FirmwarePayload.decode payload).mapError .wire)
    (Flash.updateApp directory p ctx.usbId).orFail .driver
  | .espUpdate => ctx.withoutDirectory do
    let p ← Procedure.ofExcept ((FirmwarePayload.decode payload).mapError .wire)
    (Esp.update ctx.espConfig ctx.usbId p ctx.dfuTimings).orFail .driver

def dispatch (ctx : ServiceContext) (request : Request) :
    Dialogue (Except RequestError RequestType × ServiceContext) :=
  match request.requestType with
  | .error e => return (.error (.wire e), ctx)
  | .ok type => do
    let (result, ctx) ← ctx.perform request.payload type
    return (result.map fun () => type, ctx)

end ServiceContext

end CardFirmware
