import CardFirmware.Device.Error
import CardFirmware.Json.Value

/-! The registers and codes of the coprocessor, as a device map gives them. -/

namespace CardFirmware

structure EspStates where
  off : UInt8
  dfu : UInt8
  normal : UInt8
  deriving DecidableEq

structure DfuNotifications where
  clear : UInt8
  nextBlock : UInt8
  finish : UInt8
  error : UInt8
  deriving DecidableEq

/-- The state and notification registers lie in the space of the coprocessor, the boot mode
register in that of the application; `changeMask` marks the notifications that matter. -/
structure EspConfig where
  states : EspStates
  notifications : DfuNotifications
  stateOffset : UInt32
  bootModeOffset : UInt32
  notifyOffset : UInt32
  changeMask : UInt32
  bootModeEvent : UInt32
  deriving DecidableEq

/-- Why there is no configuration. A sum that 64 bits do not hold is no error of the device map: it
stops the program. -/
inductive ConfigFault where
  | problem (cause : ConfigProblem)
  | overflow
  deriving DecidableEq

namespace EspConfig

def integerAt (map : Json) (path : List String) : Except ConfigFault Int64 :=
  match map.path? path with
  | none => .error (.problem (.missing path))
  | some (.int i) =>
    if Int64.minValue.toInt ≤ i ∧ i ≤ Int64.maxValue.toInt then .ok (Int64.ofInt i)
    else .error (.problem (.notInteger path))
  | some _ => .error (.problem (.notInteger path))

def enumerator (map : Json) (family name : String) : Except ConfigFault UInt8 := do
  let v ← integerAt map ["enums", family, "enumerators", name]
  if 0 ≤ v.toInt ∧ v.toInt < UInt8.size then return UInt8.ofNat v.toInt.toNat
  else throw (.problem (.outOfRange (family ++ "." ++ name) v.toInt))

def word (name : String) (v : Int64) : Except ConfigFault UInt32 :=
  if 0 ≤ v.toInt ∧ v.toInt < UInt32.size then .ok (UInt32.ofNat v.toInt.toNat)
  else .error (.problem (.outOfRange name v.toInt))

def offset (base register : Int64) : Except ConfigFault Int64 :=
  let sum := base.toInt + register.toInt
  if Int64.minValue.toInt ≤ sum ∧ sum ≤ Int64.maxValue.toInt then .ok (base + register)
  else .error .overflow

def memberPath (space name field : String) : List String :=
  ["structs", space, "members", name, field]

/-- Looks everything up before anything but the codes is checked for its range. Each sum of offsets
is taken just before it is checked. -/
def ofDevmap (map : Json) : Except ConfigFault EspConfig := do
  let off ← enumerator map "eSuperState" "eSuperOff"
  let dfu ← enumerator map "eSuperState" "eSuperDFU"
  let normal ← enumerator map "eSuperState" "eSuperNormal"
  let clear ← enumerator map "eDFU_NOTIFICATION" "eClear"
  let nextBlock ← enumerator map "eDFU_NOTIFICATION" "eNextblock"
  let finish ← enumerator map "eDFU_NOTIFICATION" "eFinish"
  let error ← enumerator map "eDFU_NOTIFICATION" "eError"
  let change ← integerAt map
    ["enums", "eDEV_FCP_NOTIFY_MESSAGE_TYPE", "enumerators", "FCP_NOTIFY_DFU_CHANGE"]
  let base ← integerAt map (memberPath "APP_SPACE" "espSpace" "offset")
  let state ← integerAt map (memberPath "ESP_SPACE" "SuperState" "offset")
  let notify ← integerAt map (memberPath "ESP_SPACE" "DFU_NOTIFY" "offset")
  let bootMode ← integerAt map (memberPath "APP_SPACE" "ESPBootMode" "offset")
  let event ← integerAt map (memberPath "APP_SPACE" "ESPBootMode" "notify-device")
  let stateOffset ← word "SuperState" (← offset base state)
  let bootModeOffset ← word "ESPBootMode" bootMode
  let notifyOffset ← word "DFU_NOTIFY" (← offset base notify)
  let changeMask ← word "FCP_NOTIFY_DFU_CHANGE" change
  let bootModeEvent ← word "ESPBootMode.notify-device" event
  return {
    states := ⟨off, dfu, normal⟩
    notifications := ⟨clear, nextBlock, finish, error⟩
    stateOffset, bootModeOffset, notifyOffset, changeMask, bootModeEvent }

end EspConfig

end CardFirmware
