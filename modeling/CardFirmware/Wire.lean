import CardFirmware.Text.Numeral

/-! Malformed messages, and the numbers under which a service reports failures to its clients. -/

namespace CardFirmware

/-- The failures that a client can be told about. -/
inductive ErrorCode where
  | read
  | write
  | invalidCommand
  | invalidMagic
  | invalidLength
  | invalidHash
  | invalidUsbId
  | invalidState
  | timeout
  | fcp
  | config
  | notLeapfrog
  deriving DecidableEq

namespace ErrorCode

def all : List ErrorCode :=
  [read, write, invalidCommand, invalidMagic, invalidLength, invalidHash, invalidUsbId,
    invalidState, timeout, fcp, config, notLeapfrog]

def number : ErrorCode → Nat
  | read => 1
  | write => 2
  | invalidCommand => 3
  | invalidMagic => 4
  | invalidLength => 5
  | invalidHash => 6
  | invalidUsbId => 7
  | invalidState => 8
  | timeout => 9
  | fcp => 10
  | config => 11
  | notLeapfrog => 12

def ofNumber? (n : Int) : Option ErrorCode := all.find? fun c => (c.number : Int) = n

def name : ErrorCode → String
  | read => "Read"
  | write => "Write"
  | invalidCommand => "InvalidCommand"
  | invalidMagic => "InvalidMagic"
  | invalidLength => "InvalidLength"
  | invalidHash => "InvalidHash"
  | invalidUsbId => "InvalidUsbId"
  | invalidState => "InvalidState"
  | timeout => "Timeout"
  | fcp => "Fcp"
  | config => "Config"
  | notLeapfrog => "NotLeapfrog"

def message : ErrorCode → String
  | read => "Error reading from device"
  | write => "Error writing to device"
  | invalidCommand => "Invalid command"
  | invalidMagic => "Invalid magic"
  | invalidLength => "Invalid length"
  | invalidHash => "Invalid hash"
  | invalidUsbId => "Firmware is for a different device (USB ID mismatch)"
  | invalidState => "Device is in an unexpected state"
  | timeout => "Timeout"
  | fcp => "Device command failed"
  | config => "Device configuration lookup failed"
  | notLeapfrog => "Device is not running the Leapfrog (loader) firmware"

end ErrorCode

inductive Quantity where
  | segmentNumber
  | flashWriteSize
  | espWriteSize
  | devmapBlockSize
  | flashSize
  | flashSegmentCount
  | segmentSize
  deriving DecidableEq

def Quantity.name : Quantity → String
  | segmentNumber => "segment number"
  | flashWriteSize => "flash write size"
  | espWriteSize => "esp dfu write size"
  | devmapBlockSize => "devmap block size"
  | flashSize => "flash size"
  | flashSegmentCount => "flash segment count"
  | segmentSize => "segment size"

/-- Why a message or the arguments of a command are refused. -/
inductive WireError where
  | length (expected actual : Nat)
  | tooShort (needed actual : Nat)
  | magic (found : UInt8)
  | messageType (found : UInt8)
  | payloadTooLarge (size max : UInt32)
  | outOfRange (quantity : Quantity) (value : Nat)
  deriving DecidableEq

namespace WireError

def message : WireError → String
  | .length expected actual =>
    s!"Invalid response length: expected {expected}, got {actual}"
  | .tooShort needed actual => s!"Message too short: need {needed} bytes, got {actual}"
  | .magic found => "Invalid magic: 0x" ++ Text.Numeral.upperHex 2 found.toNat
  | .messageType found => "Unknown message type: 0x" ++ Text.Numeral.upperHex 2 found.toNat
  | .payloadTooLarge size max =>
    s!"Payload too large: {size.toNat} bytes (max {max.toNat})"
  | .outOfRange quantity value => s!"Value out of range for {quantity.name}: {value}"

def code : WireError → ErrorCode
  | .magic _ => .invalidMagic
  | .messageType _ => .invalidCommand
  | .payloadTooLarge _ _ | .length _ _ | .tooShort _ _ | .outOfRange _ _ => .invalidLength

end WireError

end CardFirmware
