import CardFirmware.Bytes
import CardFirmware.Control.Payload
import CardFirmware.Wire

/-! Messages between a service and its clients: a six-byte header (a mark, a type and the length of
the payload) and the payload. -/

namespace CardFirmware

def requestMagic : UInt8 := 0x53

def responseMagic : UInt8 := 0x73

def headerLength : Nat := 6

/-- An image of 16 MiB with the header of its payload. -/
def maxPayloadLength : UInt32 := 16 * 1024 * 1024 + 56

def maxResponseLength : UInt32 := 2

structure Header where
  magic : UInt8
  type : UInt8
  payloadLength : UInt32
  deriving DecidableEq

namespace Header

def encode (h : Header) : Bytes := h.magic :: h.type :: Bytes.le32 h.payloadLength

def read : Bytes → Option (Header × Bytes)
  | magic :: type :: rest =>
    (Bytes.readLe32 rest).map fun (length, rest) => (⟨magic, type, length⟩, rest)
  | _ => none

/-- Neither the mark nor the type is checked. -/
def decode (b : Bytes) : Except WireError Header :=
  match read b with
  | some (h, _) => .ok h
  | none => .error (.tooShort headerLength b.length)

theorem read_encode (h : Header) (rest : Bytes) : read (h.encode ++ rest) = some (h, rest) := by
  simp [encode, read, Bytes.readLe32_le32]

@[simp] theorem length_encode (h : Header) : h.encode.length = headerLength := by
  simp [encode, headerLength]

end Header

inductive RequestType where
  | reboot
  | configErase
  | appErase
  | appUpdate
  | espUpdate
  deriving DecidableEq

namespace RequestType

def all : List RequestType := [reboot, configErase, appErase, appUpdate, espUpdate]

def number : RequestType → UInt8
  | reboot => 1
  | configErase => 2
  | appErase => 3
  | appUpdate => 4
  | espUpdate => 5

def ofNumber? (n : UInt8) : Option RequestType := all.find? (·.number = n)

def name : RequestType → String
  | reboot => "Reboot"
  | configErase => "ConfigErase"
  | appErase => "AppFirmwareErase"
  | appUpdate => "AppFirmwareUpdate"
  | espUpdate => "EspFirmwareUpdate"

def message (t : RequestType) : Bytes := Header.encode ⟨requestMagic, t.number, 0⟩

def messageWith (t : RequestType) (p : FirmwarePayload) : Bytes :=
  Header.encode ⟨requestMagic, t.number, UInt32.ofNat p.encode.length⟩ ++ p.encode

end RequestType

/-- A request as received: its type is not yet known to be a valid one. -/
structure Request where
  type : UInt8
  payload : Bytes
  deriving DecidableEq

def Request.requestType (r : Request) : Except WireError RequestType :=
  match RequestType.ofNumber? r.type with
  | some t => .ok t
  | none => .error (.messageType r.type)

/-- What a service answers: any number of progress reports, then how the request ended. A number
that no error has is kept as received. -/
inductive Response where
  | success
  | error (code : ErrorCode)
  | unknownError (number : Int)
  | progress (percent : UInt8)
  deriving DecidableEq

namespace Response

def successType : UInt8 := 0x80

def errorType : UInt8 := 0x81

def progressType : UInt8 := 0x82

def encodeSuccess : Bytes := Header.encode ⟨responseMagic, successType, 0⟩

def encodeError (code : ErrorCode) : Bytes :=
  Header.encode ⟨responseMagic, errorType, 2⟩ ++ Bytes.le16 (UInt16.ofNat code.number)

/-- Percentages above 100 are sent as 100. -/
def encodeProgress (percent : Nat) : Bytes :=
  Header.encode ⟨responseMagic, progressType, 1⟩ ++ [UInt8.ofNat (min percent 100)]

def ofNumber (n : Int) : Response :=
  match ErrorCode.ofNumber? n with
  | some code => .error code
  | none => .unknownError n

/-- The payload of a success is ignored; the other types have payloads of fixed lengths. -/
def decode (h : Header) (payload : Bytes) : Except WireError Response :=
  if h.magic ≠ responseMagic then .error (.magic h.magic)
  else if h.type = successType then .ok .success
  else if h.type = errorType then
    match payload with
    | [a, b] => .ok (ofNumber (UInt16.ofNat (a.toNat + 256 * b.toNat)).toInt16.toInt)
    | _ => .error (.length 2 payload.length)
  else if h.type = progressType then
    match payload with
    | [p] => .ok (.progress p)
    | _ => .error (.length 1 payload.length)
  else .error (.messageType h.type)

end Response

end CardFirmware
