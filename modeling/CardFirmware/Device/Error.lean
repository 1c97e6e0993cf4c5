import CardFirmware.Files.Error
import CardFirmware.Flash.Segment
import CardFirmware.UsbId
import CardFirmware.Wire

/-! What can go wrong between a service and its device, from a single call up to a whole request.
Every failure of a request has one code under which the client hears of it. -/

namespace CardFirmware

structure ProtocolVersion where
  major : UInt8
  minor : UInt8
  subminor : UInt8
  deriving DecidableEq

def ProtocolVersion.render (v : ProtocolVersion) : String :=
  s!"{v.major.toNat}.{v.minor.toNat}.{v.subminor.toNat}"

inductive TransportError where
  | notSupportedDevice (path : Path)
  | legacyProtocol (version : ProtocolVersion)
  | unsupportedProtocol (version : ProtocolVersion)
  | io (call : String) (cause : IoError)
  | responseLength (command : String) (expected actual : Nat)
  | shortNotification (length : Nat)
  | wire (cause : WireError)
  deriving DecidableEq

def TransportError.message : TransportError → String
  | notSupportedDevice path => s!"Not an FCP device: {path.display} not found"
  | legacyProtocol version => s!"Protocol version {version.render} is the scarlett2 driver"
  | unsupportedProtocol version =>
    s!"Unsupported protocol version (2.0.x expected, got {version.render})"
  | io call cause => s!"{call} failed: {cause.message}"
  | responseLength command expected actual =>
    s!"{command}: expected {expected} response bytes, got {actual}"
  | shortNotification length => s!"Short notification read: {length} bytes"
  | wire cause => s!"Protocol error: {cause.message}"

namespace ProtocolVersion

/-- The bytes of a word; its highest one is ignored. -/
def ofWord (word : Int32) : ProtocolVersion :=
  let n := word.toUInt32.toNat
  ⟨UInt8.ofNat (n / 65536), UInt8.ofNat (n / 256), UInt8.ofNat n⟩

def check (v : ProtocolVersion) : Except TransportError Unit :=
  if v.major = 2 ∧ v.minor = 0 then .ok ()
  else if v.major = 1 then .error (.legacyProtocol v)
  else .error (.unsupportedProtocol v)

end ProtocolVersion

inductive DirectoryError where
  | transport (cause : TransportError)
  | segmentCount (count : UInt32)
  | missingSegment (role : SegmentRole)
  | reservedIndex (role : SegmentRole)
  deriving DecidableEq

namespace DirectoryError

def message : DirectoryError → String
  | transport cause => s!"Cannot read flash directory: {cause.message}"
  | segmentCount count => s!"Invalid segment count: {count.toNat} (expected 1-15)"
  | missingSegment role => s!"Required flash segment {role.segmentName} not found"
  | reservedIndex role => s!"Invalid segment number 0 for {role.segmentName}"

def code : DirectoryError → ErrorCode
  | transport _ => .read
  | segmentCount _ | missingSegment _ | reservedIndex _ => .config

end DirectoryError

inductive ConfigProblem where
  | noDevmap
  | missing (path : List String)
  | notInteger (path : List String)
  | outOfRange (name : String) (value : Int)
  deriving DecidableEq

def ConfigProblem.message : ConfigProblem → String
  | noDevmap => "no devmap available"
  | missing path => "devmap key " ++ ".".intercalate path ++ " not found"
  | notInteger path => "devmap key " ++ ".".intercalate path ++ " is not an integer"
  | outOfRange name value => s!"{name} value {value} out of range"

inductive DfuError where
  | config (problem : ConfigProblem)
  | notLeapfrog
  | invalidState (expected actual : UInt8)
  | timeout (awaited : String)
  | fcp (cause : TransportError)
  | write (cause : TransportError)
  deriving DecidableEq

namespace DfuError

def message : DfuError → String
  | config problem => s!"ESP DFU configuration unavailable: {problem.message}"
  | notLeapfrog => "ESP state (0) invalid (not running leapfrog firmware?)"
  | invalidState expected actual =>
    s!"ESP state invalid: expected {expected.toNat}, got {actual.toNat}"
  | timeout awaited => s!"Timeout waiting for {awaited}"
  | fcp cause => s!"ESP command failed: {cause.message}"
  | write cause => s!"ESP block write failed: {cause.message}"

def code : DfuError → ErrorCode
  | config _ => .config
  | notLeapfrog => .notLeapfrog
  | invalidState _ _ => .invalidState
  | timeout _ => .timeout
  | fcp _ => .fcp
  | write _ => .write

end DfuError

inductive DriverError where
  | read (cause : TransportError)
  | write (cause : TransportError)
  | directory (cause : DirectoryError)
  | dfu (cause : DfuError)
  | invalidEraseTarget (segment : UInt32) (blocks : Nat)
  | eraseTimeout (segment : UInt32)
  | invalidLength (size min max : Nat)
  | invalidHash
  | invalidUsbId (expected found : UsbId)
  deriving DecidableEq

namespace DriverError

def message : DriverError → String
  | read cause => s!"Device read failed: {cause.message}"
  | write cause => s!"Device write failed: {cause.message}"
  | directory cause => cause.message
  | dfu cause => cause.message
  | invalidEraseTarget segment blocks =>
    s!"Invalid erase target: segment {segment.toNat}, {blocks} blocks"
  | eraseTimeout segment => s!"Timeout waiting for erase of segment {segment.toNat}"
  | invalidLength size min max => s!"Invalid firmware length {size} (allowed {min}..={max})"
  | invalidHash => "Firmware sha256 mismatch"
  | invalidUsbId expected found => s!"Expected VID:PID {expected.render}, got {found.render}"

def code : DriverError → ErrorCode
  | read _ | invalidEraseTarget _ _ => .read
  | write _ => .write
  | directory cause => cause.code
  | dfu cause => cause.code
  | eraseTimeout _ => .timeout
  | invalidLength _ _ _ => .invalidLength
  | invalidHash => .invalidHash
  | invalidUsbId _ _ => .invalidUsbId

end DriverError

end CardFirmware
