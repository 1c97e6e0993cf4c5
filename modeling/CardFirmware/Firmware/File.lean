import CardFirmware.Digest.Md5
import CardFirmware.Digest.Sha256
import CardFirmware.Files.Error
import CardFirmware.Text.Utf8
import CardFirmware.Version

/-! Firmware files. A file is a box of up to three sections or a single bare section; a section is
an image with its kind, the device it is meant for, its version and its digest. All numbers are
big-endian. -/

namespace CardFirmware

inductive FirmwareKind where
  | container
  | app
  | esp
  | leapfrog
  deriving DecidableEq

namespace FirmwareKind

def all : List FirmwareKind := [container, app, esp, leapfrog]

def magic : FirmwareKind → Bytes
  | container => [0x53, 0x43, 0x41, 0x52, 0x4C, 0x42, 0x4F, 0x58]
  | app => [0x53, 0x43, 0x41, 0x52, 0x4C, 0x45, 0x54, 0x34]
  | esp => [0x53, 0x43, 0x41, 0x52, 0x4C, 0x45, 0x53, 0x50]
  | leapfrog => [0x53, 0x43, 0x41, 0x52, 0x4C, 0x45, 0x41, 0x50]

def ofMagic? (b : Bytes) : Option FirmwareKind := all.find? (·.magic = b)

def name : FirmwareKind → String
  | container => "container"
  | app => "App"
  | esp => "ESP"
  | leapfrog => "Leapfrog"

def ofName? (s : String) : Option FirmwareKind := all.find? (·.name = s)

end FirmwareKind

inductive FirmwareError where
  | io (cause : IoError)
  | truncated (expected actual : Nat)
  | corrupt (index : Nat)
  | sectionCount (count : UInt32)
  | invalidKind (index : Nat) (magic : String)
  deriving DecidableEq

def FirmwareError.message : FirmwareError → String
  | io cause => s!"IO error: {cause.message}"
  | truncated expected actual =>
    s!"Truncated firmware file: need {expected} bytes, got {actual}"
  | corrupt index => s!"Corrupt firmware (failed checksum) in section {index}"
  | sectionCount count => s!"Invalid number of sections: {count.toNat}"
  | invalidKind index magic =>
    "Invalid firmware type " ++ Text.Quoted.quote magic ++ s!" in section {index}"

/-- An image with its header. The length and the digest are those of the header; of a section read
without its image the data is empty. Images of the coprocessor have an MD5 digest as well. -/
structure FirmwareSection where
  kind : FirmwareKind
  vid : UInt16
  pid : UInt16
  version : Version
  length : UInt32
  sha256 : Octets 32
  md5 : Option (Octets 16)
  data : Bytes
  deriving DecidableEq

namespace FirmwareSection

def md5For (kind : FirmwareKind) (data : Bytes) : Option (Octets 16) :=
  if kind = .esp then some (Md5.hash data) else none

def ofData (kind : FirmwareKind) (vid pid : UInt16) (version : Version) (data : Bytes) :
    FirmwareSection :=
  ⟨kind, vid, pid, version, UInt32.ofNat data.length, Sha256.hash data, md5For kind data, data⟩

def isIntact (s : FirmwareSection) : Bool := Sha256.hash s.data = s.sha256

def md5OrZero (s : FirmwareSection) : Octets 16 := s.md5.getD (Octets.zero 16)

end FirmwareSection

structure FirmwareFile where
  vid : UInt16
  pid : UInt16
  version : Version
  numSections : UInt32
  sections : List FirmwareSection
  deriving DecidableEq

namespace FirmwareFile

def maxSections : Nat := 3

def ofSections (vid pid : UInt16) (version : Version) (sections : List FirmwareSection) :
    FirmwareFile :=
  ⟨vid, pid, version, UInt32.ofNat sections.length, sections⟩

def section? (f : FirmwareFile) (kind : FirmwareKind) : Option FirmwareSection :=
  f.sections.find? (·.kind = kind)

end FirmwareFile

open Bytes (be16 be32)

def Version.encode (v : Version) : Bytes :=
  be32 v.major ++ be32 v.minor ++ be32 v.patch ++ be32 v.build

def FirmwareSection.encode (s : FirmwareSection) : Bytes :=
  s.kind.magic ++ be16 s.vid ++ be16 s.pid ++ s.version.encode ++ be32 s.length ++
    s.sha256.bytes ++ s.data

def FirmwareFile.encode (f : FirmwareFile) : Bytes :=
  FirmwareKind.container.magic ++ be16 f.vid ++ be16 f.pid ++ f.version.encode ++
    be32 (UInt32.ofNat f.sections.length) ++ f.sections.flatMap FirmwareSection.encode

namespace FirmwareFile

abbrev Reader (α : Type) := StateT Bytes (Except FirmwareError) α

variable (size : Nat)

def take (n : Nat) : Reader Bytes := fun rest =>
  if n ≤ rest.length then .ok (rest.take n, rest.drop n)
  else .error (.truncated (size - rest.length + n) size)

def octets (n : Nat) : Reader (Octets n) := fun rest =>
  match Octets.split n rest with
  | some r => .ok r
  | none => .error (.truncated (size - rest.length + n) size)

def word16 : Reader UInt16 := do
  match (← take size 2).reverse with
  | [a, b] => return UInt16.ofNat (a.toNat + 256 * b.toNat)
  | _ => return 0

def word32 : Reader UInt32 := do
  match (← take size 4).reverse with
  | [a, b, c, d] =>
    return UInt32.ofNat (a.toNat + 256 * b.toNat + 65536 * c.toNat + 16777216 * d.toNat)
  | _ => return 0

def versionField : Reader Version := do
  let major ← word32 size
  let minor ← word32 size
  let patch ← word32 size
  let build ← word32 size
  return ⟨major, minor, patch, build⟩

def sectionHeader (kind : FirmwareKind) : Reader FirmwareSection := do
  let vid ← word16 size
  let pid ← word16 size
  let version ← versionField size
  let length ← word32 size
  let sha256 ← octets size 32
  return ⟨kind, vid, pid, version, length, sha256, none, []⟩

def sectionBody (kind : FirmwareKind) (index : Nat) : Reader FirmwareSection := do
  let header ← sectionHeader size kind
  let data ← take size header.length.toNat
  if Sha256.hash data = header.sha256 then
    return { header with data, md5 := FirmwareSection.md5For kind data }
  else throw (.corrupt index)

def invalidKind (index : Nat) (magic : Bytes) : FirmwareError :=
  .invalidKind index (Text.Utf8.decodeLossy magic)

def sectionKind (index : Nat) : Reader FirmwareKind := do
  let magic ← take size 8
  match FirmwareKind.ofMagic? magic with
  | none | some .container => throw (invalidKind index magic)
  | some kind => return kind

def readSections : Nat → Nat → Reader (List FirmwareSection)
  | 0, _ => return []
  | n + 1, index => do
    let kind ← sectionKind size index
    let s ← sectionBody size kind index
    let rest ← readSections n (index + 1)
    return s :: rest

def ofSection (s : FirmwareSection) : FirmwareFile := ⟨s.vid, s.pid, s.version, 1, [s]⟩

def fileKind : Reader FirmwareKind := do
  let magic ← take size 8
  match FirmwareKind.ofMagic? magic with
  | none => throw (invalidKind 0 magic)
  | some kind => return kind

def boxHeader : Reader FirmwareFile := do
  let vid ← word16 size
  let pid ← word16 size
  let version ← versionField size
  let count ← word32 size
  return ⟨vid, pid, version, count, []⟩

def readFile : Reader FirmwareFile := do
  match ← fileKind size with
  | .container =>
    let box ← boxHeader size
    if 1 ≤ box.numSections.toNat ∧ box.numSections.toNat ≤ maxSections then
      let sections ← readSections size box.numSections.toNat 1
      return { box with sections }
    else throw (.sectionCount box.numSections)
  | kind => return ofSection (← sectionBody size kind 1)

def readHeader : Reader FirmwareFile := do
  match ← fileKind size with
  | .container => boxHeader size
  | kind => return ofSection (← sectionHeader size kind)

/-- A whole file; bytes after its last section are ignored. -/
def decode (b : Bytes) : Except FirmwareError FirmwareFile :=
  ((readFile b.length).run b).map (·.1)

/-- The header alone: no images, no digests, and any number of sections. -/
def decodeHeader (b : Bytes) : Except FirmwareError FirmwareFile :=
  ((readHeader b.length).run b).map (·.1)

def headerMax : Nat := 64

end FirmwareFile

end CardFirmware
