import CardFirmware.Json.Printer
import CardFirmware.Version

/-! The record that a service publishes next to its socket, through which clients find it. -/

namespace CardFirmware

structure ServiceStatus where
  socketPath : String
  card : UInt32
  vid : UInt16
  pid : UInt16
  firmwareBuild : UInt32
  appVersion : Option Version := none
  espVersion : Option Version := none
  deriving DecidableEq

namespace ServiceStatus

def fileName (card : UInt32) : String := s!"fcp-{card.toNat}.json"

def socketName (card : UInt32) : String := s!"fcp-{card.toNat}.sock"

def lockName (card : UInt32) : String := s!"fcp-server-{card.toNat}.lock"

def versionMember (key : String) (v : Option Version) : List (String × Json) :=
  match v with
  | some v => [(key, .array (v.toList.map fun n => .int n.toNat))]
  | none => []

/-- Unknown versions have no member. -/
def toJson (s : ServiceStatus) : Json :=
  .object ([
    ("socket_path", .string s.socketPath), ("card", .int s.card.toNat),
    ("usb_vid", .int s.vid.toNat), ("usb_pid", .int s.pid.toNat),
    ("firmware_build", .int s.firmwareBuild.toNat)] ++
    versionMember "firmware_version" s.appVersion ++
    versionMember "esp_firmware_version" s.espVersion)

structure Draft where
  socketPath : Option String := none
  card : Option UInt32 := none
  vid : Option UInt16 := none
  pid : Option UInt16 := none
  firmwareBuild : Option UInt32 := none
  appVersion : Option (Option Version) := none
  espVersion : Option (Option Version) := none

open Json (Syntax Piece)

def unsignedOf (bound : Nat) : Syntax → Option Nat
  | .number n => match n.int? with
    | some (.ofNat m) => if m < bound then some m else none
    | _ => none
  | _ => none

def word16Of (x : Syntax) : Option UInt16 := (unsignedOf UInt16.size x).map UInt16.ofNat

def word32Of (x : Syntax) : Option UInt32 := (unsignedOf UInt32.size x).map UInt32.ofNat

def textOf : Syntax → Option String
  | .string pieces => Json.textOfPieces pieces
  | _ => none

def versionOf : Syntax → Option (Option Version)
  | .null => some none
  | .array items => (items.mapM word32Of).bind fun ns => (Version.ofList? ns).map some
  | _ => none

def once {α : Type} (field : Option α) (v : Option α) : Option (Option α) :=
  match field with
  | some _ => none
  | none => v.map some

def Draft.member (d : Draft) (key : String) (x : Syntax) : Option Draft :=
  match key with
  | "socket_path" => (once d.socketPath (textOf x)).map fun v => { d with socketPath := v }
  | "card" => (once d.card (word32Of x)).map fun v => { d with card := v }
  | "usb_vid" => (once d.vid (word16Of x)).map fun v => { d with vid := v }
  | "usb_pid" => (once d.pid (word16Of x)).map fun v => { d with pid := v }
  | "firmware_build" => (once d.firmwareBuild (word32Of x)).map fun v =>
    { d with firmwareBuild := v }
  | "firmware_version" => (once d.appVersion (versionOf x)).map fun v => { d with appVersion := v }
  | "esp_firmware_version" => (once d.espVersion (versionOf x)).map fun v =>
    { d with espVersion := v }
  | _ => some d

def Draft.finish (d : Draft) : Option ServiceStatus := do
  some {
    socketPath := ← d.socketPath
    card := ← d.card
    vid := ← d.vid
    pid := ← d.pid
    firmwareBuild := ← d.firmwareBuild
    appVersion := d.appVersion.join
    espVersion := d.espVersion.join }

def Draft.members : Draft → List (List Piece × Syntax) → Option Draft
  | d, [] => some d
  | d, (key, x) :: rest => do
    let k ← Json.textOfPieces key
    (← d.member k x).members rest

def fieldNames : List String :=
  ["socket_path", "card", "usb_vid", "usb_pid", "firmware_build", "firmware_version",
    "esp_firmware_version"]

/-- Reads a record written as an object, in which unknown members are ignored, or as an array of
its fields in order, of which the versions may be left out. -/
def ofSyntax : Syntax → Option ServiceStatus
  | .object members => (Draft.members {} members).bind Draft.finish
  | .array items =>
    if items.length ≤ fieldNames.length then
      ((fieldNames.zip items).foldlM (fun (d : Draft) (k, x) => d.member k x) {}).bind Draft.finish
    else none
  | _ => none

def ofBytes? (b : Bytes) : Option ServiceStatus := (Json.document b).bind ofSyntax

end ServiceStatus

end CardFirmware
