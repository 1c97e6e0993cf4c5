import CardFirmware.Device.Client

/-! Discovery of the flash directory. -/

namespace CardFirmware.FlashDirectory

abbrev Found := SegmentRole → Option Segment

def Found.none : Found := fun _ => Option.none

def Found.record (found : Found) (index : UInt32) (info : Reply.SegmentInfo) : Found :=
  match SegmentRole.ofName? info.name with
  | some role => fun r => if r = role then some ⟨index, info.size⟩ else found r
  | Option.none => found

def survey (found : Found) : Nat → Nat → Procedure DirectoryError Found
  | 0, _ => return found
  | n + 1, index => do
    let info ← (Device.segmentInfo (UInt32.ofNat index)).orFail .transport
    survey (found.record (UInt32.ofNat index) info) n (index + 1)

/-- The segment of a role, which may not be the first one of the device. -/
def required (found : Found) (role : SegmentRole) : Except DirectoryError Segment :=
  match found role with
  | Option.none => .error (.missingSegment role)
  | some s => if s.index = 0 then .error (.reservedIndex role) else .ok s

def ofFound (flashSize : UInt32) (found : Found) : Except DirectoryError FlashDirectory := do
  let upgrade ← required found .upgrade
  let settings ← required found .settings
  let disk ← required found .disk
  let env ← required found .env
  return ⟨flashSize, upgrade, settings, disk, env⟩

def discover : Procedure DirectoryError FlashDirectory := do
  let info ← Device.flashInfo.orFail .transport
  if 1 ≤ info.count.toNat ∧ info.count.toNat ≤ segmentCountMax then
    let found ← survey Found.none info.count.toNat 0
    Procedure.ofExcept (ofFound info.size found)
  else throw (.segmentCount info.count)

end CardFirmware.FlashDirectory
