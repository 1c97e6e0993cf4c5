/-! The segments of a device's flash memory and the four roles that a device must provide. -/

namespace CardFirmware

inductive SegmentRole where
  | upgrade
  | settings
  | disk
  | env
  deriving DecidableEq

namespace SegmentRole

def all : List SegmentRole := [upgrade, settings, disk, env]

def segmentName : SegmentRole → String
  | upgrade => "App_Upgrade"
  | settings => "App_Settings"
  | disk => "App_Disk"
  | env => "App_Env"

def ofName? (name : String) : Option SegmentRole := all.find? (·.segmentName = name)

end SegmentRole

structure Segment where
  index : UInt32
  size : UInt32
  deriving DecidableEq

def eraseBlockSize : Nat := 4096

/-- The most segments that a directory may list, and the highest index that may be erased. -/
def segmentCountMax : Nat := 15

def eraseBlocksMax : Nat := 255

def Segment.eraseBlocks (s : Segment) : Nat := s.size.toNat / eraseBlockSize

structure FlashDirectory where
  flashSize : UInt32
  upgrade : Segment
  settings : Segment
  disk : Segment
  env : Segment
  deriving DecidableEq

def FlashDirectory.segment (d : FlashDirectory) : SegmentRole → Segment
  | .upgrade => d.upgrade
  | .settings => d.settings
  | .disk => d.disk
  | .env => d.env

end CardFirmware
