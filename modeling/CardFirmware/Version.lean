/-! Firmware versions: four numbers, the first different one deciding which is newer. -/

namespace CardFirmware

structure Version where
  major : UInt32
  minor : UInt32
  patch : UInt32
  build : UInt32
  deriving DecidableEq

namespace Version

def toList (v : Version) : List UInt32 := [v.major, v.minor, v.patch, v.build]

def ofList? : List UInt32 → Option Version
  | [a, b, c, d] => some ⟨a, b, c, d⟩
  | _ => none

def render (v : Version) : String :=
  ".".intercalate (v.toList.map fun n => toString n.toNat)

def compare (v w : Version) : Ordering :=
  go v.toList w.toList
where
  go : List UInt32 → List UInt32 → Ordering
    | a :: as, b :: bs => if a < b then .lt else if b < a then .gt else go as bs
    | _, _ => .eq

end Version

end CardFirmware
