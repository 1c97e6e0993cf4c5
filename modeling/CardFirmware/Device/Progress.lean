import CardFirmware.Device.Dialogue

/-! Progress in percent. Only changes are reported, and a finished operation ends at 100. -/

namespace CardFirmware

/-- The share of `total` that is done, in whole percents up to 100; the product is capped at 64
bits. -/
def percentage (done total : Nat) : Nat :=
  if total = 0 then 100 else min (min (done * 100) (UInt64.size - 1) / total) 100

structure Progress where
  last : Option Nat := none
  deriving DecidableEq

namespace Progress

variable {ε : Type}

def update (p : Progress) (percent : Nat) : Procedure ε Progress :=
  if p.last = some (min percent 100) then return p
  else do
    Procedure.report (min percent 100)
    return ⟨some (min percent 100)⟩

def ratio (p : Progress) (done total : Nat) : Procedure ε Progress :=
  p.update (percentage done total)

def finish (p : Progress) : Procedure ε Progress := p.update 100

end Progress

end CardFirmware
