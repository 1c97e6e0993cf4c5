import CardFirmware.Bytes

/-! Base64 with the standard alphabet. Only the canonical form is read: whole groups of four, the
last one padded, and no stray bits in front of the padding. -/

namespace CardFirmware.Base64

def digitValue (b : UInt8) : Option Nat :=
  let n := b.toNat
  if 65 ≤ n ∧ n ≤ 90 then some (n - 65)
  else if 97 ≤ n ∧ n ≤ 122 then some (n - 71)
  else if 48 ≤ n ∧ n ≤ 57 then some (n + 4)
  else if n = 43 then some 62
  else if n = 47 then some 63
  else none

def group (a b c d : Nat) : Bytes :=
  [UInt8.ofNat (a * 4 + b / 16), UInt8.ofNat (b * 16 + c / 4), UInt8.ofNat (c * 64 + d)]

def pad : UInt8 := 61

def decode : Bytes → Option Bytes
  | [] => some []
  | a :: b :: c :: d :: rest => do
    let x ← digitValue a
    let y ← digitValue b
    if d = pad ∧ rest.isEmpty then
      if c = pad then
        if y % 16 = 0 then some ((group x y 0 0).take 1) else none
      else do
        let z ← digitValue c
        if z % 4 = 0 then some ((group x y z 0).take 2) else none
    else do
      let z ← digitValue c
      let w ← digitValue d
      let tail ← decode rest
      some (group x y z w ++ tail)
  | _ => none

end CardFirmware.Base64
