/-! Integers as text: reading with an optional plus sign below a bound, and padded writing. -/

namespace CardFirmware.Text.Numeral

/-- The value of a digit, letters of either case standing for ten and more. -/
def digitValue (c : Char) : Nat :=
  let n := c.toNat
  if 0x30 ≤ n ∧ n ≤ 0x39 then n - 0x30
  else if 0x61 ≤ n ∧ n ≤ 0x7A then n - 0x61 + 10
  else if 0x41 ≤ n ∧ n ≤ 0x5A then n - 0x41 + 10
  else 36

def digits? (radix : Nat) (cs : List Char) : Option Nat :=
  if cs.isEmpty then none
  else if cs.all fun c => digitValue c < radix then
    some (cs.foldl (fun n c => n * radix + digitValue c) 0)
  else none

/-- An unsigned number below `bound`; one leading plus sign is allowed. -/
def unsigned? (radix bound : Nat) (s : String) : Option Nat :=
  let cs := match s.toList with
    | '+' :: r => r
    | r => r
  (digits? radix cs).filter (· < bound)

def u16Hex? (s : String) : Option UInt16 := (unsigned? 16 UInt16.size s).map UInt16.ofNat

def u32? (s : String) : Option UInt32 := (unsigned? 10 UInt32.size s).map UInt32.ofNat

def padLeft (width : Nat) (fill : Char) (cs : List Char) : List Char :=
  List.replicate (width - cs.length) fill ++ cs

def hexDigit (n : Nat) : Char :=
  Char.ofNat (if n < 10 then 0x30 + n else 0x61 + (n - 10))

def hex (width n : Nat) : String :=
  String.ofList (padLeft width '0' (Nat.toDigits 16 n))

def upperHex (width n : Nat) : String :=
  String.ofList (padLeft width '0' ((Nat.toDigits 16 n).map Char.toUpper))

end CardFirmware.Text.Numeral
