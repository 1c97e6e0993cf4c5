import CardFirmware.Text.Blank
import CardFirmware.Text.Numeral

/-! Vendor and product numbers of a device. -/

namespace CardFirmware

structure UsbId where
  vid : UInt16
  pid : UInt16
  deriving DecidableEq

namespace UsbId

def render (id : UsbId) : String :=
  Text.Numeral.hex 4 id.vid.toNat ++ ":" ++ Text.Numeral.hex 4 id.pid.toNat

def ofText? (text : String) : Option UsbId := do
  let (vid, pid) ← Text.splitOnce? ':' (Text.trim text)
  some ⟨← Text.Numeral.u16Hex? vid, ← Text.Numeral.u16Hex? pid⟩

end UsbId

end CardFirmware
