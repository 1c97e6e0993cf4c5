import CardFirmware.Device.Dialogue

/-! A call as it is handed to the operating system: the operation code, the sizes of the request and
of the response as numbers of sixteen bits, and room for the longer of the two, which the request
fills from the front. -/

namespace CardFirmware

structure Packet where
  opcode : Opcode
  requestSize : UInt16
  responseSize : UInt16
  data : Bytes
  deriving DecidableEq

def Packet.sizeMax : Nat := 65535

/-- Of a length that is larger than a packet can declare, the low sixteen bits are declared. -/
def Call.packet (c : Call) : Packet where
  opcode := c.opcode
  requestSize := UInt16.ofNat c.request.length
  responseSize := UInt16.ofNat c.responseLength
  data := c.request ++ List.replicate (c.responseLength - c.request.length) 0

end CardFirmware
