import CardFirmware.Files.Error

/-! Addresses of sockets: the path of an entry among the files or, after a zero byte, a
name that no file has. -/

namespace CardFirmware.SocketAddress

/-- The space for an address, in bytes. A path has to leave one of them free. -/
def capacity : Nat := 108

def isAbstract (address : Path) : Bool := address.bytes.head? == some 0

def checkPath (path : Path) : Except IoError Unit :=
  if path.bytes.contains 0 then .error .zeroInAddress
  else if capacity ≤ path.bytes.length then .error .addressTooLong
  else .ok ()

def checkAbstract (address : Path) : Except IoError Unit :=
  if capacity < address.bytes.length then .error .abstractNameTooLong
  else if address.bytes = [0] then .error .invalidArgument
  else .ok ()

end CardFirmware.SocketAddress
