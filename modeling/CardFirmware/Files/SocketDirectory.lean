import CardFirmware.Files.Path

/-! The directories for sockets and status records, as the environment of a process names them. -/

namespace CardFirmware

structure Environment where
  runtimeDirectory : Option Path := none
  userDirectory : Option Path := none
  deriving DecidableEq

namespace Environment

def temporaryDirectory : Path := "/tmp"

/-- The directory of the session counts only if it is absolute. -/
def sessionDirectory (e : Environment) : Option Path :=
  e.userDirectory.filter Path.isAbsolute

def serviceDirectory (e : Environment) : Path :=
  ((e.runtimeDirectory.filter (· ≠ .empty)).or e.sessionDirectory).getD temporaryDirectory

def toolDirectories (e : Environment) : List Path :=
  e.sessionDirectory.toList ++ [temporaryDirectory]

end Environment

end CardFirmware
