import CardFirmware.Device.Simulator

/-! A simulated device whose notifications are announced on a descriptor: every read takes one
announcement, and a broken descriptor gives short reads for ever. -/

namespace CardFirmware

structure SignallingSimulator where
  device : Simulator
  announced : Nat := 0
  broken : Bool := false
  deriving DecidableEq

namespace SignallingSimulator

def transact (c : Call) (s : SignallingSimulator) :
    Except TransportError Bytes × SignallingSimulator :=
  let (reply, device) := Simulator.transact c s.device
  (reply, { s with device })

def readNotification (s : SignallingSimulator) :
    Except TransportError (Option UInt32) × SignallingSimulator :=
  let s := { s with announced := s.announced - 1 }
  if s.broken then (.error (.shortNotification 2), s)
  else
    let (reply, device) := s.device.readNotification
    (reply, { s with device })

def transport : Transport SignallingSimulator :=
  ⟨transact, readNotification, fun s => 0 < s.announced⟩

def notify (s : SignallingSimulator) (bits : UInt32) : SignallingSimulator :=
  { s with
    device := { s.device with notifications := s.device.notifications ++ [bits] }
    announced := s.announced + 1 }

def breakDown (s : SignallingSimulator) : SignallingSimulator :=
  { s with announced := s.announced + 1, broken := true }

end SignallingSimulator

end CardFirmware
