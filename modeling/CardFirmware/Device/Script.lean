import CardFirmware.Device.Dialogue

/-! A device that answers from a script and remembers what it was asked. -/

namespace CardFirmware

abbrev ScriptedReply := Except String Bytes

inductive ScriptedNotification where
  | bits (bits : UInt32)
  | nothing
  | failure (text : String)
  | short (length : Nat)

/-- Replies are taken from the queue for calls that expect a response; `overrides` replace the
reply to the call of a given number. -/
structure Script where
  responses : List ScriptedReply := []
  overrides : List (Nat × ScriptedReply) := []
  notifications : List ScriptedNotification := []
  calls : Nat := 0
  sent : List Call := []

namespace Script

def answer (r : ScriptedReply) : Except TransportError Bytes :=
  r.mapError fun text => .io "scripted" (.other text)

def transact (c : Call) (s : Script) : Except TransportError Bytes × Script :=
  let asked := { s with calls := s.calls + 1, sent := c :: s.sent }
  match s.overrides.lookup s.calls with
  | some r => (answer r, asked)
  | none =>
    if c.responseLength = 0 then (.ok [], asked)
    else
      match s.responses with
      | [] => (.ok [], asked)
      | r :: rest => (answer r, { asked with responses := rest })

def readNotification (s : Script) : Except TransportError (Option UInt32) × Script :=
  match s.notifications with
  | [] => (.ok none, s)
  | n :: rest =>
    let reply := match n with
      | .bits bits => .ok (some bits)
      | .nothing => .ok none
      | .failure text => .error (.io "read notification" (.other text))
      | .short length => .error (.shortNotification length)
    (reply, { s with notifications := rest })

def transport : Transport Script := ⟨transact, readNotification, fun _ => false⟩

end Script

end CardFirmware
