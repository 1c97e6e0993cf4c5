import CardFirmware.Bytes

/-! The socket of a service as seen from both sides: connections that wait to be accepted, and
bytes under way in either direction. -/

namespace CardFirmware

abbrev ConnectionId := Nat

structure Connection where
  toService : Bytes := []
  toClient : Bytes := []
  closedByClient : Bool := false
  closedByService : Bool := false
  deriving DecidableEq

structure Network where
  connections : List (ConnectionId × Connection) := []
  waiting : List ConnectionId := []
  deriving DecidableEq

inductive Activity where
  | connect (id : ConnectionId)
  | write (id : ConnectionId) (data : Bytes)
  | close (id : ConnectionId)
  deriving DecidableEq

namespace Network

def find (n : Network) (id : ConnectionId) : Connection := (n.connections.lookup id).getD {}

def modify (n : Network) (id : ConnectionId) (f : Connection → Connection) : Network :=
  { n with connections := n.connections.map fun (i, c) => if i = id then (i, f c) else (i, c) }

def act (n : Network) : Activity → Network
  | .connect id =>
    { n with connections := n.connections ++ [(id, {})], waiting := n.waiting ++ [id] }
  | .write id data => n.modify id fun c =>
    if c.closedByService then c else { c with toService := c.toService ++ data }
  | .close id => n.modify id fun c => { c with closedByClient := true }

/-- Sends to a client; what goes to one that has left is lost. -/
def send (n : Network) (id : ConnectionId) (data : Bytes) : Network :=
  n.modify id fun c => if c.closedByClient then c else { c with toClient := c.toClient ++ data }

def hangUp (n : Network) (id : ConnectionId) : Network :=
  n.modify id fun c => { c with closedByService := true }

def rejectWaiting (n : Network) : Network :=
  { n.waiting.foldl hangUp n with waiting := [] }

/-- Whether a read would not block: there are bytes, or the client has left. -/
def readable (n : Network) (id : ConnectionId) : Bool :=
  let c := n.find id
  !c.toService.isEmpty || c.closedByClient

def receive (n : Network) (id : ConnectionId) : Bytes × Network :=
  ((n.find id).toClient, n.modify id fun c => { c with toClient := [] })

end Network

end CardFirmware
