import CardFirmware.Device.Dialogue
import CardFirmware.Device.Reply
import CardFirmware.Esp.Config

/-! A device in memory: flash segments, registers, a coprocessor that can be updated, and a queue
of notifications. It answers every command at once, apart from the operations set to fail. -/

namespace CardFirmware

namespace Bytes

/-- Writes `v` over `b` at a position; what would lie beyond the end is dropped. -/
def overwrite (b : Bytes) (position : Nat) (v : Bytes) : Bytes :=
  b.take position ++ (v.take (b.length - position) ++ b.drop (position + v.length))

def padTo (b : Bytes) (n : Nat) (fill : UInt8) : Bytes := b ++ List.replicate (n - b.length) fill

def slice? (b : Bytes) (start n : Nat) : Option Bytes :=
  if start + n ≤ b.length then some ((b.drop start).take n) else none

end Bytes

structure SimulatedSegment where
  name : String
  size : UInt32
  memory : Array UInt8 := #[]
  eraseCount : Nat := 0
  deriving DecidableEq

namespace SimulatedSegment

def contents (g : SimulatedSegment) : Bytes := g.memory.toList

/-- Lays bytes over a memory from position `i` on. Where the memory ends it grows, and it must
reach up to `i`. -/
def overlay : Bytes → Nat → Array UInt8 → Array UInt8
  | [], _, memory => memory
  | b :: rest, i, memory =>
    overlay rest (i + 1) (if h : i < memory.size then memory.set i b h else memory.push b)

def erase (g : SimulatedSegment) : SimulatedSegment :=
  { g with memory := #[], eraseCount := g.eraseCount + 1 }

/-- Writes bytes at an offset; a gap before it reads as erased. -/
def write (g : SimulatedSegment) (offset : Nat) (data : Bytes) : SimulatedSegment :=
  { g with memory :=
      overlay data offset (g.memory ++ Array.replicate (offset - g.memory.size) 0xFF) }

theorem toList_overlay (v : Bytes) (i : Nat) (memory : Array UInt8) (h : i ≤ memory.size) :
    (overlay v i memory).toList =
      memory.toList.take i ++ v ++ memory.toList.drop (i + v.length) := by
  induction v generalizing i memory with
  | nil => simp [overlay]
  | cons b rest ih =>
    rw [overlay]
    split
    · next hi =>
      rw [ih (i + 1) _ (by rw [Array.size_set]; exact hi), Array.toList_set,
        List.drop_set_of_lt (by omega), List.take_set, List.take_succ_eq_append_getElem hi,
        List.set_append_right _ _ (by rw [List.length_take]; exact Nat.min_le_left ..)]
      simp [Nat.min_eq_left h, Nat.add_comm, Nat.add_left_comm]
    · next hi =>
      obtain rfl : i = memory.size := by omega
      rw [ih (memory.size + 1) _ (by simp)]
      rw [List.drop_of_length_le (by simp), List.drop_of_length_le (by simp)]
      simp [List.take_of_length_le]

end SimulatedSegment

/-- The coprocessor, whose memory holds the blocks taken since the last start. Each of its signals
is preceded by the noise if there is any, and it asks for no more blocks once it has taken
`stallAfter` of them. -/
structure SimulatedEsp where
  config : EspConfig
  state : UInt8
  memory : Array UInt8 := #[]
  started : Option (UInt32 × Octets 16) := none
  noise : Option UInt32 := none
  stallAfter : Option Nat := none
  blocks : Nat := 0
  finished : Bool := false
  deriving DecidableEq

namespace SimulatedEsp

def received (esp : SimulatedEsp) : Bytes := esp.memory.toList

/-- Takes a block. An empty one ends the memory. -/
def take (data : Bytes) (esp : SimulatedEsp) : SimulatedEsp :=
  if data.isEmpty then { esp with finished := true }
  else { esp with memory := esp.memory ++ data, blocks := esp.blocks + 1 }

def hasStalled (esp : SimulatedEsp) : Bool := esp.stallAfter.any (· ≤ esp.blocks)

end SimulatedEsp

/-- The erase script gives the progress values of the next polls; then the stall value is given
for ever, or completion without one. The log names the commands carried out, the latest first. -/
structure Simulator where
  capabilities : List UInt16 := [0, 0x800, 4]
  flashSize : UInt32 := 0x800000
  segments : List SimulatedSegment := []
  eraseScript : List UInt8 := []
  eraseStall : Option UInt8 := none
  registers : List (UInt32 × Int32) := []
  notifyEvents : List UInt32 := []
  notifications : List UInt32 := []
  esp : Option SimulatedEsp := none
  devmap : Bytes := []
  syncLocked : Bool := true
  reboots : Nat := 0
  writes : Nat := 0
  log : List String := []
  failing : List Opcode := []
  deriving DecidableEq

namespace Simulator

def fourRoles : Simulator :=
  { segments := [
      { name := "App_Gold", size := 0x80000 }, { name := "App_Upgrade", size := 0x80000 },
      { name := "App_Settings", size := 0x10000 }, { name := "App_Disk", size := 0x40000 },
      { name := "App_Env", size := 0x2000 }] }

def setRegister (offset : UInt32) (value : Int32) :
    List (UInt32 × Int32) → List (UInt32 × Int32)
  | [] => [(offset, value)]
  | (o, v) :: rest =>
    if o = offset then (offset, value) :: rest
    else if offset < o then (offset, value) :: (o, v) :: rest
    else (o, v) :: setRegister offset value rest

def register (s : Simulator) (offset : UInt32) : Int32 := (s.registers.lookup offset).getD 0

def word32 (request : Bytes) (i : Nat) : UInt32 :=
  match request.slice? i 4 with
  | some b => b.le32At 0
  | none => 0

def word16 (request : Bytes) (i : Nat) : UInt16 :=
  match request.slice? i 2 with
  | some b => b.le16At 0
  | none => 0

def signal (s : Simulator) : Simulator :=
  match s.esp with
  | none => s
  | some esp =>
    { s with notifications := s.notifications ++ esp.noise.toList ++ [esp.config.changeMask] }

def announce (s : Simulator) (code : UInt8) : Simulator :=
  match s.esp with
  | none => s
  | some esp =>
    { s with registers :=
        setRegister esp.config.notifyOffset code.toUInt32.toInt32 s.registers }.signal

def readData (s : Simulator) (offset : UInt32) : Int32 :=
  match s.esp with
  | some esp => if offset = esp.config.stateOffset then esp.state.toUInt32.toInt32
    else s.register offset
  | none => s.register offset

def notifyData (s : Simulator) (event : UInt32) : Simulator :=
  let s := { s with notifyEvents := s.notifyEvents ++ [event] }
  match s.esp with
  | none => s
  | some esp =>
    if event = esp.config.bootModeEvent then
      let mode := (s.register esp.config.bootModeOffset).toUInt32.toUInt8
      { s with esp := some { esp with state := mode } }.signal
    else s

def startDfu (s : Simulator) (request : Bytes) : Simulator :=
  match s.esp with
  | none => s
  | some esp =>
    let md5 := ((request.slice? 8 16).bind (Octets.ofBytes 16)).getD (Octets.zero 16)
    let esp := { esp with
      started := some (word32 request 4, md5), state := esp.config.states.dfu,
      memory := #[], blocks := 0 }
    { s with esp := some esp }.signal.announce esp.config.notifications.nextBlock

def writeDfu (s : Simulator) (data : Bytes) : Simulator :=
  let s := { s with esp := s.esp.map (.take data) }
  match s.esp with
  | none => s
  | some esp =>
    if data.isEmpty then s.announce esp.config.notifications.finish
    else if esp.hasStalled then s
    else s.announce esp.config.notifications.nextBlock

def eraseSegment (s : Simulator) (index : Nat) : Simulator :=
  { s with segments := s.segments.modify index (·.erase) }

def writeSegment (s : Simulator) (index offset : Nat) (data : Bytes) : Simulator :=
  { s with segments := s.segments.modify index (·.write offset data) }

def countWrite (s : Simulator) : Simulator := { s with writes := s.writes + 1 }

def pollErase (s : Simulator) : UInt8 × Simulator :=
  match s.eraseScript with
  | raw :: rest => (raw, { s with eraseScript := rest })
  | [] => (s.eraseStall.getD eraseDone, s)

def segmentInfoReply (g : SimulatedSegment) (response : Bytes) : Bytes :=
  (response.overwrite 0 (Bytes.le32 g.size)).overwrite 8 ((Text.Utf8.encode g.name).take 15)

def execute (c : Call) (s : Simulator) : Bytes × Simulator :=
  let response : Bytes := List.replicate c.responseLength 0
  match c.opcode.category?, c.opcode.operation with
  | some .init, 1 =>
    (response.overwrite 0 [if s.capabilities.contains (word16 c.request 0) then 1 else 0], s)
  | some .init, 3 => (response, { s.countWrite with reboots := s.reboots + 1 })
  | some .meter, 0 => (response.overwrite 0 [4], s)
  | some .mix, 0 => (response.overwrite 0 [2, 4], s)
  | some .mix, 2 => (response, s.countWrite)
  | some .mux, 2 => (response, s.countWrite)
  | some .flash, 0 =>
    (response.overwrite 0
      (Bytes.le32 s.flashSize ++ Bytes.le32 (UInt32.ofNat s.segments.length)), s)
  | some .flash, 1 =>
    match s.segments[(word32 c.request 0).toNat]? with
    | some g => (segmentInfoReply g response, s)
    | none => (response, s)
  | some .flash, 2 => (response, s.countWrite.eraseSegment (c.request.byteAt 0).toNat)
  | some .flash, 3 =>
    let (raw, s) := s.pollErase
    (response.overwrite 0 [raw], s)
  | some .flash, 4 =>
    (response, s.countWrite.writeSegment (word32 c.request 0).toNat (word32 c.request 4).toNat
      (c.request.drop 12))
  | some .sync, 4 => (response.overwrite 0 [if s.syncLocked then 1 else 0], s)
  | some .espDfu, 0 => (response, s.countWrite.startDfu c.request)
  | some .espDfu, 1 => (response, s.countWrite.writeDfu c.request)
  | some .data, 0 =>
    (response.overwrite 0 (Bytes.le32 (s.readData (word32 c.request 0)).toUInt32), s)
  | some .data, 1 =>
    let value := Bytes.le32At (Bytes.padTo (c.request.drop 8) 4 0) 0
    (response, { s.countWrite with
      registers := setRegister (word32 c.request 0) value.toInt32 s.registers })
  | some .data, 2 => (response, s.countWrite.notifyData (word32 c.request 0))
  | some .data, 12 =>
    (response.overwrite 2 (Bytes.le16 (UInt16.ofNat s.devmap.length)), s)
  | some .data, 13 =>
    ((s.devmap.slice? ((word32 c.request 0).toNat * devmapBlockSize) c.responseLength).getD
      response, s)
  | _, _ => (response, s)

def logName (o : Opcode) : String :=
  match o.category?, o.operation with
  | none, _ => "unknown"
  | some .init, 1 => "cap-read"
  | some .init, 3 => "reboot"
  | some .flash, 0 => "flash-info"
  | some .flash, 1 => "flash-segment-info"
  | some .flash, 2 => "flash-erase"
  | some .flash, 3 => "flash-erase-progress"
  | some .flash, 4 => "flash-write"
  | some .espDfu, 0 => "esp-dfu-start"
  | some .espDfu, 1 => "esp-dfu-write"
  | some .data, 0 => "data-read"
  | some .data, 1 => "data-write"
  | some .data, 2 => "data-notify"
  | some .data, 12 => "devmap-info"
  | some .data, 13 => "devmap-read"
  | _, _ => "other"

/-- A failing operation changes nothing and is not logged. -/
def transact (c : Call) (s : Simulator) : Except TransportError Bytes × Simulator :=
  if s.failing.contains c.opcode then (.error (.io "mock" .deviceFault), s)
  else
    let (response, s) := s.execute c
    (.ok response, { s with log := logName c.opcode :: s.log })

def readNotification (s : Simulator) : Except TransportError (Option UInt32) × Simulator :=
  match s.notifications with
  | bits :: rest => (.ok (some bits), { s with notifications := rest })
  | [] => (.ok none, s)

def transport : Transport Simulator := ⟨transact, readNotification, fun _ => false⟩

end Simulator

end CardFirmware
