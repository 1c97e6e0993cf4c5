import CardFirmware.Bytes
import CardFirmware.Wire
import CardFirmware.Device.Opcode

/-! The commands of a device. The constructor fixes the operation code, the layout of the request
and the length of the response. -/

namespace CardFirmware

def pageSize : Nat := 1024

/-- The data of one flash write: a page less three words. -/
def flashWriteMax : Nat := pageSize - 12

def devmapBlockSize : Nat := 1024

def eraseDone : UInt8 := 255

def flashSizeMax : Nat := 16 * 1024 * 1024

def flashCountMax : Nat := 16

def segmentNumberMin : Nat := 1

def segmentNumberMax : Nat := 16

inductive Width where
  | one
  | two
  | four
  deriving DecidableEq

namespace Width

def bytes : Width → Nat
  | one => 1
  | two => 2
  | four => 4

def ofBytes? : Nat → Option Width
  | 1 => some one
  | 2 => some two
  | 4 => some four
  | _ => none

end Width

inductive Command where
  | capRead (category : UInt16)
  | reboot
  | meterInfo
  | meterRead (count : UInt16)
  | mixInfo
  | mixRead (mix count : UInt16)
  | mixWrite (mix : UInt16) (values : List UInt16)
  | muxInfo
  | muxRead (mux count : UInt8)
  | muxWrite (mux : UInt16) (values : List UInt32)
  | flashInfo
  | flashSegmentInfo (segment : UInt32)
  | flashErase (segment : UInt8)
  | flashEraseProgress (segment : UInt32)
  | flashWrite (segment offset : UInt32) (data : Bytes)
  | syncRead
  | espDfuStart (length : UInt32) (md5 : Octets 16)
  | espDfuWrite (data : Bytes)
  | dataRead (offset : UInt32) (width : Width)
  | dataWrite (offset : UInt32) (width : Width) (value : Int32)
  | dataNotify (event : UInt32)
  | devmapInfo
  | devmapRead (block : UInt32) (length : Nat)
  deriving DecidableEq

namespace Command

def opcode : Command → Opcode
  | capRead _ => .compose .init 1
  | reboot => .compose .init 3
  | meterInfo => .compose .meter 0
  | meterRead _ => .compose .meter 1
  | mixInfo => .compose .mix 0
  | mixRead _ _ => .compose .mix 1
  | mixWrite _ _ => .compose .mix 2
  | muxInfo => .compose .mux 0
  | muxRead _ _ => .compose .mux 1
  | muxWrite _ _ => .compose .mux 2
  | flashInfo => .compose .flash 0
  | flashSegmentInfo _ => .compose .flash 1
  | flashErase _ => .compose .flash 2
  | flashEraseProgress _ => .compose .flash 3
  | flashWrite _ _ _ => .compose .flash 4
  | syncRead => .compose .sync 4
  | espDfuStart _ _ => .compose .espDfu 0
  | espDfuWrite _ => .compose .espDfu 1
  | dataRead _ _ => .compose .data 0
  | dataWrite _ _ _ => .compose .data 1
  | dataNotify _ => .compose .data 2
  | devmapInfo => .compose .data 12
  | devmapRead _ _ => .compose .data 13

def responseLength : Command → Nat
  | capRead _ => 1
  | meterInfo => 4
  | meterRead count => 4 * count.toNat
  | mixInfo => 8
  | mixRead _ count => 2 * count.toNat
  | muxInfo => 12
  | muxRead _ count => 4 * count.toNat
  | flashInfo => 16
  | flashSegmentInfo _ => 24
  | flashEraseProgress _ => 1
  | syncRead => 4
  | dataRead _ width => width.bytes
  | devmapInfo => 4
  | devmapRead _ length => length
  | reboot | mixWrite _ _ | muxWrite _ _ | flashErase _ | flashWrite _ _ _ | espDfuStart _ _
  | espDfuWrite _ | dataWrite _ _ _ | dataNotify _ => 0

def checkSegment (segment : Nat) : Except WireError Unit :=
  if segmentNumberMin ≤ segment ∧ segment ≤ segmentNumberMax then .ok ()
  else .error (.outOfRange .segmentNumber segment)

def checkSize (quantity : Quantity) (max size : Nat) : Except WireError Unit :=
  if size ≤ max then .ok () else .error (.outOfRange quantity size)

def validate : Command → Except WireError Unit
  | flashErase segment => checkSegment segment.toNat
  | flashWrite segment _ data => do
    checkSegment segment.toNat
    checkSize .flashWriteSize flashWriteMax data.length
  | espDfuWrite data => checkSize .espWriteSize pageSize data.length
  | devmapRead _ length => checkSize .devmapBlockSize devmapBlockSize length
  | _ => .ok ()

open Bytes in
def request : Command → Bytes
  | capRead category => le16 category
  | reboot | meterInfo | mixInfo | muxInfo | flashInfo | syncRead | devmapInfo => []
  | meterRead count => le16 0 ++ le16 count ++ le32 0
  | mixRead mix count => le16 mix ++ le16 count
  | mixWrite mix values => le16 mix ++ values.flatMap le16
  | muxRead mux count => [0, 0, count, mux]
  | muxWrite mux values => le16 0 ++ le16 mux ++ values.flatMap le32
  | flashSegmentInfo segment => le32 segment
  | flashErase segment => [segment, 0, 0, 0, 0, 0, 0, 0]
  | flashEraseProgress segment => le32 segment ++ le32 0
  | flashWrite segment offset data => le32 segment ++ le32 offset ++ le32 0 ++ data
  | espDfuStart length md5 => le32 0 ++ le32 length ++ md5.bytes
  | espDfuWrite data => data
  | dataRead offset width => le32 offset ++ le32 (UInt32.ofNat width.bytes)
  | dataWrite offset width value =>
    le32 offset ++ le32 (UInt32.ofNat width.bytes) ++ (le32 value.toUInt32).take width.bytes
  | dataNotify event => le32 event
  | devmapRead block _ => le32 block

def name : Command → String
  | capRead _ => "cap-read"
  | reboot => "reboot"
  | meterInfo => "meter-info"
  | meterRead _ => "meter-read"
  | mixInfo => "mix-info"
  | mixRead _ _ => "mix-read"
  | mixWrite _ _ => "mix-write"
  | muxInfo => "mux-info"
  | muxRead _ _ => "mux-read"
  | muxWrite _ _ => "mux-write"
  | flashInfo => "flash-info"
  | flashSegmentInfo _ => "flash-segment-info"
  | flashErase _ => "flash-erase"
  | flashEraseProgress _ => "flash-erase-progress"
  | flashWrite _ _ _ => "flash-write"
  | syncRead => "sync-read"
  | espDfuStart _ _ => "esp-dfu-start"
  | espDfuWrite _ => "esp-dfu-write"
  | dataRead _ _ => "data-read"
  | dataWrite _ _ _ => "data-write"
  | dataNotify _ => "data-notify"
  | devmapInfo => "devmap-info"
  | devmapRead _ _ => "devmap-read"

end Command

end CardFirmware
