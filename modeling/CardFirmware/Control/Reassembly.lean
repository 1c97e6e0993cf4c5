import CardFirmware.ByteQueue
import CardFirmware.Control.Frame

/-! Requests cut out of a stream that arrives in arbitrary pieces. A message with the wrong mark or
too long a payload is reported once and skipped; the messages after it are read as usual. -/

namespace CardFirmware

/-- A partly received stream. While the payload of a refused message is skipped nothing is
buffered; the total length of a message is kept once its header has been accepted. -/
structure Reassembly where
  maxPayload : UInt32
  buffer : ByteQueue := {}
  total : Option Nat := none
  discard : Nat := 0
  deriving DecidableEq

namespace Reassembly

def standard : Reassembly := { maxPayload := maxPayloadLength }

def isDiscarding (r : Reassembly) : Bool := 0 < r.discard

def extend (r : Reassembly) (data : Bytes) : Reassembly :=
  { r with
    discard := r.discard - data.length
    buffer := r.buffer.append (data.drop r.discard) }

def skipDiscarded (r : Reassembly) : Reassembly :=
  if r.isDiscarding then
    { r with
      buffer := r.buffer.drop r.discard
      discard := r.discard - r.buffer.size }
  else r

def reject (r : Reassembly) (h : Header) : Reassembly :=
  skipDiscarded { r with
    buffer := r.buffer.drop headerLength
    discard := h.payloadLength.toNat }

def take (r : Reassembly) (total : Nat) : Option Request × Reassembly :=
  if total ≤ r.buffer.size then
    let message := r.buffer.toList.take total
    (some ⟨(message.drop 1).headD 0, message.drop headerLength⟩,
      { r with buffer := r.buffer.drop total, total := none })
  else (none, { r with total := some total })

def next (r : Reassembly) : Except WireError (Option Request) × Reassembly :=
  let r := r.skipDiscarded
  if 0 < r.discard then (.ok none, r)
  else
    match r.total with
    | some total =>
      let (request, r) := r.take total
      (.ok request, r)
    | none =>
      match Header.read r.buffer.toList with
      | none => (.ok none, r)
      | some (h, _) =>
        if h.magic ≠ requestMagic then (.error (.magic h.magic), r.reject h)
        else if h.payloadLength > r.maxPayload then
          (.error (.payloadTooLarge h.payloadLength r.maxPayload), r.reject h)
        else
          let (request, r) := r.take (headerLength + h.payloadLength.toNat)
          (.ok request, r)

def drain (r : Reassembly) : List (Except WireError Request) × Reassembly :=
  go (r.buffer.size + 1) r
where
  go : Nat → Reassembly → List (Except WireError Request) × Reassembly
    | 0, r => ([], r)
    | fuel + 1, r =>
      match r.next with
      | (.ok none, r) => ([], r)
      | (.ok (some request), r) =>
        let (rest, r) := go fuel r
        (.ok request :: rest, r)
      | (.error e, r) =>
        let (rest, r) := go fuel r
        (.error e :: rest, r)

end Reassembly

end CardFirmware
