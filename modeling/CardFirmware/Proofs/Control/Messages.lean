import CardFirmware.Proofs.Control.Payload
import CardFirmware.Proofs.Control.Reassembly

/-! What clients encode, taken out of a stream again. Reassembly that takes in piece after piece is
done with each once all that is complete has come out (`feed_eq_owed`), so the requests in a stream
are those that were encoded, in their order and wherever it was cut (`messages_recovered`). -/

namespace CardFirmware

theorem RequestType.ofNumber?_number (type : RequestType) : ofNumber? type.number = some type := by
  cases type <;> rfl

inductive ClientMessage where
  | plain (type : RequestType)
  | update (type : RequestType) (payload : FirmwarePayload)
  deriving DecidableEq

namespace ClientMessage

def type : ClientMessage → RequestType
  | plain type | update type _ => type

def encode : ClientMessage → Bytes
  | plain type => type.message
  | update type payload => type.messageWith payload

def payload : ClientMessage → Bytes
  | plain _ => []
  | update _ payload => payload.encode

def Fits : ClientMessage → Prop
  | plain _ => True
  | update _ payload => payload.data.length ≤ 16 * 1024 * 1024

instance (m : ClientMessage) : Decidable m.Fits := by
  unfold Fits
  split <;> infer_instance

def request (m : ClientMessage) : Request := ⟨m.type.number, m.payload⟩

variable {m : ClientMessage}

theorem requestType_request (m : ClientMessage) : m.request.requestType = .ok m.type := by
  rw [Request.requestType, request, RequestType.ofNumber?_number]

theorem encode_eq (m : ClientMessage) :
    m.encode = Header.encode ⟨requestMagic, m.type.number, UInt32.ofNat m.payload.length⟩ ++
      m.payload := by
  cases m with
  | plain type => exact (List.append_nil _).symm
  | update type payload => rfl

theorem length_payload (h : m.Fits) : m.payload.length ≤ maxPayloadLength.toNat := by
  cases m with
  | plain type => exact Nat.zero_le _
  | update type payload =>
    have hdata : payload.data.length ≤ 16 * 1024 * 1024 := h
    have hmax : maxPayloadLength.toNat = FirmwarePayload.headerLength + 16 * 1024 * 1024 := rfl
    rw [ClientMessage.payload, FirmwarePayload.length_encode, hmax]
    omega

theorem toNat_length_payload (h : m.Fits) :
    (UInt32.ofNat m.payload.length).toNat = m.payload.length := by
  apply UInt32.toNat_ofNat_of_lt'
  exact Nat.lt_of_le_of_lt (length_payload h) maxPayloadLength.toNat_lt_size

theorem refusal_header (h : m.Fits) :
    Header.refusal ⟨requestMagic, m.type.number, UInt32.ofNat m.payload.length⟩ maxPayloadLength =
      none := by
  have hsize : UInt32.ofNat m.payload.length ≤ maxPayloadLength := by
    rw [UInt32.le_iff_toNat_le, toNat_length_payload h]
    exact length_payload h
  exact Header.refusal_eq_none.mpr ⟨rfl, hsize⟩

theorem readRequests_encode (h : m.Fits) (rest : Bytes) :
    readRequests maxPayloadLength 0 (m.encode ++ rest) =
      (.ok m.request :: (readRequests maxPayloadLength 0 rest).1,
        (readRequests maxPayloadLength 0 rest).2) := by
  have hread := Header.read_encode
    ⟨requestMagic, m.type.number, UInt32.ofNat m.payload.length⟩ (m.payload ++ rest)
  have hfits : m.payload.length ≤ (m.payload ++ rest).length := by simp
  rw [encode_eq, List.append_assoc, readRequests_of_read hread, refusal_header h]
  simp only [toNat_length_payload h, if_pos hfits, List.take_left, List.drop_left]
  rfl

theorem readRequests_flatMap {messages : List ClientMessage} (h : ∀ m ∈ messages, m.Fits) :
    readRequests maxPayloadLength 0 (messages.flatMap encode) =
      (messages.map fun m => .ok m.request, ⟨[], none, 0⟩) := by
  induction messages with
  | nil => exact readRequests_of_read_none rfl
  | cons m messages ih =>
    obtain ⟨hm, hmessages⟩ := List.forall_mem_cons.mp h
    rw [List.flatMap_cons, readRequests_encode hm, ih hmessages, List.map_cons]

end ClientMessage

namespace Reassembly

def feed : List Bytes → Reassembly → List (Except WireError Request) × Reassembly
  | [], r => ([], r)
  | piece :: pieces, r =>
    let (items, r) := (r.extend piece).drain
    let (more, r) := feed pieces r
    (items ++ more, r)

structure Drained (r : Reassembly) : Prop where
  valid : r.Valid
  next_eq : r.next = (.ok none, r)
  owed_nil : r.owed [] = ([], r.leftover)

variable {r : Reassembly}

theorem drained_standard : Drained standard :=
  ⟨valid_empty maxPayloadLength, rfl, readRequests_of_read_none rfl⟩

theorem drained_drain (hr : r.Valid) : Drained r.drain.2 := by
  have hdrains := drains_drain hr
  refine ⟨hdrains.valid, hdrains.again, ?_⟩
  -- asked twice, the items are the same ones and none of them is owed again
  have htwice := hdrains.owed_eq []
  rw [hdrains.owed_nil] at htwice
  obtain ⟨hitems, hleft⟩ := Prod.mk.inj htwice
  have hnone : (r.drain.2.owed []).1 = [] := List.append_right_eq_self.mp hitems.symm
  exact Prod.ext hnone hleft.symm

theorem feed_eq_owed (hr : r.Drained) (pieces : List Bytes) :
    (feed pieces r).2.Drained ∧
      r.owed pieces.flatten = ((feed pieces r).1, (feed pieces r).2.leftover) := by
  induction pieces generalizing r with
  | nil => exact ⟨hr, hr.owed_nil⟩
  | cons piece pieces ih =>
    have hvalid := valid_extend hr.valid piece
    obtain ⟨hdrained, howed⟩ := ih (drained_drain hvalid)
    refine ⟨hdrained, ?_⟩
    rw [List.flatten_cons, ← owed_extend hr.valid, (drains_drain hvalid).owed_eq, howed]
    rfl

theorem feed_standard (pieces : List Bytes) :
    (feed pieces standard).2.Drained ∧
      readRequests maxPayloadLength 0 pieces.flatten =
        ((feed pieces standard).1, (feed pieces standard).2.leftover) :=
  feed_eq_owed drained_standard pieces

theorem feed_messages {messages : List ClientMessage} {pieces : List Bytes}
    (hfits : ∀ m ∈ messages, m.Fits) (hpieces : pieces.flatten = messages.flatMap (·.encode)) :
    (feed pieces standard).1 = messages.map (fun m => .ok m.request) ∧
      (feed pieces standard).2.leftover = ⟨[], none, 0⟩ := by
  have hfeed := (feed_standard pieces).2
  rw [hpieces, ClientMessage.readRequests_flatMap hfits] at hfeed
  obtain ⟨hitems, hleft⟩ := Prod.mk.inj hfeed
  exact ⟨hitems.symm, hleft.symm⟩

/-- Of the messages that clients encode one after the other there comes out one request for each, in
order and without a refusal, however the stream is cut. It is of the type of its message and has the
image of it, or no payload, and at the end nothing is kept or skipped. -/
theorem messages_recovered (messages : List ClientMessage) (pieces : List Bytes)
    (hfits : ∀ m ∈ messages, m.Fits) (hpieces : pieces.flatten = messages.flatMap (·.encode)) :
    let r := (feed pieces standard).2
    (feed pieces standard).1 = messages.map (fun m => .ok m.request) ∧
      (∀ m ∈ messages, m.request.requestType = .ok m.type ∧
        match m with
        | .plain _ => m.request.payload = []
        | .update _ payload => FirmwarePayload.decode m.request.payload = .ok payload) ∧
      r.next = (.ok none, r) ∧ r.buffer.size = 0 ∧ r.total = none ∧ r.isDiscarding = false := by
  intro r
  obtain ⟨hitems, hleft⟩ := feed_messages hfits hpieces
  have hdrained : r.Drained := (feed_standard pieces).1
  obtain ⟨hbytes, htotal, hmissing⟩ := Leftover.mk.inj hleft
  refine ⟨hitems, fun m hm => ⟨m.requestType_request, ?_⟩, hdrained.next_eq, ?_, htotal, ?_⟩
  · have hfit := hfits m hm
    cases m with
    | plain type => rfl
    | update type payload =>
      have hdata : payload.data.length ≤ 16 * 1024 * 1024 := hfit
      have hsize : payload.data.length < UInt32.size := by
        rw [UInt32.size]
        omega
      exact FirmwarePayload.decode_encode hsize
  · have hlength := r.buffer.length_toList
    rw [hbytes] at hlength
    exact hlength.symm
  · have hnone : r.discard = 0 := hmissing
    simp [isDiscarding, hnone]

/-- A reboot behind an image, cut within the header and within the image. -/
theorem update_and_reboot_recovered :
    let payload : FirmwarePayload := ⟨1, 2, Octets.zero 32, Octets.zero 16, [7, 8, 9]⟩
    let messages := [ClientMessage.update .espUpdate payload, .plain .reboot]
    let stream := messages.flatMap (·.encode)
    let pieces := [stream.take 3, [], (stream.drop 3).take 60, stream.drop 63]
    (∀ m ∈ messages, m.Fits) ∧ pieces.flatten = messages.flatMap (·.encode) ∧
      (feed pieces standard).1 = [.ok ⟨5, payload.encode⟩, .ok ⟨1, []⟩] ∧
      FirmwarePayload.decode payload.encode = .ok payload ∧
      (feed pieces standard).2.buffer.size = 0 := by
  intro payload messages stream pieces
  have hfits : ∀ m ∈ messages, m.Fits := by decide
  have hpieces : pieces.flatten = messages.flatMap (·.encode) := by decide +kernel
  have hrecovered := messages_recovered messages pieces hfits hpieces
  obtain ⟨hitems, hrequests, -, hsize, -⟩ := hrecovered
  have himage := (hrequests (.update .espUpdate payload) List.mem_cons_self).2
  exact ⟨hfits, hpieces, hitems, himage, hsize⟩

end Reassembly

end CardFirmware
