import CardFirmware.Proofs.Device.Commands
import CardFirmware.Proofs.Device.Runs

/-! What the methods of a device make of its replies. A response of the declared length consists of
the fields that its decoder reads (`Method.Reads`), so no decoder fails for want of bytes or reads
beyond them, and a response of any other length is refused with both lengths. -/

namespace CardFirmware

open Bytes (le16 le32)

theorem length_words16 {b : Bytes} {n : Nat} (h : b.length = 2 * n) :
    (Reply.words16 b).length = n := by
  obtain ⟨values, rfl, hvalues⟩ := Bytes.exists_fields Bytes.exists_le16 h
  rwa [words16_flatMap]

theorem length_words32 {b : Bytes} {n : Nat} (h : b.length = 4 * n) :
    (Reply.words32 b).length = n := by
  obtain ⟨values, rfl, hvalues⟩ := Bytes.exists_fields Bytes.exists_le32 h
  rwa [words32_flatMap]

theorem expectLength_bind {α : Type} {b : Bytes} {n : Nat} {k : Unit → Except WireError α}
    (h : b.length = n) : (expectLength b n >>= k) = k () := by
  rw [expectLength, if_pos h]
  rfl

namespace Command

theorem checkSize_of_le {quantity : Quantity} {max size : Nat} (h : size ≤ max) :
    checkSize quantity max size = .ok () := if_pos h

theorem checkSize_of_lt {quantity : Quantity} {max size : Nat} (h : max < size) :
    checkSize quantity max size = .error (.outOfRange quantity size) := if_neg (Nat.not_le.mpr h)

theorem checkSegment_error {segment : Nat} {e : WireError} (h : checkSegment segment = .error e) :
    e = .outOfRange .segmentNumber segment := by
  unfold checkSegment at h
  split at h
  · cases h
  · exact (Except.error.inj h).symm

theorem checkSize_error {quantity : Quantity} {max size : Nat} {e : WireError}
    (h : checkSize quantity max size = .error e) : e = .outOfRange quantity size := by
  unfold checkSize at h
  split at h
  · cases h
  · exact (Except.error.inj h).symm

theorem validate_error {c : Command} {e : WireError} (h : c.validate = .error e) :
    ∃ quantity value, e = .outOfRange quantity value := by
  cases c with
  | flashErase segment => exact ⟨_, _, checkSegment_error h⟩
  | flashWrite segment offset data =>
    change (checkSegment segment.toNat >>= fun _ => checkSize _ _ data.length) = .error e at h
    cases hsegment : checkSegment segment.toNat with
    | error e' =>
      rw [hsegment] at h
      cases h
      exact ⟨_, _, checkSegment_error hsegment⟩
    | ok =>
      rw [hsegment] at h
      exact ⟨_, _, checkSize_error h⟩
  | espDfuWrite data => exact ⟨_, _, checkSize_error h⟩
  | devmapRead block length => exact ⟨_, _, checkSize_error h⟩
  | _ => cases h

end Command

namespace Device

/-- What spoils a call: the transport fails, or the response has another length than declared. -/
inductive Spoilt (c : Command) : Except TransportError Bytes → TransportError → Prop
  | failed (e : TransportError) : Spoilt c (.error e) e
  | mismatched {b : Bytes} (h : b.length ≠ c.responseLength) :
      Spoilt c (.ok b) (.responseLength c.name c.responseLength b.length)

theorem spoilt_of_checkedReply {c : Command} {reply : Except TransportError Bytes}
    {e : TransportError} (h : checkedReply c reply = .error e) : Spoilt c reply e := by
  cases reply with
  | error =>
    cases h
    exact .failed e
  | ok b =>
    by_cases hb : b.length = c.responseLength
    · rw [checkedReply, if_pos hb] at h
      cases h
    · rw [checkedReply, if_neg hb] at h
      cases h
      exact .mismatched hb

theorem runs_exchange {α : Type} {c : Command} {k : Bytes → Query α} {es : List Event}
    {r : Except TransportError α} (hc : c.validate = .ok ()) (h : (send c >>= k).Runs es r) :
    (∃ reply e, Spoilt c reply e ∧ es = [.sent c reply] ∧ r = .error e) ∨
      ∃ b rest, b.length = c.responseLength ∧ es = .sent c (.ok b) :: rest ∧ (k b).Runs rest r := by
  obtain ⟨e, hsend, rfl⟩ | ⟨b, es₁, rest, rfl, hsend, hk⟩ := Procedure.runs_bind.mp h
  · obtain ⟨reply, rfl, he⟩ := (runs_send_of_valid hc).mp hsend
    exact .inl ⟨reply, e, spoilt_of_checkedReply he.symm, rfl, rfl⟩
  · obtain ⟨rfl, hb⟩ := runs_send_ok hsend
    exact .inr ⟨b, rest, hb, rfl, hk⟩

inductive Method : Type → Type where
  | send (c : Command) : Method Bytes
  | hasCapability (category : UInt16) : Method Bool
  | reboot : Method Unit
  | meterInfo : Method UInt8
  | meterRead (count : UInt16) : Method (List UInt32)
  | mixInfo : Method Reply.MixInfo
  | mixRead (mix count : UInt16) : Method (List UInt16)
  | mixWrite (mix : UInt16) (values : List UInt16) : Method Unit
  | muxInfo : Method (UInt16 × UInt16 × UInt16)
  | muxRead (mux count : UInt8) : Method (List UInt32)
  | muxWrite (mux : UInt16) (values : List UInt32) : Method Unit
  | flashInfo : Method Reply.FlashInfo
  | segmentInfo (segment : UInt32) : Method Reply.SegmentInfo
  | flashErase (segment : UInt8) : Method Unit
  | eraseProgress (segment : UInt32) : Method UInt8
  | flashWrite (segment offset : UInt32) (data : Bytes) : Method Unit
  | syncLocked : Method Bool
  | espDfuStart (length : UInt32) (md5 : Octets 16) : Method Unit
  | espDfuWrite (data : Bytes) : Method Unit
  | dataRead (offset : UInt32) (width : Width) (signed : Bool) : Method Int32
  | dataWrite (offset : UInt32) (width : Width) (value : Int32) : Method Unit
  | dataNotify (event : UInt32) : Method Unit

namespace Method

variable {α : Type} {es : List Event}

def command : Method α → Command
  | send c => c
  | hasCapability category => .capRead category
  | reboot => .reboot
  | meterInfo => .meterInfo
  | meterRead count => .meterRead count
  | mixInfo => .mixInfo
  | mixRead mix count => .mixRead mix count
  | mixWrite mix values => .mixWrite mix values
  | muxInfo => .muxInfo
  | muxRead mux count => .muxRead mux count
  | muxWrite mux values => .muxWrite mux values
  | flashInfo => .flashInfo
  | segmentInfo segment => .flashSegmentInfo segment
  | flashErase segment => .flashErase segment
  | eraseProgress segment => .flashEraseProgress segment
  | flashWrite segment offset data => .flashWrite segment offset data
  | syncLocked => .syncRead
  | espDfuStart length md5 => .espDfuStart length md5
  | espDfuWrite data => .espDfuWrite data
  | dataRead offset width _ => .dataRead offset width
  | dataWrite offset width value => .dataWrite offset width value
  | dataNotify event => .dataNotify event

def query : Method α → Query α
  | send c => Device.send c
  | hasCapability category => Device.hasCapability category
  | reboot => Device.reboot
  | meterInfo => Device.meterInfo
  | meterRead count => Device.meterRead count
  | mixInfo => Device.mixInfo
  | mixRead mix count => Device.mixRead mix count
  | mixWrite mix values => Device.mixWrite mix values
  | muxInfo => Device.muxInfo
  | muxRead mux count => Device.muxRead mux count
  | muxWrite mux values => Device.muxWrite mux values
  | flashInfo => Device.flashInfo
  | segmentInfo segment => Device.segmentInfo segment
  | flashErase segment => Device.flashErase segment
  | eraseProgress segment => Device.eraseProgress segment
  | flashWrite segment offset data => Device.flashWrite segment offset data
  | syncLocked => Device.syncLocked
  | espDfuStart length md5 => Device.espDfuStart length md5
  | espDfuWrite data => Device.espDfuWrite data
  | dataRead offset width signed => Device.dataRead offset width signed
  | dataWrite offset width value => Device.dataWrite offset width value
  | dataNotify event => Device.dataNotify event

/-- The bytes of a response and what a method reads them as. They are the fields one after the
other, so that reading them takes no byte beyond the last one. -/
inductive Reads : {α : Type} → Method α → Bytes → Except WireError α → Prop
  | whole {c : Command} {b : Bytes} (h : b.length = c.responseLength) : Reads (send c) b (.ok b)
  | nothing (m : Method Unit) : Reads m [] (.ok ())
  | hasCapability (category : UInt16) (v : UInt8) :
      Reads (hasCapability category) [v] (.ok (v != 0))
  | meterInfo (slots : UInt8) {rest : Bytes} (h : rest.length = 3) :
      Reads meterInfo (slots :: rest) (.ok slots)
  | meterRead {count : UInt16} {values : List UInt32} (h : values.length = count.toNat) :
      Reads (meterRead count) (values.flatMap le32) (.ok values)
  | mixInfo (outputs inputs : UInt8) {rest : Bytes} (h : rest.length = 6) :
      Reads mixInfo (outputs :: inputs :: rest) (.ok ⟨outputs, inputs⟩)
  | mixRead (mix : UInt16) {count : UInt16} {values : List UInt16}
      (h : values.length = count.toNat) :
      Reads (mixRead mix count) (values.flatMap le16) (.ok values)
  | muxInfo (x y z : UInt16) {rest : Bytes} (h : rest.length = 6) :
      Reads muxInfo (le16 x ++ (le16 y ++ (le16 z ++ rest))) (.ok (x, y, z))
  | muxRead (mux : UInt8) {count : UInt8} {values : List UInt32}
      (h : values.length = count.toNat) :
      Reads (muxRead mux count) (values.flatMap le32) (.ok values)
  | flashInfo {size count : UInt32} {rest : Bytes} (h : rest.length = 8)
      (hsize : size.toNat ≤ flashSizeMax) (hcount : count.toNat ≤ flashCountMax) :
      Reads flashInfo (le32 size ++ (le32 count ++ rest)) (.ok ⟨size, count⟩)
  | flashSize {size : UInt32} {rest : Bytes} (h : rest.length = 12)
      (hsize : flashSizeMax < size.toNat) :
      Reads flashInfo (le32 size ++ rest) (.error (.outOfRange .flashSize size.toNat))
  | flashCount {size count : UInt32} {rest : Bytes} (h : rest.length = 8)
      (hsize : size.toNat ≤ flashSizeMax) (hcount : flashCountMax < count.toNat) :
      Reads flashInfo (le32 size ++ (le32 count ++ rest))
        (.error (.outOfRange .flashSegmentCount count.toNat))
  | segmentInfo (segment : UInt32) {size : UInt32} (flags : UInt32) (name : Octets 16)
      (hsize : size.toNat ≤ flashSizeMax) :
      Reads (segmentInfo segment) (le32 size ++ (le32 flags ++ name.bytes))
        (.ok ⟨size, flags, Text.Utf8.decodeLossy ((name.bytes.take 15).takeWhile (· != 0))⟩)
  | segmentSize (segment : UInt32) {size : UInt32} {rest : Bytes} (h : rest.length = 20)
      (hsize : flashSizeMax < size.toNat) :
      Reads (segmentInfo segment) (le32 size ++ rest)
        (.error (.outOfRange .segmentSize size.toNat))
  | eraseProgress (segment : UInt32) (v : UInt8) : Reads (eraseProgress segment) [v] (.ok v)
  | syncLocked (v : UInt32) : Reads syncLocked (le32 v) (.ok (v != 0))
  | dataByte (offset : UInt32) (signed : Bool) (v : UInt8) :
      Reads (dataRead offset .one signed) [v]
        (.ok (if signed then v.toInt8.toInt32 else v.toUInt32.toInt32))
  | dataHalf (offset : UInt32) (signed : Bool) (v : UInt16) :
      Reads (dataRead offset .two signed) (le16 v)
        (.ok (if signed then v.toInt16.toInt32 else v.toUInt32.toInt32))
  | dataWord (offset : UInt32) (signed : Bool) (v : UInt32) :
      Reads (dataRead offset .four signed) (le32 v) (.ok v.toInt32)

/-- What comes of a method: it is refused without a call, or it calls the device once and fails as
the call does or reads the response. -/
inductive Answered (m : Method α) : List Event → Except TransportError α → Prop
  | refused {quantity : Quantity} {value : Nat}
      (h : m.command.validate = .error (.outOfRange quantity value)) :
      Answered m [] (.error (.wire (.outOfRange quantity value)))
  | spoilt (h : m.command.validate = .ok ()) {reply : Except TransportError Bytes}
      {e : TransportError} (hreply : Spoilt m.command reply e) :
      Answered m [.sent m.command reply] (.error e)
  | read (h : m.command.validate = .ok ()) {b : Bytes} {r : Except WireError α}
      (hb : b.length = m.command.responseLength) (hr : m.Reads b r) :
      Answered m [.sent m.command (.ok b)] (r.mapError .wire)

theorem reads_meterInfo {b : Bytes} (h : b.length = 4) : Reads meterInfo b (Reply.meterInfo b) := by
  rw [Reply.meterInfo, expectLength_bind h]
  obtain ⟨slots, rest, rfl, hrest⟩ := Bytes.exists_byte h
  exact .meterInfo slots hrest

theorem reads_mixInfo {b : Bytes} (h : b.length = 8) : Reads mixInfo b (Reply.mixInfo b) := by
  rw [Reply.mixInfo, expectLength_bind h]
  obtain ⟨outputs, later, rfl, hlater⟩ := Bytes.exists_byte h
  obtain ⟨inputs, rest, rfl, hrest⟩ := Bytes.exists_byte hlater
  exact .mixInfo outputs inputs hrest

theorem reads_muxInfo {b : Bytes} (h : b.length = 12) : Reads muxInfo b (Reply.muxInfo b) := by
  rw [Reply.muxInfo, expectLength_bind h]
  obtain ⟨x, b₁, rfl, h₁⟩ := Bytes.exists_le16 h
  obtain ⟨y, b₂, rfl, h₂⟩ := Bytes.exists_le16 h₁
  obtain ⟨z, rest, rfl, hrest⟩ := Bytes.exists_le16 h₂
  have hx := Bytes.le16At_append x (le16 y ++ (le16 z ++ rest))
  have hy : (le16 x ++ (le16 y ++ (le16 z ++ rest))).le16At 2 = y :=
    Bytes.le16At_append y (le16 z ++ rest)
  have hz : (le16 x ++ (le16 y ++ (le16 z ++ rest))).le16At 4 = z :=
    Bytes.le16At_append z rest
  rw [hx, hy, hz]
  exact .muxInfo x y z hrest

theorem reads_flashInfo {b : Bytes} (h : b.length = 16) :
    Reads flashInfo b (Reply.flashInfo b) := by
  rw [Reply.flashInfo, expectLength_bind h]
  obtain ⟨size, later, rfl, hlater⟩ := Bytes.exists_le32 h
  obtain ⟨count, rest, rfl, hrest⟩ := Bytes.exists_le32 hlater
  have hsize := Bytes.le32At_append size (le32 count ++ rest)
  have hcount : (le32 size ++ (le32 count ++ rest)).le32At 4 = count :=
    Bytes.le32At_append count rest
  simp only [hsize, hcount]
  -- the size is checked first, so the count only matters where the size fits
  rcases Nat.lt_or_ge flashSizeMax size.toNat with hlarge | hfits
  · rw [Command.checkSize_of_lt hlarge]
    exact .flashSize hlater hlarge
  rw [Command.checkSize_of_le hfits]
  rcases Nat.lt_or_ge flashCountMax count.toNat with hmany | hfew
  · rw [Command.checkSize_of_lt hmany]
    exact .flashCount hrest hfits hmany
  · rw [Command.checkSize_of_le hfew]
    exact .flashInfo hrest hfits hfew

theorem reads_segmentInfo {segment : UInt32} {b : Bytes} (h : b.length = 24) :
    Reads (segmentInfo segment) b (Reply.segmentInfo b) := by
  rw [Reply.segmentInfo, expectLength_bind h]
  obtain ⟨size, later, rfl, hlater⟩ := Bytes.exists_le32 h
  obtain ⟨flags, name, rfl, hname⟩ := Bytes.exists_le32 hlater
  have hsize := Bytes.le32At_append size (le32 flags ++ name)
  have hflags : (le32 size ++ (le32 flags ++ name)).le32At 4 = flags :=
    Bytes.le32At_append flags name
  simp only [hsize, hflags]
  rcases Nat.lt_or_ge flashSizeMax size.toNat with hlarge | hfits
  · rw [Command.checkSize_of_lt hlarge]
    exact .segmentSize segment hlater hlarge
  · rw [Command.checkSize_of_le hfits]
    exact .segmentInfo segment flags ⟨name, hname⟩ hfits

theorem reads_syncLocked {b : Bytes} (h : b.length = 4) : Reads syncLocked b (Reply.sync b) := by
  rw [Reply.sync, expectLength_bind h]
  obtain ⟨v, rfl⟩ := Bytes.exists_eq_le32 h
  rw [Bytes.le32At_le32]
  exact .syncLocked v

theorem reads_dataRead {offset : UInt32} {width : Width} {signed : Bool} {b : Bytes}
    (h : b.length = width.bytes) :
    Reads (dataRead offset width signed) b (Reply.data b width signed) := by
  rw [Reply.data.eq_def, expectLength_bind h]
  cases width with
  | one =>
    obtain ⟨v, rfl⟩ := List.length_eq_one_iff.mp h
    cases signed
    · exact .dataByte offset false v
    · exact .dataByte offset true v
  | two =>
    obtain ⟨v, rfl⟩ := Bytes.exists_eq_le16 h
    rw [Bytes.le16At_le16]
    cases signed
    · exact .dataHalf offset false v
    · exact .dataHalf offset true v
  | four =>
    obtain ⟨v, rfl⟩ := Bytes.exists_eq_le32 h
    rw [Bytes.le32At_le32]
    exact .dataWord offset signed v

theorem answered_of_reads {m : Method α} {f : Bytes → Except WireError α}
    (hf : ∀ b, b.length = m.command.responseLength → m.Reads b (f b))
    {r : Except TransportError α}
    (h : (Device.send m.command >>= fun b => decoded (f b)).Runs es r) : m.Answered es r := by
  cases hc : m.command.validate with
  | error e =>
    obtain ⟨quantity, value, rfl⟩ := Command.validate_error hc
    rw [send_refused hc] at h
    obtain ⟨rfl, rfl⟩ := Procedure.runs_throw.mp h
    exact .refused hc
  | ok =>
    obtain ⟨reply, e, hreply, rfl, rfl⟩ | ⟨b, rest, hb, rfl, hrest⟩ := runs_exchange hc h
    · exact .spoilt hc hreply
    · obtain ⟨rfl, rfl⟩ := Procedure.runs_ofExcept.mp hrest
      exact .read hc hb (hf b hb)

theorem decoded_map {β : Type} (x : Except WireError α) (g : α → β) :
    (decoded x >>= fun a => pure (g a)) = decoded (x.map g) := by
  cases x <;> rfl

theorem answered (m : Method α) {r : Except TransportError α} (h : m.query.Runs es r) :
    m.Answered es r := by
  cases m with
  | send c =>
    refine answered_of_reads (f := .ok) (fun b hb => .whole hb) ?_
    exact (bind_pure (Device.send c)).symm ▸ h
  | hasCapability category =>
    refine answered_of_reads (f := fun b => (Reply.byte b).map (· != 0)) (fun b hb => ?_) ?_
    · obtain ⟨v, rfl⟩ := List.length_eq_one_iff.mp hb
      exact .hasCapability category v
    · simp only [← decoded_map]
      exact h
  -- the declared length is zero: there is nothing to read
  | reboot | mixWrite | muxWrite | flashErase | flashWrite | espDfuStart | espDfuWrite | dataWrite
  | dataNotify =>
    refine answered_of_reads (f := fun _ => .ok ()) (fun b hb => ?_) h
    rw [List.eq_nil_of_length_eq_zero hb]
    exact .nothing _
  | meterRead count =>
    refine answered_of_reads (f := fun b => .ok (Reply.words32 b)) (fun b hb => ?_) h
    obtain ⟨values, rfl, hvalues⟩ := Bytes.exists_fields Bytes.exists_le32 hb
    rw [words32_flatMap]
    exact .meterRead hvalues
  | mixRead mix count =>
    refine answered_of_reads (f := fun b => .ok (Reply.words16 b)) (fun b hb => ?_) h
    obtain ⟨values, rfl, hvalues⟩ := Bytes.exists_fields Bytes.exists_le16 hb
    rw [words16_flatMap]
    exact .mixRead mix hvalues
  | muxRead mux count =>
    refine answered_of_reads (f := fun b => .ok (Reply.words32 b)) (fun b hb => ?_) h
    obtain ⟨values, rfl, hvalues⟩ := Bytes.exists_fields Bytes.exists_le32 hb
    rw [words32_flatMap]
    exact .muxRead mux hvalues
  | meterInfo => exact answered_of_reads (fun _ hb => reads_meterInfo hb) h
  | mixInfo => exact answered_of_reads (fun _ hb => reads_mixInfo hb) h
  | muxInfo => exact answered_of_reads (fun _ hb => reads_muxInfo hb) h
  | flashInfo => exact answered_of_reads (fun _ hb => reads_flashInfo hb) h
  | segmentInfo segment =>
    exact answered_of_reads (m := segmentInfo segment) (fun _ hb => reads_segmentInfo hb) h
  | eraseProgress segment =>
    refine answered_of_reads (fun b hb => ?_) h
    obtain ⟨v, rfl⟩ := List.length_eq_one_iff.mp hb
    exact .eraseProgress segment v
  | syncLocked => exact answered_of_reads (fun _ hb => reads_syncLocked hb) h
  | dataRead offset width signed =>
    exact answered_of_reads (m := dataRead offset width signed) (fun _ hb => reads_dataRead hb) h

theorem Reads.error {m : Method α} {b : Bytes} {e : WireError} (h : m.Reads b (.error e)) :
    (∃ quantity value, e = .outOfRange quantity value) ∧
      (m.command = .flashInfo ∨ ∃ segment, m.command = .flashSegmentInfo segment) := by
  cases h with
  | flashSize | flashCount => exact ⟨⟨_, _, rfl⟩, .inl rfl⟩
  | segmentSize segment => exact ⟨⟨_, _, rfl⟩, .inr ⟨segment, rfl⟩⟩

end Method

theorem runs_array {α : Type} {c : Command} {f : Bytes → List α} {n : Nat}
    (hf : ∀ b, b.length = c.responseLength → (f b).length = n) {es : List Event} {values : List α}
    (h : (send c >>= fun b => decoded (.ok (f b))).Runs es (.ok values)) : values.length = n := by
  obtain ⟨b, -, hb, hvalues⟩ := runs_query_ok h
  cases hvalues
  exact hf b hb

inductive Exchanged : List Command → List Event → Except TransportError (List Bytes) → Prop
  | nil : Exchanged [] [] (.ok [])
  | spoilt {c : Command} {cs : List Command} {reply : Except TransportError Bytes}
      {e : TransportError} (hreply : Spoilt c reply e) :
      Exchanged (c :: cs) [.sent c reply] (.error e)
  | answered {c : Command} {cs : List Command} {b : Bytes} {es : List Event}
      {r : Except TransportError (List Bytes)} (hb : b.length = c.responseLength)
      (h : Exchanged cs es r) : Exchanged (c :: cs) (.sent c (.ok b) :: es) (r.map (b :: ·))

def blockRead (size block : Nat) : Command :=
  .devmapRead (UInt32.ofNat block) (min devmapBlockSize (size - devmapBlockSize * block))

def blockReads (size : Nat) : List Command :=
  (List.range ((size + devmapBlockSize - 1) / devmapBlockSize)).map (blockRead size)

theorem blockRead_valid (size block : Nat) : (blockRead size block).validate = .ok () :=
  Command.checkSize_of_le (Nat.min_le_left _ _)

theorem devmapBlocks_exchanged {size n block : Nat} {es : List Event}
    {r : Except TransportError Bytes} (h : (devmapBlocks size n block).Runs es r) :
    ∃ blocks, Exchanged ((List.range' block n).map (blockRead size)) es blocks ∧
      r = blocks.map List.flatten := by
  -- on the number of blocks that are left
  induction n generalizing block es r with
  | zero =>
    obtain ⟨rfl, rfl⟩ := Procedure.runs_pure.mp h
    exact ⟨.ok [], .nil, rfl⟩
  | succ n ih =>
    obtain ⟨reply, e, hreply, rfl, rfl⟩ | ⟨b, rest, hb, rfl, hrest⟩ :=
      runs_exchange (blockRead_valid size block) h
    · exact ⟨.error e, .spoilt hreply, rfl⟩
    · obtain ⟨e, hlater, rfl⟩ | ⟨later, es₁, es₂, rfl, hlater, hend⟩ := Procedure.runs_bind.mp hrest
      · obtain ⟨blocks, hblocks, he⟩ := ih hlater
        refine ⟨_, .answered hb hblocks, ?_⟩
        cases blocks with
        | error e' => exact he
        | ok blocks => cases he
      · obtain ⟨blocks, hblocks, he⟩ := ih hlater
        obtain ⟨rfl, rfl⟩ := Procedure.runs_pure.mp hend
        rw [List.append_nil]
        refine ⟨_, .answered hb hblocks, ?_⟩
        cases blocks with
        | error e' => cases he
        | ok blocks =>
          cases he
          rfl

theorem devmapSize_append (low size : UInt16) :
    Reply.devmapSize (le16 low ++ le16 size) = .ok size :=
  congrArg Except.ok (Bytes.le16At_le16 size)

inductive DevmapRead : List Event → Except TransportError Bytes → Prop
  | spoilt {reply : Except TransportError Bytes} {e : TransportError}
      (hreply : Spoilt .devmapInfo reply e) : DevmapRead [.sent .devmapInfo reply] (.error e)
  | sized (low size : UInt16) {es : List Event} {blocks : Except TransportError (List Bytes)}
      (h : Exchanged (blockReads size.toNat) es blocks) :
      DevmapRead (.sent .devmapInfo (.ok (le16 low ++ le16 size)) :: es) (blocks.map List.flatten)

theorem devmap_read {es : List Event} {r : Except TransportError Bytes} (h : devmap.Runs es r) :
    DevmapRead es r := by
  obtain ⟨reply, e, hreply, rfl, rfl⟩ | ⟨b, rest, hb, rfl, hrest⟩ := runs_exchange rfl h
  · exact .spoilt hreply
  · obtain ⟨low, later, rfl, hlater⟩ := Bytes.exists_le16 hb
    obtain ⟨size, rfl⟩ := Bytes.exists_eq_le16 hlater
    rw [devmapSize_append] at hrest
    obtain ⟨blocks, hblocks, rfl⟩ := devmapBlocks_exchanged hrest
    rw [← List.range_eq_range'] at hblocks
    exact .sized low size hblocks

/-- For every device and every method: arguments out of range are refused without a call. Otherwise
the device is called once with the operation code, the request and the declared length of the
response of each command, a response of another length is refused with both lengths, and one of the
declared length is read, which can only fail on what flash memory tells of its sizes. Arrays have as
many values as were asked for. -/
theorem methods_answered {σ : Type} (t : Transport σ) (device : σ) :
    (∀ {α : Type} (m : Method α),
      let run := m.query.perform t device;
      m.Answered run.2.events.reverse run.1 ∧ t.Gives device run.2.events.reverse run.2.device) ∧
    (let run := devmap.perform t device;
      DevmapRead run.2.events.reverse run.1 ∧ t.Gives device run.2.events.reverse run.2.device) ∧
    (∀ size, ∀ c ∈ blockReads size, c.validate = .ok ()) ∧
    (∀ {α : Type} (m : Method α) b e, m.Reads b (.error e) →
      (∃ quantity value, e = .outOfRange quantity value) ∧
        (m.command = .flashInfo ∨ ∃ segment, m.command = .flashSegmentInfo segment)) ∧
    (∀ count values, ((meterRead count).perform t device).1 = .ok values →
      values.length = count.toNat) ∧
    (∀ mix count values, ((mixRead mix count).perform t device).1 = .ok values →
      values.length = count.toNat) ∧
    ∀ mux count values, ((muxRead mux count).perform t device).1 = .ok values →
      values.length = count.toNat := by
  refine ⟨fun m => ⟨?_, Procedure.gives_perform t _ device⟩,
    ⟨?_, Procedure.gives_perform t _ device⟩, ?_, ?_, ?_, ?_, ?_⟩
  · exact m.answered (Procedure.runs_perform t _ device)
  · exact devmap_read (Procedure.runs_perform t _ device)
  · rintro size c hc
    obtain ⟨block, -, rfl⟩ := List.mem_map.mp hc
    exact blockRead_valid size block
  · exact fun m b e h => h.error
  · intro count values h
    have hruns := Procedure.runs_perform t (meterRead count) device
    rw [h] at hruns
    exact runs_array (fun _ => length_words32) hruns
  · intro mix count values h
    have hruns := Procedure.runs_perform t (mixRead mix count) device
    rw [h] at hruns
    exact runs_array (fun _ => length_words16) hruns
  · intro mux count values h
    have hruns := Procedure.runs_perform t (muxRead mux count) device
    rw [h] at hruns
    exact runs_array (fun _ => length_words32) hruns

end Device

end CardFirmware
