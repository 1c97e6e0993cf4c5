import CardFirmware.Proofs.Control.Reassembly

/-! What reassembly keeps is bounded. Whatever comes out takes a header off the buffer, so emptying
it ends, and what is left then is less than one message (`buffer_bounded`). Each thing that comes
out is made of the bytes of its own stretch of the stream, and no two of these stretches overlap, so
nothing of a refused message gets into a request. -/

namespace CardFirmware

namespace Header

variable {h : Header} {max : UInt32}

def outcome (h : Header) (max : UInt32) (payload : Bytes) : Except WireError Request :=
  match h.refusal max with
  | some e => .error e
  | none => .ok ⟨h.type, payload⟩

theorem outcome_of_refusal {e : WireError} (he : h.refusal max = some e) (payload : Bytes) :
    h.outcome max payload = .error e := by
  rw [outcome, he]

theorem outcome_of_accepted (ha : h.refusal max = none) (payload : Bytes) :
    h.outcome max payload = .ok ⟨h.type, payload⟩ := by
  rw [outcome, ha]

end Header

structure Span where
  start : Nat
  header : Header
  deriving DecidableEq

namespace Span

def stop (s : Span) : Nat := s.start + headerLength + s.header.payloadLength.toNat

theorem start_le_stop (s : Span) : s.start ≤ s.stop := by
  rw [stop, Nat.add_assoc]
  exact Nat.le_add_right _ _

def item (max : UInt32) (stream : Bytes) (s : Span) : Except WireError Request :=
  s.header.outcome max
    ((stream.drop (s.start + headerLength)).take s.header.payloadLength.toNat)

end Span

namespace Reassembly

variable {r r' w : Reassembly}

/-- What asking for the next message does: nothing comes out, and less than a message is kept; or
the message at the front comes out with its header, and of a refused payload the rest is skipped. -/
inductive Asked (r : Reassembly) : Except WireError (Option Request) × Reassembly → Prop
  | waits {w : Reassembly} (hbuffer : w.buffer.toList = r.buffer.toList)
      (hdiscard : w.discard = r.discard) (hmax : w.maxPayload = r.maxPayload)
      (hlt : r.buffer.size < headerLength + r.maxPayload.toNat) : Asked r (.ok none, w)
  | taken {h : Header} {rest : Bytes} {r' : Reassembly} (hd : r.discard = 0)
      (hread : Header.read r.buffer.toList = some (h, rest))
      (hfits : h.refusal r.maxPayload = none → h.payloadLength.toNat ≤ rest.length)
      (hbuffer : r'.buffer.toList = rest.drop h.payloadLength.toNat)
      (hdiscard : r'.discard = h.payloadLength.toNat - rest.length)
      (hmax : r'.maxPayload = r.maxPayload) :
      Asked r ((h.outcome r.maxPayload (rest.take h.payloadLength.toNat)).map some, r')

theorem lt_headerLength_of_read (hread : Header.read r.buffer.toList = none) :
    r.buffer.size < headerLength := by
  refine Nat.lt_of_not_le fun hle => ?_
  rw [← ByteQueue.length_toList] at hle
  obtain ⟨h, rest, heq⟩ := Header.exists_eq_encode hle
  rw [heq, Header.read_encode] at hread
  cases hread

theorem asked_of_refusal {h : Header} {rest : Bytes} {e : WireError} (hr : r.Valid)
    (hd : r.discard = 0) (hread : Header.read r.buffer.toList = some (h, rest))
    (he : h.refusal r.maxPayload = some e) : r.Asked r.next := by
  have hrest : r.buffer.toList.drop headerLength = rest := Header.drop_of_read hread
  have hitem := Header.outcome_of_refusal he (rest.take h.payloadLength.toNat)
  have htaken : r.Asked ((h.outcome r.maxPayload (rest.take h.payloadLength.toNat)).map some,
      r.reject h) := by
    refine .taken hd hread (fun ha => ?_) ?_ ?_ ?_
    · rw [he] at ha
      cases ha
    · simp [reject, hrest]
    · simp [reject, ByteQueue.drop, size_of_read hread]
    · simp [reject]
  rw [hitem] at htaken
  rw [next_of_refusal hr hd hread he]
  exact htaken

theorem asked_of_accepted {h : Header} {rest : Bytes} (hr : r.Valid) (hd : r.discard = 0)
    (hread : Header.read r.buffer.toList = some (h, rest))
    (ha : h.refusal r.maxPayload = none) : r.Asked r.next := by
  rcases Nat.lt_or_ge rest.length h.payloadLength.toNat with hlt | hle
  · have hmax := UInt32.le_iff_toNat_le.mp (Header.refusal_eq_none.mp ha).2
    rw [(rests_of_incomplete hr hd hread ha hlt).next_eq]
    refine .waits rfl rfl rfl ?_
    rw [size_of_read hread]
    omega
  · have hitem := Header.outcome_of_accepted ha (rest.take h.payloadLength.toNat)
    have hrest : r.buffer.toList.drop headerLength = rest := Header.drop_of_read hread
    rw [(yields_request hr hd hread ha hle).next_eq, ← hitem]
    refine .taken hd hread (fun _ => hle) ?_ ?_ rfl
    · rw [← hrest, List.drop_drop]
      rfl
    · rw [hd, Nat.sub_eq_zero_of_le hle]

theorem asked (hr : r.Valid) : r.Asked r.next := by
  rcases Nat.eq_zero_or_pos r.discard with hd | hd
  · match hread : Header.read r.buffer.toList with
    | none =>
      rw [(rests_of_read_none hr hd hread).next_eq]
      refine .waits rfl rfl rfl ?_
      have hshort := lt_headerLength_of_read hread
      omega
    | some (h, rest) =>
      match hrefusal : h.refusal r.maxPayload with
      | some e => exact asked_of_refusal hr hd hread hrefusal
      | none => exact asked_of_accepted hr hd hread hrefusal
  · have hsize : r.buffer.size = 0 := by
      rw [← ByteQueue.length_toList, (hr.skipping hd).1, List.length_nil]
    rw [(rests_of_discarding hr hd).next_eq]
    refine .waits ?_ ?_ r.maxPayload_skipDiscarded ?_
    · rw [toList_skipDiscarded, (hr.skipping hd).1, List.drop_nil]
    · rw [discard_skipDiscarded, hsize, Nat.sub_zero]
    · rw [hsize, headerLength]
      omega

theorem valid_next (hr : r.Valid) : r.next.2.Valid := by
  rcases rests_or_yields hr with ⟨w, hw⟩ | ⟨item, r', hitem⟩
  · rw [hw.next_eq]
    exact hw.valid
  · rw [hitem.next_eq]
    exact hitem.valid

theorem size_le_of_next (hr : r.Valid) {item : Except WireError Request}
    (hnext : r.next = (item.map some, r')) : r'.buffer.size + headerLength ≤ r.buffer.size := by
  rcases rests_or_yields hr with ⟨w, hw⟩ | ⟨item', w, hitem⟩
  · rw [hw.next_eq] at hnext
    cases item <;> cases hnext
  · rw [hitem.next_eq] at hnext
    rw [← (Prod.mk.inj hnext).2]
    exact hitem.size_le

theorem lt_of_next (hr : r.Valid) (hnext : r.next = (.ok none, w)) :
    w.buffer.size = r.buffer.size ∧ w.buffer.size < headerLength + r.maxPayload.toNat := by
  have hasked := asked hr
  generalize hresult : (.ok none : Except WireError (Option Request)) = result at hnext
  rw [hnext] at hasked
  cases hasked with
  | waits hbuffer _ _ hlt =>
    have hsize : w.buffer.size = r.buffer.size := by
      rw [← ByteQueue.length_toList, hbuffer, ByteQueue.length_toList]
    exact ⟨hsize, hsize ▸ hlt⟩
  | taken =>
    unfold Header.outcome at hresult
    split at hresult <;> cases hresult

theorem Asked.maxPayload_eq {result : Except WireError (Option Request) × Reassembly}
    (h : r.Asked result) : result.2.maxPayload = r.maxPayload := by
  cases h with
  | waits _ _ hmax => exact hmax
  | taken _ _ _ _ _ hmax => exact hmax

inductive Emptied : Reassembly → List (Except WireError Request) → Reassembly → Prop
  | waits {r w : Reassembly} (hnext : r.next = (.ok none, w)) : Emptied r [] w
  | taken {r r' w : Reassembly} {item : Except WireError Request}
      {items : List (Except WireError Request)} (hnext : r.next = (item.map some, r'))
      (hrest : Emptied r' items w) : Emptied r (item :: items) w

theorem emptied_go (hr : r.Valid) {fuel : Nat} (hfuel : r.buffer.size < fuel) :
    Emptied r (drain.go fuel r).1 (drain.go fuel r).2 := by
  induction fuel generalizing r with
  | zero => cases hfuel
  | succ fuel ih =>
    rcases rests_or_yields hr with ⟨w, hw⟩ | ⟨item, r', hitem⟩
    · have hgo : drain.go (fuel + 1) r = ([], w) := by rw [drain.go, hw.next_eq]
      rw [hgo]
      exact .waits hw.next_eq
    · have hsize := hitem.size_le
      rw [headerLength] at hsize
      rw [drain_go_succ_of_yields fuel hitem]
      exact .taken hitem.next_eq (ih hitem.valid (by omega))

theorem Emptied.bounded {items : List (Except WireError Request)} (h : Emptied r items w)
    (hr : r.Valid) :
    items.length * headerLength + w.buffer.size ≤ r.buffer.size ∧
      w.buffer.size < headerLength + r.maxPayload.toNat := by
  induction h with
  | waits hnext =>
    obtain ⟨hsize, hlt⟩ := lt_of_next hr hnext
    refine ⟨?_, hlt⟩
    rw [List.length_nil, Nat.zero_mul, Nat.zero_add]
    exact Nat.le_of_eq hsize
  | @taken r r' w item items hnext _ ih =>
    have hvalid := valid_next hr
    have hmax := (asked hr).maxPayload_eq
    have hsize := size_le_of_next hr hnext
    rw [hnext] at hvalid hmax
    obtain ⟨hle, hlt⟩ := ih hvalid
    rw [hmax] at hlt
    refine ⟨?_, hlt⟩
    rw [List.length_cons, Nat.succ_mul]
    omega

/-- The items are what comes out for the messages that stand one after the other at the front of the
stream, up to a position that the last payload may not have reached yet. -/
inductive Framed (max : UInt32) (stream : Bytes) :
    List Span → List (Except WireError Request) → Nat → Prop
  | nil : Framed max stream [] [] 0
  | concat {spans : List Span} {items : List (Except WireError Request)} {n : Nat} {h : Header}
      {rest : Bytes} (hspans : Framed max stream spans items n)
      (hread : Header.read (stream.drop n) = some (h, rest))
      (hfits : h.refusal max = none → h.payloadLength.toNat ≤ rest.length) :
      Framed max stream (spans ++ [⟨n, h⟩])
        (items ++ [h.outcome max (rest.take h.payloadLength.toNat)]) (Span.stop ⟨n, h⟩)

namespace Framed

variable {max : UInt32} {stream : Bytes} {spans : List Span}
  {items : List (Except WireError Request)} {n : Nat}

theorem add_length_of_read {h : Header} {rest : Bytes}
    (hread : Header.read (stream.drop n) = some (h, rest)) :
    n + headerLength + rest.length = stream.length := by
  have hlength := Header.length_of_read hread
  rw [List.length_drop, headerLength] at hlength
  rw [headerLength]
  omega

theorem append (h : Framed max stream spans items n) (more : Bytes) :
    Framed max (stream ++ more) spans items n := by
  induction h with
  | nil => exact .nil
  | @concat spans items n h rest _ hread hfits ih =>
    have hlength := add_length_of_read hread
    have hread' : Header.read ((stream ++ more).drop n) = some (h, rest ++ more) := by
      rw [List.drop_append_of_le_length (by omega)]
      exact Header.read_append hread more
    -- an accepted payload has arrived, and of a refused one nothing comes out
    have hitem : h.outcome max ((rest ++ more).take h.payloadLength.toNat) =
        h.outcome max (rest.take h.payloadLength.toNat) := by
      cases hrefusal : h.refusal max with
      | some e => rw [Header.outcome_of_refusal hrefusal, Header.outcome_of_refusal hrefusal]
      | none => rw [List.take_append_of_le_length (hfits hrefusal)]
    rw [← hitem]
    refine .concat ih hread' fun ha => ?_
    rw [List.length_append]
    exact Nat.le_add_right_of_le (hfits ha)

theorem items_eq (h : Framed max stream spans items n) :
    items = spans.map (Span.item max stream) := by
  induction h with
  | nil => rfl
  | @concat spans items n h rest _ hread _ ih =>
    have hrest : stream.drop (n + headerLength) = rest := by
      rw [← List.drop_drop, Header.drop_of_read hread]
    rw [List.map_append, ← ih, List.map_singleton, Span.item, hrest]

theorem header_eq (h : Framed max stream spans items n) :
    ∀ s ∈ spans, (stream.drop s.start).take headerLength = s.header.encode := by
  induction h with
  | nil => exact fun s hs => absurd hs List.not_mem_nil
  | @concat spans items n h rest _ hread _ ih =>
    refine List.forall_mem_append.mpr ⟨ih, List.forall_mem_singleton.mpr ?_⟩
    exact Header.take_of_read hread

theorem stop_le_length (h : Framed max stream spans items n) :
    ∀ s ∈ spans, s.header.refusal max = none → s.stop ≤ stream.length := by
  induction h with
  | nil => exact fun s hs => absurd hs List.not_mem_nil
  | @concat spans items n h rest _ hread hfits ih =>
    refine List.forall_mem_append.mpr ⟨ih, List.forall_mem_singleton.mpr fun ha => ?_⟩
    rw [← add_length_of_read hread]
    exact Nat.add_le_add_left (hfits ha) _

theorem stop_le (h : Framed max stream spans items n) : ∀ s ∈ spans, s.stop ≤ n := by
  induction h with
  | nil => exact fun s hs => absurd hs List.not_mem_nil
  | @concat spans items n h rest _ _ _ ih =>
    refine List.forall_mem_append.mpr ⟨fun s hs => ?_,
      List.forall_mem_singleton.mpr (Nat.le_refl _)⟩
    exact Nat.le_trans (ih s hs) (Span.start_le_stop ⟨n, h⟩)

theorem apart (h : Framed max stream spans items n) :
    spans.Pairwise fun s t => s.stop ≤ t.start := by
  induction h with
  | nil => exact .nil
  | concat hspans _ _ ih =>
    refine List.pairwise_append.mpr ⟨ih, List.pairwise_singleton _ _, fun s hs => ?_⟩
    exact List.forall_mem_singleton.mpr (hspans.stop_le s hs)

end Framed

/-- What has come out and what is kept are made of the stream: the items up to a position, the
buffer of what is behind it, and as much is still skipped as the position lies beyond the stream. -/
structure Accounts (max : UInt32) (stream : Bytes) (spans : List Span)
    (items : List (Except WireError Request)) (n : Nat) (r : Reassembly) : Prop where
  valid : r.Valid
  maxPayload_eq : r.maxPayload = max
  framed : Framed max stream spans items n
  buffer_eq : r.buffer.toList = stream.drop n
  discard_eq : r.discard = n - stream.length

namespace Accounts

variable {max : UInt32} {stream : Bytes} {spans : List Span}
  {items : List (Except WireError Request)} {n : Nat}

theorem extend (h : Accounts max stream spans items n r) (data : Bytes) :
    Accounts max (stream ++ data) spans items n (r.extend data) := by
  refine ⟨valid_extend h.valid data, h.maxPayload_eq, h.framed.append data, ?_, ?_⟩
  · simp only [Reassembly.extend, ByteQueue.toList_append, h.buffer_eq, h.discard_eq,
      List.drop_append]
  · simp only [Reassembly.extend, h.discard_eq, List.length_append]
    omega

theorem next (h : Accounts max stream spans items n r) :
    ∃ spans' n', Accounts max stream spans' (items ++ emitted r.next.1) n' r.next.2 := by
  have hvalid := valid_next h.valid
  have hasked := asked h.valid
  have hmax := hasked.maxPayload_eq.trans h.maxPayload_eq
  generalize r.next = result at hvalid hasked hmax
  cases hasked with
  | waits hbuffer hdiscard =>
    refine ⟨spans, n, hvalid, hmax, ?_, hbuffer.trans h.buffer_eq, hdiscard.trans h.discard_eq⟩
    rw [emitted, List.append_nil]
    exact h.framed
  | @taken h' rest r' hd hread hfits hbuffer hdiscard =>
    rw [h.buffer_eq] at hread
    rw [h.maxPayload_eq] at hfits hvalid ⊢
    have hlength := Framed.add_length_of_read hread
    have hitem : emitted ((h'.outcome max (rest.take h'.payloadLength.toNat)).map some) =
        [h'.outcome max (rest.take h'.payloadLength.toNat)] := by
      cases h'.outcome max (rest.take h'.payloadLength.toNat) <;> rfl
    refine ⟨spans ++ [⟨n, h'⟩], Span.stop ⟨n, h'⟩, hvalid, hmax, ?_, ?_, ?_⟩
    · rw [hitem]
      exact .concat h.framed hread hfits
    · rw [hbuffer, Span.stop, ← List.drop_drop, ← List.drop_drop, Header.drop_of_read hread]
    · simp only [hdiscard, Span.stop]
      omega

theorem play (h : Accounts max stream spans items n r) (steps : List Step) :
    ∃ spans' n', Accounts max (stream ++ arrived steps) spans' (items ++ (play steps r).1) n'
      (play steps r).2 := by
  induction steps generalizing stream spans items n r with
  | nil =>
    refine ⟨spans, n, ?_⟩
    rw [arrived, Reassembly.play, List.append_nil, List.append_nil]
    exact h
  | cons step steps ih =>
    cases step with
    | arrive data =>
      have hlater := ih (h.extend data)
      rw [List.append_assoc] at hlater
      exact hlater
    | ask =>
      obtain ⟨spans', n', hnext⟩ := h.next
      have hlater := ih hnext
      rw [List.append_assoc] at hlater
      exact hlater

end Accounts

theorem accounts_play (max : UInt32) (steps : List Step) :
    ∃ spans n, Accounts max (arrived steps) spans (play steps { maxPayload := max }).1 n
      (play steps { maxPayload := max }).2 := by
  have hstart : Accounts max [] [] [] 0 { maxPayload := max } :=
    ⟨valid_empty max, rfl, .nil, rfl, rfl⟩
  exact hstart.play steps

theorem total_of_valid (hr : r.Valid) {total : Nat} (ht : r.total = some total) :
    ∃ h : Header, r.buffer.toList.take headerLength = h.encode ∧ h.magic = requestMagic ∧
      total = headerLength + h.payloadLength.toNat ∧
      total ≤ headerLength + r.maxPayload.toNat := by
  obtain ⟨h, rest, hread, ha, rfl⟩ := hr.accepted total ht
  obtain ⟨hmagic, hlarge⟩ := Header.refusal_eq_none.mp ha
  refine ⟨h, Header.take_of_read hread, hmagic, rfl, ?_⟩
  exact Nat.add_le_add_left (UInt32.le_iff_toNat_le.mp hlarge) _

theorem length_le_of_emptied {items : List (Except WireError Request)} (h : Emptied r items w)
    (hr : r.Valid) : items.length ≤ r.buffer.size / headerLength := by
  have hbounded := (h.bounded hr).1
  exact (Nat.le_div_iff_mul_le (by decide)).mpr (Nat.le_of_add_right_le hbounded)

/-- Whatever arrives and whenever messages are asked for: nothing is kept while something is
skipped, a known length is that of the accepted header at the front, whatever comes out takes a
header off the buffer, and emptying it ends with less than one message left. What has come out is
made of messages of the stream that do not overlap, a request of the bytes behind its own header. -/
theorem buffer_bounded (max : UInt32) (steps : List Step) :
    let (items, r) := play steps { maxPayload := max }
    let stream := arrived steps
    (r.isDiscarding = true → r.buffer.size = 0 ∧ r.total = none) ∧
    (∀ total, r.total = some total → ∃ h : Header,
      r.buffer.toList.take headerLength = h.encode ∧ h.magic = requestMagic ∧
        total = headerLength + h.payloadLength.toNat ∧ total ≤ headerLength + max.toNat) ∧
    (∀ (item : Except WireError Request) r', r.next = (item.map some, r') →
      r'.buffer.size + headerLength ≤ r.buffer.size) ∧
    Emptied r r.drain.1 r.drain.2 ∧
    (∀ items' w, Emptied r items' w →
      items'.length ≤ r.buffer.size / headerLength ∧ w.buffer.size < headerLength + max.toNat) ∧
    ∃ (spans : List Span) (n : Nat), items = spans.map (Span.item max stream) ∧
      (∀ s ∈ spans, (stream.drop s.start).take headerLength = s.header.encode ∧ s.stop ≤ n ∧
        (s.header.refusal max = none → s.stop ≤ stream.length)) ∧
      (spans.Pairwise fun s t => s.stop ≤ t.start) ∧ r.buffer.toList = stream.drop n := by
  obtain ⟨spans, n, h⟩ := accounts_play max steps
  have hmax := h.maxPayload_eq
  refine ⟨fun hd => ?_, fun total ht => ?_, fun item r' hnext => size_le_of_next h.valid hnext,
    emptied_go h.valid (Nat.lt_succ_self _), fun items w hw => ?_, ?_⟩
  · obtain ⟨hbuffer, htotal⟩ := h.valid.skipping (of_decide_eq_true hd)
    rw [← ByteQueue.length_toList, hbuffer]
    exact ⟨rfl, htotal⟩
  · have hheader := total_of_valid h.valid ht
    rw [hmax] at hheader
    exact hheader
  · have hlt := (hw.bounded h.valid).2
    rw [hmax] at hlt
    exact ⟨length_le_of_emptied hw h.valid, hlt⟩
  · refine ⟨spans, n, h.framed.items_eq, fun s hs => ?_, h.framed.apart, h.buffer_eq⟩
    exact ⟨h.framed.header_eq s hs, h.framed.stop_le s hs, h.framed.stop_le_length s hs⟩

example : play [.arrive [0x53, 0, 3, 0, 0, 0, 7], .ask,
      .arrive [7, 7, 0x53, 1, 1, 0, 0, 0, 9], .ask] { maxPayload := 2 } =
    ([.error (.payloadTooLarge 3 2), .ok ⟨1, [9]⟩], { maxPayload := 2 }) := by
  rfl

end Reassembly

end CardFirmware
