import CardFirmware.Proofs.Control.Reading

/-! Reassembly does not depend on how a stream arrives. What comes out of any schedule of arrivals
and requests for a message is what one reading of the whole stream gives
(`play_eq_readRequests`), because every state owes what a reading of its buffer and of all that may
follow would give. -/

namespace CardFirmware

namespace Reassembly

variable {r r' : Reassembly}

/-- While something is skipped nothing is kept, and a known length is that of the accepted message
at the front. -/
structure Valid (r : Reassembly) : Prop where
  skipping : 0 < r.discard → r.buffer.toList = [] ∧ r.total = none
  accepted : ∀ total, r.total = some total → ∃ h rest,
    Header.read r.buffer.toList = some (h, rest) ∧ h.refusal r.maxPayload = none ∧
      total = headerLength + h.payloadLength.toNat

theorem valid_empty (max : UInt32) : Valid { maxPayload := max } := by
  constructor
  · intro hd
    cases hd
  · intro total ht
    cases ht

def leftover (r : Reassembly) : Leftover := ⟨r.buffer.toList, r.total, r.discard⟩

/-- What is still to come out, and be left over, when `more` has arrived. -/
def owed (r : Reassembly) (more : Bytes) : List (Except WireError Request) × Leftover :=
  readRequests r.maxPayload r.discard (r.buffer.toList ++ more)

theorem valid_extend (hr : r.Valid) (data : Bytes) : (r.extend data).Valid := by
  constructor
  · intro hd
    have hd' : data.length < r.discard := by
      simp only [extend] at hd
      omega
    obtain ⟨hbuffer, htotal⟩ := hr.skipping (by omega)
    simp only [extend, ByteQueue.toList_append, hbuffer, List.nil_append]
    exact ⟨List.drop_eq_nil_of_le (Nat.le_of_lt hd'), htotal⟩
  · intro total ht
    obtain ⟨h, rest, hread, hrefusal, rfl⟩ := hr.accepted total ht
    refine ⟨h, rest ++ data.drop r.discard, ?_, hrefusal, rfl⟩
    simp only [extend, ByteQueue.toList_append]
    exact Header.read_append hread _

theorem owed_extend (hr : r.Valid) (data more : Bytes) :
    (r.extend data).owed more = r.owed (data ++ more) := by
  simp only [owed, extend, ByteQueue.toList_append]
  rcases Nat.eq_zero_or_pos r.discard with hd | hd
  · rw [hd, Nat.zero_sub, List.drop_zero, List.append_assoc]
  -- nothing is kept while something is skipped, so the bytes dropped are those a reading skips
  · rw [(hr.skipping hd).1, List.nil_append, List.nil_append, ← readRequests_skip]

@[simp] theorem toList_skipDiscarded (r : Reassembly) :
    r.skipDiscarded.buffer.toList = r.buffer.toList.drop r.discard := by
  unfold skipDiscarded isDiscarding
  split
  · rfl
  · next hd => simp_all

@[simp] theorem discard_skipDiscarded (r : Reassembly) :
    r.skipDiscarded.discard = r.discard - r.buffer.size := by
  unfold skipDiscarded isDiscarding
  split
  · rfl
  · next hd => simp_all

@[simp] theorem total_skipDiscarded (r : Reassembly) : r.skipDiscarded.total = r.total := by
  unfold skipDiscarded
  split <;> rfl

@[simp] theorem maxPayload_skipDiscarded (r : Reassembly) :
    r.skipDiscarded.maxPayload = r.maxPayload := by
  unfold skipDiscarded
  split <;> rfl

theorem skipDiscarded_of_zero (hd : r.discard = 0) : r.skipDiscarded = r := by
  simp [skipDiscarded, isDiscarding, hd]

structure Rests (r w : Reassembly) : Prop where
  next_eq : r.next = (.ok none, w)
  again : w.next = (.ok none, w)
  valid : w.Valid
  owed_eq : ∀ more, w.owed more = r.owed more
  owed_nil : r.owed [] = ([], w.leftover)

structure Yields (r : Reassembly) (item : Except WireError Request) (r' : Reassembly) : Prop where
  next_eq : r.next = (item.map some, r')
  valid : r'.Valid
  size_le : r'.buffer.size + headerLength ≤ r.buffer.size
  owed_eq : ∀ more, r.owed more = (item :: (r'.owed more).1, (r'.owed more).2)

theorem next_of_pos (hd : 0 < r.skipDiscarded.discard) : r.next = (.ok none, r.skipDiscarded) := by
  simp only [next, if_pos hd]

theorem rests_of_discarding (hr : r.Valid) (hd : 0 < r.discard) : r.Rests r.skipDiscarded := by
  obtain ⟨hbuffer, htotal⟩ := hr.skipping hd
  have hsize : r.buffer.size = 0 := by rw [← ByteQueue.length_toList, hbuffer, List.length_nil]
  have hd' : 0 < r.skipDiscarded.discard := by
    rw [discard_skipDiscarded, hsize]
    exact hd
  have hagain : r.skipDiscarded.skipDiscarded = r.skipDiscarded := by
    have hdrop : (r.buffer.drop r.discard).toList = [] := by
      rw [ByteQueue.toList_drop, hbuffer, List.drop_nil]
    rw [skipDiscarded, isDiscarding, decide_eq_true hd', if_pos rfl]
    simp [skipDiscarded, isDiscarding, hd, hsize, ByteQueue.drop, hbuffer]
  refine ⟨next_of_pos hd', ?_, ?_, ?_, ?_⟩
  · have hnext := next_of_pos (r := r.skipDiscarded) (by rw [hagain]; exact hd')
    rw [hagain] at hnext
    exact hnext
  · constructor
    · intro _
      rw [toList_skipDiscarded, total_skipDiscarded, hbuffer]
      exact ⟨List.drop_nil, htotal⟩
    · intro total ht
      rw [total_skipDiscarded, htotal] at ht
      cases ht
  · intro more
    simp [owed, hbuffer, hsize]
  · rw [owed, hbuffer, List.nil_append, readRequests_of_length_lt hd]
    simp [leftover, hbuffer, htotal, hsize]

variable {h : Header} {rest : Bytes}

theorem size_of_read (hread : Header.read r.buffer.toList = some (h, rest)) :
    r.buffer.size = headerLength + rest.length := by
  rw [← ByteQueue.length_toList, Header.length_of_read hread]

theorem total_of_refusal {e : WireError} (hr : r.Valid)
    (hread : Header.read r.buffer.toList = some (h, rest)) (he : h.refusal r.maxPayload = some e) :
    r.total = none := by
  match ht : r.total with
  | none => rfl
  | some total =>
    obtain ⟨h', rest', hread', ha, -⟩ := hr.accepted total ht
    rw [hread] at hread'
    cases hread'
    rw [he] at ha
    cases ha

theorem next_of_refusal {e : WireError} (hr : r.Valid) (hd : r.discard = 0)
    (hread : Header.read r.buffer.toList = some (h, rest)) (he : h.refusal r.maxPayload = some e) :
    r.next = (.error e, r.reject h) := by
  have htotal := total_of_refusal hr hread he
  simp only [next, skipDiscarded_of_zero hd, hd, Nat.lt_irrefl, if_false, htotal, hread]
  unfold Header.refusal at he
  split at he
  · next hmagic =>
    cases he
    rw [if_pos hmagic]
  · next hmagic =>
    split at he
    · next hlarge =>
      cases he
      rw [if_neg hmagic, if_pos hlarge]
    · cases he

theorem next_of_accepted (hr : r.Valid) (hd : r.discard = 0)
    (hread : Header.read r.buffer.toList = some (h, rest)) (ha : h.refusal r.maxPayload = none) :
    r.next = (.ok (r.take (headerLength + h.payloadLength.toNat)).1,
      (r.take (headerLength + h.payloadLength.toNat)).2) := by
  obtain ⟨hmagic, hfits⟩ := Header.refusal_eq_none.mp ha
  simp only [next, skipDiscarded_of_zero hd, hd, Nat.lt_irrefl, if_false]
  cases htotal : r.total with
  | some total =>
    -- the length that is kept is that of this very header
    obtain ⟨h', rest', hread', -, rfl⟩ := hr.accepted total htotal
    rw [hread] at hread'
    cases hread'
    rfl
  | none =>
    simp only [hread, if_neg (not_not_intro hmagic), if_neg (UInt32.not_lt.mpr hfits)]

theorem rests_of_read_none (hr : r.Valid) (hd : r.discard = 0)
    (hread : Header.read r.buffer.toList = none) : r.Rests r := by
  have htotal : r.total = none := by
    match ht : r.total with
    | none => rfl
    | some total =>
      obtain ⟨h, rest, hsome, -⟩ := hr.accepted total ht
      rw [hread] at hsome
      cases hsome
  have hnext : r.next = (.ok none, r) := by
    simp only [next, skipDiscarded_of_zero hd, hd, Nat.lt_irrefl, if_false, htotal, hread]
  refine ⟨hnext, hnext, hr, fun more => rfl, ?_⟩
  rw [owed, hd, List.append_nil, readRequests_of_read_none hread, leftover, htotal, hd]

theorem take_of_le {total : Nat} (hle : total ≤ r.buffer.size) :
    r.take total = (some ⟨((r.buffer.toList.take total).drop 1).headD 0,
      (r.buffer.toList.take total).drop headerLength⟩,
      { r with buffer := r.buffer.drop total, total := none }) := by
  simp only [take, if_pos hle]

theorem take_of_lt {total : Nat} (hlt : r.buffer.size < total) :
    r.take total = (none, { r with total := some total }) := by
  simp only [take, if_neg (Nat.not_le.mpr hlt)]

theorem rests_of_incomplete (hr : r.Valid) (hd : r.discard = 0)
    (hread : Header.read r.buffer.toList = some (h, rest)) (ha : h.refusal r.maxPayload = none)
    (hlt : rest.length < h.payloadLength.toNat) :
    r.Rests { r with total := some (headerLength + h.payloadLength.toNat) } := by
  have hsize : r.buffer.size < headerLength + h.payloadLength.toNat := by
    rw [size_of_read hread]
    omega
  have hvalid : Valid { r with total := some (headerLength + h.payloadLength.toNat) } := by
    constructor
    · intro hpos
      exact absurd hpos (by simp [hd])
    · rintro total ⟨⟩
      exact ⟨h, rest, hread, ha, rfl⟩
  refine ⟨?_, ?_, hvalid, fun more => rfl, ?_⟩
  · rw [next_of_accepted hr hd hread ha, take_of_lt hsize]
  · rw [next_of_accepted hvalid hd hread ha]
    simp only [take, if_neg (Nat.not_le.mpr hsize)]
  · rw [owed, hd, List.append_nil, readRequests_of_read hread]
    simp only [ha, if_neg (Nat.not_le.mpr hlt), leftover]

theorem yields_refusal {e : WireError} (hr : r.Valid) (hd : r.discard = 0)
    (hread : Header.read r.buffer.toList = some (h, rest)) (he : h.refusal r.maxPayload = some e) :
    r.Yields (.error e) (r.reject h) := by
  have hrest : r.buffer.toList.drop headerLength = rest := Header.drop_of_read hread
  have hsize := size_of_read hread
  have htotal := total_of_refusal hr hread he
  have hbuffer : (r.reject h).buffer.toList = rest.drop h.payloadLength.toNat := by
    simp [reject, hrest]
  have hdiscard : (r.reject h).discard = h.payloadLength.toNat - rest.length := by
    simp [reject, ByteQueue.drop, hsize]
  have hmax : (r.reject h).maxPayload = r.maxPayload := by simp [reject]
  refine ⟨?_, ⟨?_, ?_⟩, ?_, ?_⟩
  · rw [next_of_refusal hr hd hread he]
    rfl
  · intro hpos
    rw [hdiscard] at hpos
    rw [hbuffer, List.drop_eq_nil_of_le (by omega)]
    exact ⟨rfl, by simp [reject, htotal]⟩
  · intro total ht
    simp [reject, htotal] at ht
  · rw [← ByteQueue.length_toList, hbuffer, hsize, List.length_drop]
    omega
  · -- what is missing of the payload is skipped from the bytes that follow
    intro more
    rw [owed, owed, hd, hbuffer, hdiscard, hmax,
      readRequests_of_read (Header.read_append hread more), he, readRequests_skip]

theorem yields_request (hr : r.Valid) (hd : r.discard = 0)
    (hread : Header.read r.buffer.toList = some (h, rest)) (ha : h.refusal r.maxPayload = none)
    (hle : h.payloadLength.toNat ≤ rest.length) :
    r.Yields (.ok ⟨h.type, rest.take h.payloadLength.toNat⟩)
      { r with
        buffer := r.buffer.drop (headerLength + h.payloadLength.toNat)
        total := none } := by
  have hsize := size_of_read hread
  have hrest : r.buffer.toList.drop headerLength = rest := Header.drop_of_read hread
  have hbuffer : r.buffer.toList.drop (headerLength + h.payloadLength.toNat) =
      rest.drop h.payloadLength.toNat := by rw [← hrest, List.drop_drop]
  have htype : ((r.buffer.toList.take (headerLength + h.payloadLength.toNat)).drop 1).headD 0 =
      h.type := by
    obtain ⟨a, b, c, d, heq⟩ := Header.read_eq_some hread
    rw [heq, headerLength, Nat.add_comm]
    rfl
  have hpayload : (r.buffer.toList.take (headerLength + h.payloadLength.toNat)).drop headerLength =
      rest.take h.payloadLength.toNat := by
    rw [List.drop_take, hrest, Nat.add_sub_cancel_left]
  have hfits : headerLength + h.payloadLength.toNat ≤ r.buffer.size := by omega
  refine ⟨?_, ⟨?_, ?_⟩, ?_, ?_⟩
  · rw [next_of_accepted hr hd hread ha, take_of_le hfits, htype, hpayload]
    rfl
  · intro hpos
    exact absurd hpos (by simp [hd])
  · rintro total ⟨⟩
  · simp only [ByteQueue.drop, hsize]
    omega
  · intro more
    simp only [owed, hd, ByteQueue.toList_drop, hbuffer]
    rw [readRequests_of_read (Header.read_append hread more)]
    simp only [ha, List.length_append, if_pos (Nat.le_add_right_of_le hle),
      List.take_append_of_le_length hle, List.drop_append_of_le_length hle]

theorem rests_or_yields (hr : r.Valid) :
    (∃ w, r.Rests w) ∨ ∃ item r', r.Yields item r' := by
  rcases Nat.eq_zero_or_pos r.discard with hd | hd
  · match hread : Header.read r.buffer.toList with
    | none => exact .inl ⟨r, rests_of_read_none hr hd hread⟩
    | some (h, rest) =>
      match hrefusal : h.refusal r.maxPayload with
      | some e => exact .inr ⟨_, _, yields_refusal hr hd hread hrefusal⟩
      | none =>
        rcases Nat.lt_or_ge rest.length h.payloadLength.toNat with hlt | hle
        · exact .inl ⟨_, rests_of_incomplete hr hd hread hrefusal hlt⟩
        · exact .inr ⟨_, _, yields_request hr hd hread hrefusal hle⟩
  · exact .inl ⟨_, rests_of_discarding hr hd⟩

structure Drains (r : Reassembly) (items : List (Except WireError Request)) (w : Reassembly) :
    Prop where
  valid : w.Valid
  again : w.next = (.ok none, w)
  owed_eq : ∀ more, r.owed more = (items ++ (w.owed more).1, (w.owed more).2)
  owed_nil : r.owed [] = (items, w.leftover)

theorem drains_of_rests {w : Reassembly} (hw : r.Rests w) : r.Drains [] w := by
  refine ⟨hw.valid, hw.again, fun more => ?_, hw.owed_nil⟩
  rw [hw.owed_eq, List.nil_append]

theorem drains_of_yields {item : Except WireError Request} {items : List (Except WireError Request)}
    {w : Reassembly} (hitem : r.Yields item r') (hrest : r'.Drains items w) :
    r.Drains (item :: items) w := by
  refine ⟨hrest.valid, hrest.again, fun more => ?_, ?_⟩
  · rw [hitem.owed_eq, hrest.owed_eq, List.cons_append]
  · rw [hitem.owed_eq, hrest.owed_nil]

theorem drain_go_succ_of_yields {item : Except WireError Request} (fuel : Nat)
    (hitem : r.Yields item r') :
    drain.go (fuel + 1) r = (item :: (drain.go fuel r').1, (drain.go fuel r').2) := by
  rw [drain.go, hitem.next_eq]
  cases item <;> rfl

theorem drains_go (hr : r.Valid) {fuel : Nat} (hfuel : r.buffer.size < fuel) :
    r.Drains (drain.go fuel r).1 (drain.go fuel r).2 := by
  induction fuel generalizing r with
  | zero => cases hfuel
  | succ fuel ih =>
    rcases rests_or_yields hr with ⟨w, hw⟩ | ⟨item, r', hitem⟩
    · have hgo : drain.go (fuel + 1) r = ([], w) := by rw [drain.go, hw.next_eq]
      rw [hgo]
      exact drains_of_rests hw
    · -- whatever comes out takes a header with it, so that the fuel lasts
      have hsize := hitem.size_le
      rw [headerLength] at hsize
      rw [drain_go_succ_of_yields fuel hitem]
      exact drains_of_yields hitem (ih hitem.valid (by omega))

theorem drains_drain (hr : r.Valid) : r.Drains r.drain.1 r.drain.2 :=
  drains_go hr (Nat.lt_succ_self _)

structure Idle (r : Reassembly) : Prop where
  valid : r.Valid
  owed_nil : (r.owed []).1 = []

structure Absorbs (r : Reassembly) (chunk : Bytes) (items : List (Except WireError Request))
    (w : Reassembly) : Prop where
  idle : w.Idle
  owed_eq : ∀ more, (r.owed (chunk ++ more)).1 = items ++ (w.owed more).1

theorem idle_standard : Idle standard := by
  refine ⟨valid_empty maxPayloadLength, ?_⟩
  have howed : standard.owed [] = readRequests maxPayloadLength 0 [] := rfl
  rw [howed, readRequests_of_read_none rfl]

theorem absorbs_nil (hr : r.Idle) : r.Absorbs [] [] r := ⟨hr, fun _ => rfl⟩

theorem absorbs_drain (hr : r.Idle) (chunk : Bytes) :
    r.Absorbs chunk (r.extend chunk).drain.1 (r.extend chunk).drain.2 := by
  have hdrains := drains_drain (valid_extend hr.valid chunk)
  have hnil := congrArg Prod.fst (hdrains.owed_eq [])
  rw [hdrains.owed_nil] at hnil
  refine ⟨⟨hdrains.valid, List.append_right_eq_self.mp hnil.symm⟩, fun more => ?_⟩
  rw [← owed_extend hr.valid, hdrains.owed_eq]

theorem Absorbs.append {w w' : Reassembly} {chunk chunk' : Bytes}
    {items items' : List (Except WireError Request)} (h : r.Absorbs chunk items w)
    (h' : w.Absorbs chunk' items' w') : r.Absorbs (chunk ++ chunk') (items ++ items') w' := by
  refine ⟨h'.idle, fun more => ?_⟩
  rw [List.append_assoc, h.owed_eq, h'.owed_eq, List.append_assoc]

theorem owed_standard (stream : Bytes) :
    (standard.owed stream).1 = (standard.extend stream).drain.1 := by
  have habsorbs := absorbs_drain idle_standard stream
  have howed := habsorbs.owed_eq []
  rwa [List.append_nil, habsorbs.idle.owed_nil, List.append_nil] at howed

theorem Absorbs.drain_eq {stream : Bytes} {items : List (Except WireError Request)}
    {w : Reassembly} (h : standard.Absorbs stream items w) :
    (standard.extend stream).drain.1 = items := by
  have howed := h.owed_eq []
  rwa [List.append_nil, h.idle.owed_nil, List.append_nil, owed_standard] at howed

inductive Step where
  | arrive (data : Bytes)
  | ask
  deriving DecidableEq

def emitted : Except WireError (Option Request) → List (Except WireError Request)
  | .ok none => []
  | .ok (some request) => [.ok request]
  | .error e => [.error e]

def play : List Step → Reassembly → List (Except WireError Request) × Reassembly
  | [], r => ([], r)
  | .arrive data :: steps, r => play steps (r.extend data)
  | .ask :: steps, r =>
    let (result, r) := r.next
    let (items, r) := play steps r
    (emitted result ++ items, r)

theorem play_ask_of_rests {w : Reassembly} (hw : r.Rests w) (steps : List Step) :
    play (.ask :: steps) r = play steps w := by
  rw [play, hw.next_eq]
  rfl

theorem play_ask_of_yields {item : Except WireError Request} (hitem : r.Yields item r')
    (steps : List Step) :
    play (.ask :: steps) r = (item :: (play steps r').1, (play steps r').2) := by
  rw [play, hitem.next_eq]
  cases item <;> rfl

def arrived : List Step → Bytes
  | [] => []
  | .arrive data :: steps => data ++ arrived steps
  | .ask :: steps => arrived steps

theorem play_owed (hr : r.Valid) (steps : List Step) :
    (play steps r).2.Valid ∧ ∀ more, r.owed (arrived steps ++ more) =
      ((play steps r).1 ++ ((play steps r).2.owed more).1, ((play steps r).2.owed more).2) := by
  induction steps generalizing r with
  | nil => exact ⟨hr, fun more => rfl⟩
  | cons step steps ih =>
    cases step with
    | arrive data =>
      obtain ⟨hvalid, howed⟩ := ih (valid_extend hr data)
      refine ⟨hvalid, fun more => ?_⟩
      rw [arrived, List.append_assoc, ← owed_extend hr, howed, play]
    | ask =>
      rw [arrived]
      rcases rests_or_yields hr with ⟨w, hw⟩ | ⟨item, r', hitem⟩
      · obtain ⟨hvalid, howed⟩ := ih hw.valid
        rw [play_ask_of_rests hw]
        refine ⟨hvalid, fun more => ?_⟩
        rw [← hw.owed_eq, howed]
      · obtain ⟨hvalid, howed⟩ := ih hitem.valid
        rw [play_ask_of_yields hitem]
        refine ⟨hvalid, fun more => ?_⟩
        rw [hitem.owed_eq, howed, List.cons_append]

/-- However a stream is cut and whenever messages are asked for, the requests and refusals, and what
is left when no more come out, are those of one reading of the whole stream. -/
theorem play_eq_readRequests (max : UInt32) (steps : List Step) :
    let (items, r) := play steps { maxPayload := max }
    let (rest, final) := r.drain
    let (all, left) := readRequests max 0 (arrived steps)
    final.next = (.ok none, final) ∧ items ++ rest = all ∧ final.leftover = left ∧
      final.buffer.size = left.bytes.length ∧ final.total = left.total ∧
      final.isDiscarding = decide (0 < left.missing) := by
  obtain ⟨hvalid, howed⟩ := play_owed (valid_empty max) steps
  have hdrain := drains_drain hvalid
  have hparse := howed []
  rw [hdrain.owed_nil, List.append_nil] at hparse
  have hstart : owed { maxPayload := max } (arrived steps) =
      readRequests max 0 (arrived steps) := rfl
  rw [hstart] at hparse
  rw [hparse]
  exact ⟨hdrain.again, rfl, rfl, (ByteQueue.length_toList _).symm, rfl, rfl⟩

end Reassembly

end CardFirmware
