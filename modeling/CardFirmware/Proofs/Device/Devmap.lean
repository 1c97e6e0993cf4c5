import CardFirmware.Proofs.Device.Replies
import CardFirmware.Proofs.Device.Simulator

/-! The device map, fetched block by block. The reads that a size asks for cover it once and in
order, so that what has come when the last of them is answered is the map (`devmap_fetched`). -/

namespace CardFirmware.Device

open Bytes (le16)

/-- What comes of the answers to the reads of a map of `n` bytes: all of them are answered and the
map is put together, or one is spoilt and none is sent after it. -/
inductive Fetched (n : Nat) :
    List (Except TransportError Bytes) → Except TransportError Bytes → Prop
  | whole {replies : List Bytes}
      (hlengths : replies.map List.length = (blockReads n).map Command.responseLength)
      (htotal : replies.flatten.length = n) : Fetched n (replies.map .ok) (.ok replies.flatten)
  | broken {replies : List Bytes} {c : Command} {reply : Except TransportError Bytes}
      {e : TransportError}
      (hlengths : replies.map List.length =
        ((blockReads n).take replies.length).map Command.responseLength)
      (hc : (blockReads n)[replies.length]? = some c) (hreply : Spoilt c reply e) :
      Fetched n (replies.map .ok ++ [reply]) (.error e)

theorem Exchanged.ok {cs : List Command} {es : List Event} {replies : List Bytes}
    (h : Exchanged cs es (.ok replies)) :
    es = List.zipWith Event.sent cs (replies.map .ok) ∧
      replies.map List.length = cs.map Command.responseLength := by
  generalize hr : (Except.ok replies : Except TransportError (List Bytes)) = r at h
  induction h generalizing replies with
  | nil =>
    cases hr
    exact ⟨rfl, rfl⟩
  | spoilt => cases hr
  | @answered c cs b es r hb h ih =>
    cases r with
    | error => cases hr
    | ok rest =>
      cases hr
      obtain ⟨rfl, hlengths⟩ := ih rfl
      refine ⟨rfl, ?_⟩
      rw [List.map_cons, List.map_cons, hb, hlengths]

theorem Exchanged.error {cs : List Command} {es : List Event} {e : TransportError}
    (h : Exchanged cs es (.error e)) :
    ∃ (replies : List Bytes) (c : Command) (reply : Except TransportError Bytes),
      es = List.zipWith Event.sent cs (replies.map .ok ++ [reply]) ∧
        replies.map List.length = (cs.take replies.length).map Command.responseLength ∧
        cs[replies.length]? = some c ∧ Spoilt c reply e := by
  generalize hr : (Except.error e : Except TransportError (List Bytes)) = r at h
  induction h with
  | nil => cases hr
  | @spoilt c cs reply e' hreply =>
    cases hr
    refine ⟨[], c, reply, ?_, rfl, rfl, hreply⟩
    simp
  | @answered c cs b es r hb h ih =>
    cases r with
    | ok => cases hr
    | error e' =>
      cases hr
      obtain ⟨replies, c', reply, rfl, hlengths, hc', hreply⟩ := ih rfl
      refine ⟨b :: replies, c', reply, rfl, ?_, hc', hreply⟩
      rw [List.length_cons, List.take_succ_cons, List.map_cons, List.map_cons, hb, hlengths]

theorem sum_blocks (n k block : Nat) :
    ((List.range' block k).map fun i => (blockRead n i).responseLength).sum =
      min (devmapBlockSize * k) (n - devmapBlockSize * block) := by
  induction k generalizing block with
  | zero => simp
  | succ k ih =>
    rw [List.range'_succ, List.map_cons, List.sum_cons, ih, blockRead, Command.responseLength,
      devmapBlockSize]
    omega

theorem sum_blockReads (n : Nat) : ((blockReads n).map Command.responseLength).sum = n := by
  rw [blockReads, List.map_map, List.range_eq_range']
  refine (sum_blocks n _ 0).trans ?_
  rw [devmapBlockSize]
  omega

theorem fetched_of_exchanged {n : Nat} {es : List Event}
    {blocks : Except TransportError (List Bytes)} (h : Exchanged (blockReads n) es blocks) :
    ∃ answers, es = List.zipWith Event.sent (blockReads n) answers ∧
      Fetched n answers (blocks.map List.flatten) := by
  cases blocks with
  | ok replies =>
    obtain ⟨hes, hlengths⟩ := h.ok
    refine ⟨_, hes, .whole hlengths ?_⟩
    rw [List.length_flatten, hlengths, sum_blockReads]
  | error e =>
    obtain ⟨replies, c, reply, hes, hlengths, hc, hreply⟩ := h.error
    exact ⟨_, hes, .broken hlengths hc hreply⟩

theorem length_blockReads (n : Nat) : (blockReads n).length = (n + 1023) / 1024 := by
  rw [blockReads, List.length_map, List.length_range]
  rfl

theorem getElem?_blockReads {n i : Nat} (hi : i < (n + 1023) / 1024) :
    (blockReads n)[i]? = some (.devmapRead (UInt32.ofNat i) (min 1024 (n - 1024 * i))) := by
  have hrange : (List.range ((n + devmapBlockSize - 1) / devmapBlockSize))[i]? = some i :=
    List.getElem?_range hi
  rw [blockReads, List.getElem?_map, hrange]
  rfl

end CardFirmware.Device

namespace CardFirmware.Simulator

open Bytes (le16 le32)

variable {s : Simulator}

theorem execute_devmapInfo :
    s.execute Command.devmapInfo.call =
      (le16 0 ++ le16 (UInt16.ofNat s.devmap.length), s) := by
  have hopcode : Command.devmapInfo.call.opcode = .compose .data 12 := rfl
  rw [execute, hopcode, Opcode.category?_compose, Opcode.operation_compose]
  rfl

theorem execute_devmapRead {block : UInt32} {length : Nat}
    (h : block.toNat * devmapBlockSize + length ≤ s.devmap.length) :
    s.execute (Command.devmapRead block length).call =
      ((s.devmap.drop (block.toNat * devmapBlockSize)).take length, s) := by
  have hopcode : (Command.devmapRead block length).call.opcode = .compose .data 13 := rfl
  have hblock : word32 (Command.devmapRead block length).call.request 0 = block := by
    have h := word32_append [] [] block
    rwa [List.append_nil] at h
  have hslice : s.devmap.slice? (block.toNat * devmapBlockSize) length =
      some ((s.devmap.drop (block.toNat * devmapBlockSize)).take length) := if_pos h
  have hlength : (Command.devmapRead block length).call.responseLength = length := rfl
  rw [execute, hopcode, Opcode.category?_compose, Opcode.operation_compose, hblock, hlength]
  simp only [hslice, Option.getD_some]

theorem devmapRead_succeeds (hsound : s.failing = []) (hsize : s.devmap.length < UInt16.size)
    {block : Nat} (hblock : devmapBlockSize * block < s.devmap.length) :
    (Device.send (Device.blockRead s.devmap.length block)).Succeeds transport s fun chunk d =>
      chunk = (s.devmap.drop (devmapBlockSize * block)).take devmapBlockSize ∧
        ∃ log, d = { s with log } := by
  rw [devmapBlockSize] at hblock
  rw [UInt16.size] at hsize
  have htoNat : (UInt32.ofNat block).toNat = block := by
    apply UInt32.toNat_ofNat_of_lt'
    rw [UInt32.size]
    omega
  have hfits : (UInt32.ofNat block).toNat * devmapBlockSize +
      min devmapBlockSize (s.devmap.length - devmapBlockSize * block) ≤ s.devmap.length := by
    rw [htoNat, devmapBlockSize]
    omega
  have hreply := transact_of_sound hsound (Device.blockRead s.devmap.length block).call
  rw [Device.blockRead, execute_devmapRead hfits, htoNat, Nat.mul_comm block] at hreply
  have hlength : ((s.devmap.drop (devmapBlockSize * block)).take
      (min devmapBlockSize (s.devmap.length - devmapBlockSize * block))).length =
      min devmapBlockSize (s.devmap.length - devmapBlockSize * block) := by
    rw [List.length_take, List.length_drop]
    omega
  refine (Device.send_succeeds (Device.blockRead_valid _ _) hreply hlength).mono ?_
  rintro _ _ ⟨rfl, rfl⟩
  refine ⟨?_, _, rfl⟩
  rw [← List.length_drop, ← List.take_eq_take_min]

theorem devmapBlocks_succeeds (hsound : s.failing = []) (hsize : s.devmap.length < UInt16.size)
    {k block : Nat} (hcount : block + k = (s.devmap.length + 1023) / 1024) :
    (Device.devmapBlocks s.devmap.length k block).Succeeds transport s fun b d =>
      b = s.devmap.drop (devmapBlockSize * block) ∧ ∃ log, d = { s with log } := by
  -- on the number of blocks that are left; the device only logs what it answers
  induction k generalizing s block with
  | zero =>
    refine Procedure.succeeds_pure ⟨?_, s.log, rfl⟩
    rw [List.drop_eq_nil_of_le]
    rw [devmapBlockSize]
    omega
  | succ k ih =>
    have hblock : devmapBlockSize * block < s.devmap.length := by
      rw [devmapBlockSize]
      omega
    refine (devmapRead_succeeds hsound hsize hblock).bind ?_
    rintro chunk _ ⟨rfl, log, rfl⟩
    refine (ih (s := { s with log }) hsound hsize (by rw [← hcount]; omega)).bind ?_
    rintro rest _ ⟨rfl, log', rfl⟩
    refine Procedure.succeeds_pure ⟨?_, log', rfl⟩
    rw [Nat.mul_succ, ← List.drop_drop]
    exact List.take_append_drop _ _

theorem devmap_succeeds (hsound : s.failing = []) (hsize : s.devmap.length < UInt16.size) :
    Device.devmap.Succeeds transport s fun b d => b = s.devmap ∧ ∃ log, d = { s with log } := by
  have hreply := transact_of_sound hsound Command.devmapInfo.call
  rw [execute_devmapInfo] at hreply
  have htold : (Reply.devmapSize (le16 0 ++ le16 (UInt16.ofNat s.devmap.length))).mapError
      TransportError.wire = .ok (UInt16.ofNat s.devmap.length) := by
    rw [Device.devmapSize_append]
    rfl
  refine (Device.send_succeeds rfl hreply rfl).bind ?_
  rintro _ _ ⟨rfl, rfl⟩
  refine (Procedure.succeeds_ofExcept htold).bind ?_
  rintro _ _ ⟨rfl, rfl⟩
  simp only [UInt16.toNat_ofNat_of_lt' hsize]
  let s' : Simulator := { s with log := logName Command.devmapInfo.call.opcode :: s.log }
  exact devmapBlocks_succeeds (s := s') hsound hsize (Nat.zero_add _)

end CardFirmware.Simulator

namespace CardFirmware.Device

open Bytes (le16)

/-- Whatever the device answers, its map is asked for by its size first and then, unless that is
spoilt, block after block up to the first answer that is; the blocks cover the size, and what is
returned is what they were answered with. A sound device in memory returns the map that it has. -/
theorem devmap_fetched :
    (∀ {σ : Type} (t : Transport σ) (device : σ),
      let run := devmap.perform t device
      let events := run.2.events.reverse
      t.Gives device events run.2.device ∧
        ((∃ reply e, Spoilt .devmapInfo reply e ∧ events = [.sent .devmapInfo reply] ∧
            run.1 = .error e) ∨
          ∃ (low size : UInt16) (answers : List (Except TransportError Bytes)),
            events = .sent .devmapInfo (.ok (le16 low ++ le16 size)) ::
                List.zipWith Event.sent (blockReads size.toNat) answers ∧
              Fetched size.toNat answers run.1)) ∧
    (∀ n, (blockReads n).length = (n + 1023) / 1024 ∧
      (∀ i < (n + 1023) / 1024, (blockReads n)[i]? =
        some (.devmapRead (UInt32.ofNat i) (min 1024 (n - 1024 * i)))) ∧
      ∀ c ∈ blockReads n, c.validate = .ok ()) ∧
    ∀ s : Simulator, s.failing = [] → s.devmap.length ≤ 65535 →
      (devmap.perform Simulator.transport s).1 = .ok s.devmap := by
  refine ⟨fun t device => ⟨Procedure.gives_perform t _ device, ?_⟩, fun n => ⟨?_, ?_, ?_⟩, ?_⟩
  · have hread := devmap_read (Procedure.runs_perform t devmap device)
    generalize (devmap.perform t device).2.events.reverse = events at hread ⊢
    generalize (devmap.perform t device).1 = r at hread ⊢
    cases hread with
    | spoilt hreply => exact .inl ⟨_, _, hreply, rfl, rfl⟩
    | sized low size h =>
      obtain ⟨answers, rfl, hfetched⟩ := fetched_of_exchanged h
      exact .inr ⟨low, size, answers, rfl, hfetched⟩
  · exact length_blockReads n
  · exact fun i hi => getElem?_blockReads hi
  · intro c hc
    obtain ⟨block, -, rfl⟩ := List.mem_map.mp hc
    exact blockRead_valid n block
  · intro s hsound hsize
    obtain ⟨_, _, hrun, rfl, -⟩ := Simulator.devmap_succeeds hsound (Nat.lt_succ_of_le hsize) []
    exact congrArg Prod.fst hrun

theorem two_blocks_fetched :
    let s : Simulator := { devmap := List.replicate 2048 7 }
    s.failing = [] ∧ s.devmap.length ≤ 65535 ∧
      (devmap.perform Simulator.transport s).1 = .ok (List.replicate 2048 7) := by
  intro s
  have hsize : s.devmap.length ≤ 65535 := by
    rw [List.length_replicate]
    decide
  exact ⟨rfl, hsize, devmap_fetched.2.2 s rfl hsize⟩

end CardFirmware.Device
