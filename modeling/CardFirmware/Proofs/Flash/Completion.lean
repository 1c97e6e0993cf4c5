import CardFirmware.Proofs.Device.Simulator
import CardFirmware.Proofs.Flash.Directory
import CardFirmware.Proofs.Flash.Update

/-! Erasing and writing a segment of a simulated device. Discovery finds segments that the device
has; an erase that is polled to its end leaves the segment empty, and the pieces of an image are
written behind each other, so that the segment then holds the image. -/

namespace CardFirmware

namespace SimulatedSegment

def holding (g : SimulatedSegment) (data : Bytes) : SimulatedSegment :=
  { g with memory := data.toArray }

variable (g : SimulatedSegment) (data more : Bytes)

@[simp] theorem contents_holding : (g.holding data).contents = data := rfl

theorem write_holding (old : Bytes) :
    (g.holding (data ++ old.drop data.length)).write data.length more =
      g.holding (data ++ more ++ old.drop (data ++ more).length) := by
  have hmemory : (overlay more data.length ((data ++ old.drop data.length).toArray ++
      Array.replicate (data.length - (data ++ old.drop data.length).toArray.size) 0xFF)).toList =
        data ++ more ++ old.drop (data ++ more).length := by
    rw [toList_overlay _ _ _ (by simp)]
    simp
  unfold write holding
  exact congrArg (SimulatedSegment.mk g.name g.size · g.eraseCount) (Array.toList_inj.mp hmemory)

end SimulatedSegment

structure Simulator.Has (segments : List SimulatedSegment) (registers : List (UInt32 × Int32))
    (s : Simulator) : Prop where
  failing_eq : s.failing = []
  segments_eq : s.segments = segments
  registers_eq : s.registers = registers

namespace Simulator

def polls (s : Simulator) : List UInt8 := s.eraseScript ++ [s.eraseStall.getD eraseDone]

variable {s : Simulator} {segments : List SimulatedSegment} {registers : List (UInt32 × Int32)}
  {g : SimulatedSegment} {i n : Nat}

theorem pollErase_polls (h : eraseDone ∈ s.polls.take (n + 1)) :
    s.pollErase.1 = eraseDone ∨ eraseDone ∈ s.pollErase.2.polls.take n := by
  unfold polls at h
  unfold pollErase
  cases hscript : s.eraseScript with
  | nil =>
    rw [hscript, List.nil_append, List.take_succ_cons, List.take_nil] at h
    exact .inl (List.mem_singleton.mp h).symm
  | cons raw rest =>
    rw [hscript, List.cons_append, List.take_succ_cons] at h
    obtain hraw | hrest := List.mem_cons.mp h
    · exact .inl hraw.symm
    · exact .inr hrest

theorem set_modify {α : Type} (f : α → α) (a : α) {l : List α} (hi : i < l.length) :
    (l.set i a).modify i f = l.set i (f a) := by
  apply List.ext_getElem?
  intro j
  rw [List.getElem?_modify, List.getElem?_set, List.getElem?_set]
  by_cases hij : i = j
  · subst hij
    simp [hi]
  · simp [hij]

namespace Has

theorem withLog (h : s.Has segments registers) (log : List String) :
    Has segments registers { s with log } :=
  ⟨h.failing_eq, h.segments_eq, h.registers_eq⟩

theorem pollErase (h : s.Has segments registers) : s.pollErase.2.Has segments registers := by
  unfold Simulator.pollErase
  split
  · exact ⟨h.failing_eq, h.segments_eq, h.registers_eq⟩
  · exact h

theorem modify {f : SimulatedSegment → SimulatedSegment} (hi : i < segments.length)
    (h : s.Has (segments.set i g) registers) :
    Has (segments.set i (f g)) registers
      { s.countWrite with segments := s.segments.modify i f } := by
  have hsegments := (congrArg (List.modify · i f) h.segments_eq).trans (set_modify f g hi)
  exact ⟨h.failing_eq, hsegments, h.registers_eq⟩

end Has

/-- A device that differs from `first` in one segment, its count of writes and its log at most. -/
def Rewrites (first : Simulator) (i : Nat) (g : SimulatedSegment) (s : Simulator) : Prop :=
  ∃ writes log, s = { first with segments := first.segments.set i g, writes, log }

namespace Rewrites

variable {first : Simulator}

theorem refl (hg : s.segments[i]? = some g) : s.Rewrites i g s := by
  have hsegments : s.segments.set i g = s.segments := by
    obtain ⟨hi, rfl⟩ := List.getElem?_eq_some_iff.mp hg
    exact List.set_getElem_self hi
  refine ⟨s.writes, s.log, ?_⟩
  rw [hsegments]

theorem failing_eq (h : first.Rewrites i g s) : s.failing = first.failing := by
  obtain ⟨writes, log, rfl⟩ := h
  rfl

theorem modify {f : SimulatedSegment → SimulatedSegment} (hi : i < first.segments.length)
    (h : first.Rewrites i g s) (log : List String) :
    first.Rewrites i (f g) { s.countWrite with segments := s.segments.modify i f, log } := by
  obtain ⟨writes, log', rfl⟩ := h
  have hsegments := set_modify f g hi
  refine ⟨writes + 1, log, ?_⟩
  rw [← hsegments]
  rfl

theorem has {g' : SimulatedSegment} (h : first.Rewrites i g' s)
    (hfirst : first.Has (segments.set i g) registers) : s.Has (segments.set i g') registers := by
  obtain ⟨writes, log, rfl⟩ := h
  refine ⟨hfirst.failing_eq, ?_, hfirst.registers_eq⟩
  change first.segments.set i g' = _
  rw [hfirst.segments_eq, List.set_set]

end Rewrites

theorem transact_readsDirectory {c : Command} (hsound : s.failing = []) (hc : c.ReadsDirectory) :
    ∃ log, (transport.transact c.call s).2 = { s with log } := by
  have hexec : (s.execute c.call).2 = s := by
    cases c with
    | flashInfo => rw [execute_flashInfo]
    | flashSegmentInfo index => exact execute_flashSegmentInfo index
    | _ => exact hc.elim
  rw [transact_of_sound hsound, hexec]
  exact ⟨_, rfl⟩

end Simulator

namespace FlashDirectory

open Simulator (transport)

variable {s : Simulator} {segments : List SimulatedSegment} {registers : List (UInt32 × Int32)}
  {d : FlashDirectory}

theorem count_flashInfo {b : Bytes} {info : Reply.FlashInfo} (h : Reply.flashInfo b = .ok info) :
    info.count = b.le32At 4 := by
  simp only [Reply.flashInfo, Command.checkSize, expectLength, bind, Except.bind, pure,
    Except.pure] at h
  split at h
  · cases h
  · split at h
    · cases h
    · split at h
      · cases h
      · cases h
        rfl

theorem index_lt_of_discover (hsound : s.failing = [])
    (h : (discover.perform transport s).1 = .ok d) (role : SegmentRole) :
    1 ≤ (d.segment role).index.toNat ∧ (d.segment role).index.toNat ≤ segmentCountMax ∧
      (d.segment role).index.toNat < s.segments.length ∧
      (d.segment role).size.toNat ≤ flashSizeMax := by
  obtain ⟨es, hruns, hgives⟩ := Procedure.perform_gives transport discover s
  rw [h] at hruns
  obtain ⟨b, info, rest, found, rfl, hinfo, hmax, hfound, hroles⟩ := discover_found hruns
  obtain ⟨hreply, -⟩ := hgives.sent_inv
  rw [Simulator.transact_of_sound hsound, Simulator.execute_flashInfo] at hreply
  obtain rfl := Except.ok.inj hreply
  have hcount : info.count = UInt32.ofNat s.segments.length :=
    (count_flashInfo hinfo).trans (Bytes.le32At_le32 _)
  obtain ⟨hrole, hne⟩ := hroles role
  have hlt := hfound.lt role _ hrole
  have hsegments : info.count.toNat ≤ s.segments.length := by
    rw [hcount, UInt32.toNat_ofNat']
    exact Nat.mod_le _ _
  have hpos : (d.segment role).index.toNat ≠ 0 := fun h0 => hne (UInt32.toNat_inj.mp h0)
  exact ⟨Nat.pos_of_ne_zero hpos, by omega, by omega, hfound.size_le role _ hrole⟩

theorem discover_keeps (h : s.Has segments registers) :
    (discover.perform transport s).2.device.Has segments registers ∧
      (discover.perform transport s).2.device.polls = s.polls := by
  let kept (s' : Simulator) : Prop := s'.Has segments registers ∧ s'.polls = s.polls
  have hsent : ∀ c : Command, c.ReadsDirectory → ∀ s', kept s' →
      kept (transport.transact c.call s').2 := by
    intro c hc s' hkept
    obtain ⟨log, hlog⟩ := Simulator.transact_readsDirectory hkept.1.failing_eq hc
    rw [hlog]
    exact ⟨hkept.1.withLog log, hkept.2⟩
  have hheard : ∀ s', kept s' → kept (transport.readNotification s').2 := by
    intro s' hkept
    change kept (Simulator.readNotification s').2
    unfold Simulator.readNotification
    split
    · exact ⟨⟨hkept.1.failing_eq, hkept.1.segments_eq, hkept.1.registers_eq⟩, hkept.2⟩
    · exact hkept
  have hstart : kept s := ⟨h, rfl⟩
  exact discover_sends.keeps hsent hheard hstart

end FlashDirectory

namespace Flash

open Simulator (transport)

variable {s : Simulator} {segments : List SimulatedSegment} {registers : List (UInt32 × Int32)}
  {g : SimulatedSegment} {target : Segment} {n : Nat}

theorem eraseProgress_succeeds (h : s.Has segments registers) (index : UInt32) :
    (Device.eraseProgress index).Succeeds transport s fun raw d =>
      raw = s.pollErase.1 ∧ d.Has segments registers ∧ d.polls = s.pollErase.2.polls := by
  have hreply := Simulator.transact_of_sound h.failing_eq (Command.flashEraseProgress index).call
  rw [Simulator.execute_flashEraseProgress] at hreply
  have hquery := Device.query_succeeds (f := Reply.byte) rfl hreply rfl rfl
  refine hquery.mono fun raw d hd => ⟨hd.1, ?_⟩
  rw [hd.2]
  exact ⟨h.pollErase.withLog _, rfl⟩

theorem awaitErase_succeeds (h : s.Has segments registers)
    (hdone : eraseDone ∈ s.polls.take (n + 1)) (p : Progress) :
    (awaitErase target n p).Succeeds transport s fun _ d => d.Has segments registers := by
  induction n generalizing s p with
  | zero =>
    refine (eraseProgress_succeeds h target.index).orFail.bind fun raw d hd => ?_
    obtain hraw | hlater := Simulator.pollErase_polls hdone
    · rw [if_pos (hd.1.trans hraw)]
      exact Procedure.succeeds_pure hd.2.1
    · rw [List.take_zero] at hlater
      exact absurd hlater List.not_mem_nil
  | succ n ih =>
    refine (eraseProgress_succeeds h target.index).orFail.bind fun raw d hd => ?_
    split
    · exact Procedure.succeeds_pure hd.2.1
    · next hraw =>
      obtain hfirst | hlater := Simulator.pollErase_polls hdone
      · exact absurd (hd.1.trans hfirst) hraw
      · refine (p.update_succeeds _).bind fun p' d' hd' => ?_
        rw [hd']
        refine Procedure.succeeds_tick.bind fun _ d'' hd'' => ?_
        rw [hd'']
        rw [← hd.2.2] at hlater
        exact ih hd.2.1 hlater p'

theorem erase_succeeds (htarget : target.IsErasable) (hi : target.index.toNat < segments.length)
    (h : s.Has (segments.set target.index.toNat g) registers) {timings : FlashTimings}
    (hdone : eraseDone ∈ s.polls.take (timings.erasePolls + 1)) :
    (erase target timings).Succeeds transport s fun _ d =>
      d.Has (segments.set target.index.toNat g.erase) registers := by
  have hexec := Simulator.execute_flashErase (s := s) (UInt8.ofNat target.index.toNat)
  rw [htarget.toNat_index] at hexec
  have herase := Simulator.command_succeeds h.failing_eq htarget.validate_flashErase rfl hexec
  rw [erase, if_pos htarget]
  refine herase.orFail.bind fun _ d hd => ?_
  obtain ⟨log, rfl⟩ := hd
  refine (awaitErase_succeeds ((h.modify hi).withLog log) hdone {}).bind fun p d hd => ?_
  refine (p.update_succeeds 100).bind fun _ d' hd' => Procedure.succeeds_pure ?_
  rw [hd']
  exact hd

theorem writeChunks_succeeds {first : Simulator} {old written : Bytes} {chunks : List Bytes}
    (hfirst : 1 ≤ target.index.toNat) (hlast : target.index.toNat ≤ segmentNumberMax)
    (hsound : first.failing = []) (hi : target.index.toNat < first.segments.length)
    (h : first.Rewrites target.index.toNat (g.holding (written ++ old.drop written.length)) s)
    (hchunks : ∀ chunk ∈ chunks, chunk.length ≤ flashWriteMax)
    (hsize : (written ++ chunks.flatten).length < UInt32.size) (total : Nat) (p : Progress) :
    (writeChunks target total written.length p chunks).Succeeds transport s fun _ d =>
      first.Rewrites target.index.toNat (g.holding
        (written ++ chunks.flatten ++ old.drop (written ++ chunks.flatten).length)) d := by
  induction chunks generalizing s written p with
  | nil =>
    rw [List.flatten_nil, List.append_nil]
    exact Procedure.succeeds_pure h
  | cons chunk chunks ih =>
    obtain ⟨hchunk, hothers⟩ := List.forall_mem_cons.mp hchunks
    rw [List.flatten_cons, ← List.append_assoc] at hsize ⊢
    have hoffset : (UInt32.ofNat written.length).toNat = written.length := by
      apply UInt32.toNat_ofNat_of_lt'
      simp only [List.length_append] at hsize
      omega
    have hvalid := Segment.validate_flashWrite hfirst hlast (UInt32.ofNat written.length) hchunk
    have hexec := Simulator.execute_flashWrite (s := s) target.index
      (UInt32.ofNat written.length) chunk
    rw [hoffset] at hexec
    have hwrite := Simulator.command_succeeds (h.failing_eq.trans hsound) hvalid rfl hexec
    refine hwrite.orFail.bind fun _ d hd => ?_
    obtain ⟨log, rfl⟩ := hd
    have hnow := h.modify (f := (·.write written.length chunk)) hi log
    rw [SimulatedSegment.write_holding] at hnow
    refine (p.update_succeeds _).bind fun p' d' hd' => ?_
    rw [hd']
    refine Procedure.succeeds_tick.bind fun _ d'' hd'' => ?_
    rw [hd'', ← List.length_append]
    exact ih hnow hothers hsize p'

theorem write_rewrites {data : Bytes} (hfirst : 1 ≤ target.index.toNat)
    (hlast : target.index.toNat ≤ segmentNumberMax) (hsound : s.failing = [])
    (hg : s.segments[target.index.toNat]? = some g) (hsize : data.length < UInt32.size) :
    (write target data).Succeeds transport s fun _ d =>
      s.Rewrites target.index.toNat (g.holding (data ++ g.contents.drop data.length)) d := by
  have hdata : (data.chunksOf flashWriteMax).flatten = data :=
    Bytes.flatten_chunksOf (by decide) data
  have hchunks : ∀ chunk ∈ data.chunksOf flashWriteMax, chunk.length ≤ flashWriteMax :=
    fun chunk hc => (Bytes.length_of_mem_chunksOf (by decide) hc).2
  have hall : ([] ++ (data.chunksOf flashWriteMax).flatten).length < UInt32.size := by
    rw [hdata]
    exact hsize
  have hi := (List.getElem?_eq_some_iff.mp hg).1
  have hstart : s.Rewrites target.index.toNat
      (g.holding ([] ++ g.contents.drop (List.length ([] : Bytes)))) s := .refl hg
  have hwritten := writeChunks_succeeds hfirst hlast hsound hi hstart hchunks hall data.length {}
  rw [List.nil_append, hdata] at hwritten
  refine hwritten.bind fun p d hd => (p.update_succeeds 100).bind fun _ d' hd' => ?_
  rw [hd']
  exact Procedure.succeeds_pure hd

theorem write_succeeds {data : Bytes} (hfirst : 1 ≤ target.index.toNat)
    (hlast : target.index.toNat ≤ segmentNumberMax) (hi : target.index.toNat < segments.length)
    (h : s.Has (segments.set target.index.toNat (g.holding [])) registers)
    (hsize : data.length < UInt32.size) :
    (write target data).Succeeds transport s fun _ d =>
      d.Has (segments.set target.index.toNat (g.holding data)) registers := by
  have hg : s.segments[target.index.toNat]? = some (g.holding []) := by
    rw [h.segments_eq]
    exact List.getElem?_set_self hi
  refine (write_rewrites hfirst hlast h.failing_eq hg hsize).mono fun _ d hd => ?_
  rw [SimulatedSegment.contents_holding, List.drop_nil, List.append_nil] at hd
  exact hd.has h

theorem updateApp_succeeds {directory : FlashDirectory} {p : FirmwarePayload} {id : UsbId}
    (hcheck : p.checkApp directory.upgrade id = .ok ())
    (hfirst : 1 ≤ directory.upgrade.index.toNat)
    (hlast : directory.upgrade.index.toNat ≤ segmentNumberMax)
    (hi : directory.upgrade.index.toNat < segments.length)
    (h : s.Has (segments.set directory.upgrade.index.toNat (g.holding [])) registers) :
    (updateApp directory p id).Succeeds transport s fun _ d =>
      d.Has (segments.set directory.upgrade.index.toNat (g.holding p.data)) registers := by
  have hsize : p.data.length < UInt32.size :=
    Nat.lt_of_le_of_lt (FirmwarePayload.checkApp_eq_ok.mp hcheck).1.2
      directory.upgrade.size.toNat_lt_size
  refine (Procedure.succeeds_ofExcept hcheck).bind fun _ d hd => ?_
  rw [hd.2]
  exact write_succeeds hfirst hlast hi h hsize

end Flash

end CardFirmware
