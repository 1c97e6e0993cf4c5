import CardFirmware.Proofs.Device.Reports
import CardFirmware.Proofs.Flash.Completion

/-! A write as it is sent. Its pieces go out one after the other until one of them is not
acknowledged; those that were sent are a prefix of the data, and all of it is sent by a write that
succeeds (`write_covers_data`). -/

namespace CardFirmware

open Device (checkedReply)

def Event.outcome? : Event → Option (Except TransportError Bytes)
  | .sent c reply => some (checkedReply c reply)
  | .heard _ | .reported _ | .ticked => none

@[simp] theorem Event.outcome?_reported (percents : List Nat) :
    (percents.map Event.reported).filterMap Event.outcome? = [] := by
  simp [List.filterMap_map, Function.comp_def, Event.outcome?]

def Link.outcomes {σ : Type} (l : Link σ) : List (Except TransportError Bytes) :=
  l.events.reverse.filterMap Event.outcome?

def Command.written : Command → Bytes
  | .flashWrite _ _ data => data
  | _ => []

theorem percentage_le (done total : Nat) : percentage done total ≤ 100 := by
  unfold percentage
  split
  · exact Nat.le_refl 100
  · exact Nat.min_le_right ..

namespace Flash

variable {s : Segment} {total offset : Nat} {p : Progress} {chunks : List Bytes} {es : List Event}

def writes (s : Segment) : Nat → List Bytes → List Command
  | _, [] => []
  | offset, chunk :: chunks =>
    .flashWrite s.index (UInt32.ofNat offset) chunk :: writes s (offset + chunk.length) chunks

def shares (total : Nat) : Nat → List Bytes → List Nat
  | _, [] => []
  | offset, chunk :: chunks =>
    percentage (offset + chunk.length) total :: shares total (offset + chunk.length) chunks

theorem writes_append (s : Segment) (offset : Nat) (before later : List Bytes) :
    writes s offset (before ++ later) =
      writes s offset before ++ writes s (offset + before.flatten.length) later := by
  induction before generalizing offset with
  | nil => rfl
  | cons chunk before ih =>
    rw [List.cons_append, writes, writes, ih, List.cons_append, List.flatten_cons,
      List.length_append, Nat.add_assoc]

@[simp] theorem length_writes (s : Segment) (offset : Nat) (chunks : List Bytes) :
    (writes s offset chunks).length = chunks.length := by
  induction chunks generalizing offset with
  | nil => rfl
  | cons chunk chunks ih => exact congrArg (· + 1) (ih _)

theorem written_writes (s : Segment) (offset : Nat) (chunks : List Bytes) :
    (writes s offset chunks).flatMap Command.written = chunks.flatten := by
  induction chunks generalizing offset with
  | nil => rfl
  | cons chunk chunks ih =>
    rw [writes, List.flatMap_cons, ih]
    rfl

theorem getElem?_writes {i : Nat} {c : Command} (h : (writes s offset chunks)[i]? = some c) :
    ∃ chunk, chunks[i]? = some chunk ∧
      c = .flashWrite s.index (UInt32.ofNat (offset + (chunks.take i).flatten.length)) chunk := by
  induction chunks generalizing offset i with
  | nil => cases h
  | cons chunk chunks ih =>
    cases i with
    | zero =>
      cases h
      exact ⟨chunk, rfl, rfl⟩
    | succ i =>
      obtain ⟨chunk', hchunk, rfl⟩ := ih h
      refine ⟨chunk', hchunk, ?_⟩
      rw [List.take_succ_cons, List.flatten_cons, List.length_append, Nat.add_assoc]

structure Acknowledged (s : Segment) (total offset : Nat) (p : Progress) (chunks : List Bytes)
    (es : List Event) : Prop where
  commands_eq : es.filterMap Event.command? = writes s offset chunks
  outcomes_eq : es.filterMap Event.outcome? = List.replicate chunks.length (.ok [])
  reports_eq : es.filterMap Event.percent? = p.reported (shares total offset chunks)

theorem acknowledged_nil (s : Segment) (total offset : Nat) (p : Progress) :
    Acknowledged s total offset p [] [] := ⟨rfl, rfl, rfl⟩

theorem Acknowledged.cons {chunk : Bytes} {reply : Except TransportError Bytes}
    (hreply : checkedReply (.flashWrite s.index (UInt32.ofNat offset) chunk) reply = .ok [])
    (h : Acknowledged s total (offset + chunk.length)
      (p.after [percentage (offset + chunk.length) total]) chunks es) :
    Acknowledged s total offset p (chunk :: chunks)
      (.sent (.flashWrite s.index (UInt32.ofNat offset) chunk) reply ::
        ((p.reported [percentage (offset + chunk.length) total]).map .reported ++
          .ticked :: es)) where
  commands_eq := by
    simp only [List.filterMap_cons, List.filterMap_append, Event.command?,
      Event.command?_reported, h.commands_eq]
    rfl
  outcomes_eq := by
    simp only [List.filterMap_cons, List.filterMap_append, Event.outcome?,
      Event.outcome?_reported, hreply, h.outcomes_eq]
    rfl
  reports_eq := by
    simp only [List.filterMap_cons, List.filterMap_append, Event.percent?,
      Event.percent?_reported, h.reports_eq]
    exact (p.reported_append [percentage (offset + chunk.length) total] _).symm

theorem writeChunks_cases (hfirst : 1 ≤ s.index.toNat) (hlast : s.index.toNat ≤ segmentNumberMax)
    (hchunks : ∀ chunk ∈ chunks, chunk.length ≤ flashWriteMax)
    {r : Except DriverError Progress} (h : (writeChunks s total offset p chunks).Runs es r) :
    (r = .ok (p.after (shares total offset chunks)) ∧ Acknowledged s total offset p chunks es) ∨
      ∃ done chunk rest before reply e, chunks = done ++ chunk :: rest ∧
        Acknowledged s total offset p done before ∧
        es = before ++ [.sent
          (.flashWrite s.index (UInt32.ofNat (offset + done.flatten.length)) chunk) reply] ∧
        checkedReply (.flashWrite s.index (UInt32.ofNat (offset + done.flatten.length)) chunk)
          reply = .error e ∧
        r = .error (.write e) := by
  induction chunks generalizing offset p es with
  | nil =>
    obtain ⟨rfl, rfl⟩ := Procedure.runs_pure.mp h
    exact .inl ⟨rfl, acknowledged_nil s total offset p⟩
  | cons chunk chunks ih =>
    obtain ⟨hchunk, hothers⟩ := List.forall_mem_cons.mp hchunks
    have hvalid := Segment.validate_flashWrite hfirst hlast (UInt32.ofNat offset) hchunk
    obtain ⟨reply, ⟨e, hreply, rfl, rfl⟩ | ⟨rest, hreply, rfl, hrest⟩⟩ :=
      Device.runs_commandCall hvalid rfl h
    · exact .inr ⟨[], chunk, chunks, [], reply, e, rfl, acknowledged_nil .., rfl, hreply, rfl⟩
    · obtain ⟨later, rfl, hlater⟩ := Progress.runs_step (percentage_le ..) hrest
      obtain ⟨rfl, hsent⟩ | ⟨done, chunk', rest', before, reply', e, rfl, hsent, rfl, he, rfl⟩ :=
        ih hothers hlater
      · exact .inl ⟨rfl, hsent.cons hreply⟩
      · refine .inr ⟨chunk :: done, chunk', rest', _, reply', e, rfl, hsent.cons hreply, ?_⟩
        rw [List.flatten_cons, List.length_append, ← Nat.add_assoc]
        exact ⟨by simp, he, rfl⟩

theorem write_cases (hfirst : 1 ≤ s.index.toNat) (hlast : s.index.toNat ≤ segmentNumberMax)
    {data : Bytes} {r : Except DriverError Unit} (h : (write s data).Runs es r) :
    (∃ before, r = .ok () ∧
        Acknowledged s data.length 0 {} (data.chunksOf flashWriteMax) before ∧
        es = before ++ ((Progress.after {} (shares data.length 0
          (data.chunksOf flashWriteMax))).reported [100]).map .reported) ∨
      ∃ done chunk rest before reply e, data.chunksOf flashWriteMax = done ++ chunk :: rest ∧
        Acknowledged s data.length 0 {} done before ∧
        es = before ++ [.sent
          (.flashWrite s.index (UInt32.ofNat (0 + done.flatten.length)) chunk) reply] ∧
        checkedReply (.flashWrite s.index (UInt32.ofNat (0 + done.flatten.length)) chunk)
          reply = .error e ∧
        r = .error (.write e) := by
  have hchunks : ∀ chunk ∈ data.chunksOf flashWriteMax, chunk.length ≤ flashWriteMax :=
    fun chunk hc => (Bytes.length_of_mem_chunksOf (by decide) hc).2
  obtain ⟨e, hfail, rfl⟩ | ⟨p, before, es₂, rfl, hwritten, hfinish⟩ := Procedure.runs_bind.mp h
  · obtain ⟨hr, -⟩ | ⟨done, chunk, rest, before, reply, e', hcut, hdone, rfl, he, hr⟩ :=
      writeChunks_cases hfirst hlast hchunks hfail
    · cases hr
    · cases hr
      exact .inr ⟨done, chunk, rest, before, reply, e', hcut, hdone, rfl, he, rfl⟩
  · obtain ⟨rfl, rfl⟩ := Progress.runs_finish hfinish
    obtain ⟨hr, hall⟩ | ⟨done, chunk, rest, before, reply, e', -, -, -, -, hr⟩ :=
      writeChunks_cases hfirst hlast hchunks hwritten
    · cases hr
      exact .inl ⟨before, rfl, hall, rfl⟩
    · cases hr

theorem write_sent (hfirst : 1 ≤ s.index.toNat) (hlast : s.index.toNat ≤ segmentNumberMax)
    {data : Bytes} {r : Except DriverError Unit} (h : (write s data).Runs es r) :
    ∃ sent rest, data.chunksOf flashWriteMax = sent ++ rest ∧
      es.filterMap Event.command? = writes s 0 sent ∧
      ((rest = [] ∧ r = .ok () ∧
          es.filterMap Event.outcome? = List.replicate sent.length (.ok [])) ∨
        ∃ k e, sent.length = k + 1 ∧ r = .error (.write e) ∧
          es.filterMap Event.outcome? = List.replicate k (.ok []) ++ [.error e]) := by
  obtain ⟨before, rfl, hall, rfl⟩ |
    ⟨done, chunk, rest, before, reply, e, hcut, hdone, rfl, he, rfl⟩ := write_cases hfirst hlast h
  · refine ⟨_, [], (List.append_nil _).symm, ?_, .inl ⟨rfl, rfl, ?_⟩⟩
    · rw [List.filterMap_append, Event.command?_reported, hall.commands_eq, List.append_nil]
    · rw [List.filterMap_append, Event.outcome?_reported, hall.outcomes_eq, List.append_nil]
  · have hlength : (done ++ [chunk]).length = done.length + 1 := by simp
    refine ⟨done ++ [chunk], rest, by rw [hcut]; simp, ?_, .inr ⟨_, e, hlength, rfl, ?_⟩⟩
    · rw [List.filterMap_append, hdone.commands_eq, writes_append]
      rfl
    · rw [List.filterMap_append, hdone.outcomes_eq]
      simp only [List.filterMap_cons, Event.outcome?, he, List.filterMap_nil]

theorem getElem?_write {data : Bytes} {sent rest : List Bytes} {i : Nat} {c : Command}
    (hcut : data.chunksOf flashWriteMax = sent ++ rest) (hdata : data.length < UInt32.size)
    (hc : (writes s 0 sent)[i]? = some c) :
    ∃ offset chunk, c = .flashWrite s.index offset chunk ∧ offset.toNat = flashWriteMax * i ∧
      1 ≤ chunk.length ∧ chunk.length ≤ flashWriteMax := by
  obtain ⟨chunk, hchunk, rfl⟩ := getElem?_writes hc
  have hi : i < sent.length := (List.getElem?_eq_some_iff.mp hchunk).1
  have hmem : chunk ∈ data.chunksOf flashWriteMax := by
    rw [hcut]
    exact List.mem_append_left _ (List.mem_of_getElem? hchunk)
  have hbefore : (sent.take i).flatten = data.take (flashWriteMax * i) := by
    rw [← Bytes.flatten_take_chunksOf (by decide), hcut,
      List.take_append_of_le_length (Nat.le_of_lt hi)]
  have hfull : flashWriteMax * i ≤ data.length := by
    have hcount := Bytes.length_chunksOf (n := flashWriteMax) (by decide) data
    rw [hcut, List.length_append, flashWriteMax, pageSize] at hcount
    rw [flashWriteMax, pageSize]
    omega
  have hoffset : (0 + (sent.take i).flatten.length) = flashWriteMax * i := by
    rw [hbefore, List.length_take, Nat.min_eq_left hfull, Nat.zero_add]
  obtain ⟨hpos, hmax⟩ := Bytes.length_of_mem_chunksOf (by decide) hmem
  refine ⟨_, chunk, rfl, ?_, hpos, hmax⟩
  rw [hoffset]
  exact UInt32.toNat_ofNat_of_lt' (Nat.lt_of_le_of_lt hfull hdata)

theorem getElem?_failed {k n : Nat} {e e' : TransportError}
    (h : (List.replicate n (.ok []) ++ [.error e'] : List (Except TransportError Bytes))[k]? =
      some (.error e)) : k = n ∧ e = e' := by
  rw [List.getElem?_append, List.length_replicate] at h
  split at h
  · cases List.eq_of_mem_replicate (List.mem_of_getElem? h)
  · next hk =>
    obtain ⟨hlt, h⟩ := List.getElem?_eq_some_iff.mp h
    have hzero : k - n = 0 := Nat.lt_one_iff.mp hlt
    simp only [hzero, List.getElem_cons_zero, Except.error.injEq] at h
    exact ⟨by omega, h.symm⟩

theorem written_prefix {data : Bytes} {sent rest : List Bytes}
    (hcut : data.chunksOf flashWriteMax = sent ++ rest) : sent.flatten <+: data := by
  have hdata : (data.chunksOf flashWriteMax).flatten = data :=
    Bytes.flatten_chunksOf (by decide) data
  rw [hcut, List.flatten_append] at hdata
  exact ⟨rest.flatten, hdata⟩

/-- The commands of a write are for pieces of the data, one behind the other. If one of them fails
it is the last, and the write fails with it; otherwise all of the data was sent. A device on which
nothing fails then holds the data over what the segment held before, and has not changed apart from
this. -/
theorem write_covers_data (s : Segment) (data : Bytes) (hfirst : 1 ≤ s.index.toNat)
    (hlast : s.index.toNat ≤ 16) (hdata : data.length ≤ 16 * 1024 * 1024) :
    (∀ {σ : Type} (t : Transport σ) (device : σ),
      let (result, link) := (write s data).perform t device
      (∀ (i : Nat) (c : Command), link.commands[i]? = some c →
        ∃ offset chunk, c = .flashWrite s.index offset chunk ∧ offset.toNat = 1012 * i ∧
          1 ≤ chunk.length ∧ chunk.length ≤ 1012 ∧ c.validate = .ok ()) ∧
      link.commands.flatMap Command.written <+: data ∧
      (result = .ok () → link.commands.flatMap Command.written = data) ∧
      (∀ (k : Nat) (e : TransportError), link.outcomes[k]? = some (.error e) →
        link.commands.length = k + 1 ∧ result = .error (.write e)) ∧
      ((∀ outcome ∈ link.outcomes, outcome = .ok []) → result = .ok ())) ∧
    ∀ (device : Simulator) (g : SimulatedSegment), device.failing = [] →
      device.segments[s.index.toNat]? = some g →
      let (result, link) := (write s data).perform Simulator.transport device
      result = .ok () ∧ ∃ writes log, link.device = { device with
        segments := device.segments.set s.index.toNat
          { g with memory := (data ++ g.contents.drop data.length).toArray }
        writes, log } := by
  have hsize : data.length < UInt32.size := Nat.lt_of_le_of_lt hdata (by decide)
  constructor
  · intro σ t device
    have hruns := Procedure.runs_perform t (write s data) device
    generalize (write s data).perform t device = out at hruns
    obtain ⟨result, link⟩ := out
    obtain ⟨sent, rest, hcut, hcommands, hend⟩ := write_sent hfirst hlast hruns
    have hwritten : link.commands.flatMap Command.written = sent.flatten := by
      rw [Link.commands_eq, hcommands, written_writes]
    have hlength : link.commands.length = sent.length := by
      rw [Link.commands_eq, hcommands, length_writes]
    refine ⟨fun i c hc => ?_, ?_, fun hok => ?_, fun k e hk => ?_, fun hall => ?_⟩
    · rw [Link.commands_eq, hcommands] at hc
      obtain ⟨offset, chunk, rfl, hoffset, hpos, hmax⟩ := getElem?_write hcut hsize hc
      exact ⟨offset, chunk, rfl, hoffset, hpos, hmax,
        s.validate_flashWrite hfirst hlast offset hmax⟩
    · rw [hwritten]
      exact written_prefix hcut
    · obtain ⟨rfl, -, -⟩ | ⟨k, e, -, hr, -⟩ := hend
      · rw [hwritten, ← List.append_nil sent, ← hcut]
        exact Bytes.flatten_chunksOf (by decide) data
      · cases hok.symm.trans hr
    · rw [hlength]
      obtain ⟨-, -, houtcomes⟩ | ⟨n, e', hn, rfl, houtcomes⟩ := hend
      · rw [Link.outcomes, houtcomes] at hk
        cases List.eq_of_mem_replicate (List.mem_of_getElem? hk)
      · rw [Link.outcomes, houtcomes] at hk
        obtain ⟨rfl, rfl⟩ := getElem?_failed hk
        exact ⟨hn, rfl⟩
    · obtain ⟨-, rfl, -⟩ | ⟨n, e, -, -, houtcomes⟩ := hend
      · rfl
      · have hlast := hall (.error e) (by rw [Link.outcomes, houtcomes]; simp)
        cases hlast
  · intro device g hsound hg
    obtain ⟨result, link, hrun, hdevice⟩ := write_rewrites hfirst hlast hsound hg hsize []
    generalize hperform : (write s data).perform Simulator.transport device = out
    cases hperform.symm.trans hrun
    exact ⟨rfl, hdevice⟩

/-- One byte more than a write takes, over two more that stay. -/
theorem write_over_old :
    let data : Bytes := List.replicate 1013 1
    let old : SimulatedSegment :=
      { name := "App_Upgrade", size := 0x80000, memory := Array.replicate 1015 9 }
    let device : Simulator := { segments := [{ name := "App_Gold", size := 0x80000 }, old] }
    let (result, link) := (write ⟨1, 0x80000⟩ data).perform Simulator.transport device
    result = .ok () ∧ 1 < link.commands.length ∧
      link.device.segments.map (·.contents) = [[], data ++ [9, 9]] := by
  generalize hones : List.replicate 1013 (1 : UInt8) = ones
  intro data old device
  have hlength : data.length = 1013 :=
    (congrArg List.length hones).symm.trans List.length_replicate
  have hcovers := write_covers_data ⟨1, 0x80000⟩ data (by decide) (by decide) (by omega)
  have hcommands := hcovers.1 Simulator.transport device
  have hdevice := hcovers.2 device old rfl rfl
  generalize (write ⟨1, 0x80000⟩ data).perform Simulator.transport device = run
    at hcommands hdevice ⊢
  obtain ⟨result, link⟩ := run
  obtain ⟨hcommands, -, hwritten, -⟩ := hcommands
  obtain ⟨hok, writes, log, hdevice⟩ := hdevice
  refine ⟨hok, ?_, ?_⟩
  · have hsum := congrArg List.length (hwritten hok)
    rw [hlength] at hsum
    generalize link.commands = commands at hcommands hsum ⊢
    -- A single command writes fewer bytes.
    match commands with
    | [] => cases hsum
    | [c] =>
      obtain ⟨offset, chunk, rfl, -, -, hmax, -⟩ := hcommands 0 c rfl
      have hchunk : chunk.length = 1013 := by simpa [Command.written] using hsum
      omega
    | _ :: _ :: _ => simp
  · have hrest : old.contents.drop data.length = [9, 9] := by
      rw [hlength, SimulatedSegment.contents, Array.toList_replicate, List.drop_replicate]
      rfl
    rw [hdevice, hrest]
    rfl

end Flash

end CardFirmware
