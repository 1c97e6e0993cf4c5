import CardFirmware.Proofs.Esp.Bounds
import CardFirmware.Proofs.Flash.Shares

/-! Progress only moves forward. What writes and updates report are shares of the data in order,
between a start and an end: it rises, and it reaches 100 percent at the end of what succeeds
(`progress_moves_forward`). -/

namespace CardFirmware

namespace Esp

variable {config : EspConfig} {timings : DfuTimings} {es : List Event}

theorem sendBlocks_reports {total offset : Nat} {p : Progress} {blocks : List Bytes}
    {r : Except DfuError Progress}
    (h : (sendBlocks config timings total offset p blocks).Runs es r) :
    ∃ done rest, blocks = done ++ rest ∧
      es.filterMap Event.percent? = p.reported (Flash.shares total offset done) ∧
      ∀ q, r = .ok q → rest = [] ∧ q = p.after (Flash.shares total offset done) := by
  induction blocks generalizing offset p es with
  | nil =>
    obtain ⟨rfl, rfl⟩ := Procedure.runs_pure.mp h
    refine ⟨[], [], rfl, rfl, ?_⟩
    rintro q ⟨⟩
    exact ⟨rfl, rfl⟩
  | cons block blocks ih =>
    have hsend : ((Device.espDfuWrite block).orFail DfuError.write).Silent :=
      (Device.silent_command _).orFail
    have hawait := (takes_awaitNotify config timings.notificationReads
      config.notifications.nextBlock "next block request" timings.notifyAttempts).silent
    obtain ⟨⟨e, rfl⟩, hes⟩ | ⟨⟨⟩, es₁, h₁, hes⟩ := hsend.runs_bind h
    · exact ⟨[], block :: blocks, rfl, hes, fun _ hr => nomatch hr⟩
    · obtain ⟨⟨e, rfl⟩, hes₁⟩ | ⟨⟨⟩, es₂, h₂, hes₁⟩ := hawait.runs_bind h₁
      · exact ⟨[], block :: blocks, rfl, hes.trans hes₁, fun _ hr => nomatch hr⟩
      · obtain ⟨later, rfl, hlater⟩ := Progress.runs_step (percentage_le ..) h₂
        obtain ⟨done, rest, rfl, hreports, hend⟩ := ih hlater
        refine ⟨block :: done, rest, rfl, ?_, hend⟩
        rw [hes, hes₁, List.filterMap_append, Event.percent?_reported,
          List.filterMap_cons_none rfl, hreports]
        exact (p.reported_append [percentage (offset + block.length) total] _).symm

theorem transfer_reports {data : Bytes} {md5 : Octets 16} {p : Progress}
    {r : Except DfuError Progress} (h : (transfer config timings data md5 p).Runs es r) :
    ∃ done rest, data.chunksOf espBlockSize = done ++ rest ∧
      es.filterMap Event.percent? = p.reported (Flash.shares data.length 0 done) ∧
      ∀ q, r = .ok q → rest = [] ∧ q = p.after (Flash.shares data.length 0 done) := by
  rw [transfer_eq] at h
  have hstate := (takes_state config timings.notificationReads).silent
  obtain ⟨⟨e, rfl⟩, hes⟩ | ⟨found, es₁, h₁, hes⟩ := hstate.runs_bind h
  · exact ⟨[], _, rfl, hes, fun _ hr => nomatch hr⟩
  obtain ⟨⟨e, rfl⟩, hes₁⟩ | ⟨⟨⟩, es₂, h₂, hes₁⟩ :=
    (takes_makeOff config timings found).silent.runs_bind h₁
  · exact ⟨[], _, rfl, hes.trans hes₁, fun _ hr => nomatch hr⟩
  obtain ⟨⟨e, rfl⟩, hes₂⟩ | ⟨⟨⟩, es₃, h₃, hes₂⟩ :=
    (takes_start config timings data md5).silent.runs_bind h₂
  · exact ⟨[], _, rfl, (hes.trans hes₁).trans hes₂, fun _ hr => nomatch hr⟩
  rw [hes, hes₁, hes₂]
  obtain ⟨e, hblocks, rfl⟩ | ⟨q, es₄, es₅, rfl, hblocks, hend⟩ := Procedure.runs_bind.mp h₃
  · exact sendBlocks_reports hblocks
  · obtain ⟨done, rest, hcut, hreports, hq⟩ := sendBlocks_reports hblocks
    have hconclude := (takes_conclude config timings).silent
    have hes₅ := (hconclude.bind fun _ => Procedure.silent_pure q) es₅ r hend
    refine ⟨done, rest, hcut, by rw [List.filterMap_append, hreports, hes₅, List.append_nil], ?_⟩
    rintro q' rfl
    obtain ⟨e, -, hr⟩ | ⟨⟨⟩, es₆, es₇, -, -, hpure⟩ := Procedure.runs_bind.mp hend
    · cases hr
    · obtain ⟨-, hq'⟩ := Procedure.runs_pure.mp hpure
      cases hq'
      exact hq q rfl

theorem update_reports {id : UsbId} {payload : FirmwarePayload} {r : Except DriverError Unit}
    (hid : payload.checkUsbId id = .ok ()) (hdigest : payload.hasDigest)
    (h : (update (some config) id payload timings).Runs es r) :
    ∃ done rest, payload.data.chunksOf espBlockSize = done ++ rest ∧
      es.filterMap Event.percent? =
        ((0 :: Flash.shares payload.data.length 0 done) ++ Flash.ending r).destutter (· ≠ ·) ∧
      (r = .ok () → rest = []) := by
  rw [update, hid, if_pos hdigest] at h
  obtain ⟨r', es₁, htransfer, rfl, rfl⟩ := runs_checked timings h
  obtain ⟨done, rest, hcut, hreports, hend⟩ := transfer_reports htransfer
  refine ⟨done, rest, hcut, ?_, fun hr => ?_⟩
  · rw [List.filterMap_cons_some (f := Event.percent?) rfl, List.filterMap_append,
      Event.percent?_reported, hreports, ← Progress.reported_eq_destutter]
    cases r' with
    | error e =>
      simp only [Except.mapError, Except.map, Flash.ending, Progress.ended, List.append_nil]
      rfl
    | ok q =>
      rw [(hend q rfl).2, Progress.ended, ← Progress.reported_append]
      rfl
  · cases r' with
    | error e => cases hr
    | ok q => exact (hend q rfl).1

theorem update_refused {config : Option EspConfig} {id : UsbId} {payload : FirmwarePayload}
    {r : Except DriverError Unit}
    (hrefused : ¬(config.isSome ∧ payload.vid = id.vid ∧ payload.pid = id.pid ∧
      Sha256.hash payload.data = payload.sha256))
    (h : (update config id payload timings).Runs es r) : es = [] ∧ ∃ e, r = .error e := by
  obtain hnothing | ⟨c, r', es₁, es₂, rfl, hid, hdigest, -⟩ := runs_update timings h
  · exact hnothing
  · obtain ⟨hvid, hpid⟩ := FirmwarePayload.checkUsbId_eq_ok.mp hid
    exact absurd ⟨rfl, hvid, hpid, FirmwarePayload.hasDigest_iff.mp hdigest⟩ hrefused

end Esp

structure MovesForward (reports : List Nat) (r : Except DriverError Unit) : Prop where
  rises : reports.Pairwise (· < ·)
  le_hundred : ∀ percent ∈ reports, percent ≤ 100
  ends : r = .ok () → reports.getLast? = some 100

theorem Flash.ending_forward {percents : List Nat} (hpercents : percents.Pairwise (· ≤ ·))
    (hle : ∀ p ∈ percents, p ≤ 100) (r : Except DriverError Unit) :
    MovesForward ((percents ++ ending r).destutter (· ≠ ·)) r where
  rises := ending_rises hpercents hle r
  le_hundred p hp := by
    obtain hp | hp := List.mem_append.mp ((List.destutter_sublist _ _).subset hp)
    · exact hle p hp
    · cases r with
      | ok v => exact Nat.le_of_eq (List.mem_singleton.mp hp)
      | error e => exact absurd hp List.not_mem_nil
  ends := by
    rintro rfl
    rw [Progress.getLast?_destutter]
    exact List.getLast?_concat

section Forward

variable {s : Segment} {data : Bytes} {es : List Event} {r : Except DriverError Unit}

theorem Flash.write_forward (hdata : data.length * 100 < UInt64.size)
    (h : (write s data).Runs es r) :
    MovesForward (es.filterMap Event.percent?) r ∧
      (100 ∈ es.filterMap Event.percent? ↔ r = .ok ()) ∧
      es.filterMap Event.percent? =
        (((List.range ((es.filterMap Event.outcome?).countP (·.isOk))).map
          (share flashWriteMax data.length)) ++ ending r).destutter (· ≠ ·) := by
  have hpiece : 0 < flashWriteMax := by decide
  obtain ⟨done, rest, hcut, hreports, hcount, hend⟩ := write_reports h
  rw [shares_chunksOf hpiece hdata hcut] at hreports
  rw [hreports, hcount]
  have hforward := ending_forward (shares_pairwise flashWriteMax data.length done.length)
    (fun p hp => le_of_mem_shares hp) r
  refine ⟨hforward, ⟨fun hp => ?_, fun hok => List.mem_of_getLast? (hforward.ends hok)⟩, rfl⟩
  -- 100 comes from the end alone: while a piece is missing, its share is, too.
  by_contra hfailed
  have hrest : rest ≠ [] := fun h => hfailed (hend.mpr h)
  obtain hp | hp := List.mem_append.mp ((List.destutter_sublist _ _).subset hp)
  · exact absurd (lt_of_mem_shares hpiece hcut hrest hp) (Nat.lt_irrefl 100)
  · cases r with
    | ok v => exact hfailed rfl
    | error e => exact absurd hp List.not_mem_nil

theorem Esp.update_forward {config : EspConfig} {id : UsbId} {payload : FirmwarePayload}
    {timings : DfuTimings} (hdata : payload.data.length * 100 < UInt64.size)
    (hid : payload.checkUsbId id = .ok ()) (hdigest : payload.hasDigest)
    (h : (update (some config) id payload timings).Runs es r) :
    MovesForward (es.filterMap Event.percent?) r ∧
      (es.filterMap Event.percent?).head? = some 0 ∧
      (payload.data = [] → r = .ok () → es.filterMap Event.percent? = [0, 100]) := by
  obtain ⟨done, rest, hcut, hreports, -⟩ := update_reports hid hdigest h
  rw [Flash.shares_chunksOf (by decide) hdata hcut] at hreports
  rw [hreports]
  refine ⟨?_, ?_, fun hnil hok => ?_⟩
  · exact Flash.ending_forward
      (List.pairwise_cons.mpr ⟨fun p _ => Nat.zero_le p, Flash.shares_pairwise ..⟩)
      (List.forall_mem_cons.mpr ⟨Nat.zero_le 100, fun p hp => Flash.le_of_mem_shares hp⟩) r
  · rw [List.cons_append, ← Progress.reported_eq_destutter]
    rfl
  · subst hok
    rw [hnil] at hcut
    obtain ⟨rfl, rfl⟩ := List.append_eq_nil_iff.mp hcut.symm
    rfl

end Forward

/-- What a write and an update of the coprocessor report moves forward. A write reports the shares
of the pieces that were acknowledged, with repeats left out, and reaches 100 only if it succeeds. An
update reports nothing if it is refused; otherwise it starts with 0, also where there is nothing to
send. -/
theorem progress_moves_forward {σ : Type} (t : Transport σ) (device : σ) :
    (∀ (s : Segment) (data : Bytes), data.length ≤ 16 * 1024 * 1024 →
      let (result, link) := (Flash.write s data).perform t device
      MovesForward link.reports result ∧ (100 ∈ link.reports ↔ result = .ok ()) ∧
      link.reports = (((List.range (link.outcomes.countP (·.isOk))).map fun i =>
        min (1012 * (i + 1)) data.length * 100 / data.length) ++
          (match result with | .ok () => [100] | .error _ => [])).destutter (· ≠ ·)) ∧
    ∀ (config : Option EspConfig) (id : UsbId) (payload : FirmwarePayload) (timings : DfuTimings),
      payload.data.length ≤ 16 * 1024 * 1024 →
      let (result, link) := (Esp.update config id payload timings).perform t device
      MovesForward link.reports result ∧
      (if config.isSome ∧ payload.vid = id.vid ∧ payload.pid = id.pid ∧
          Sha256.hash payload.data = payload.sha256
        then link.reports.head? = some 0
        else link.reports = []) ∧
      (payload.data = [] → result = .ok () → link.reports = [0, 100]) := by
  have hsize {n : Nat} (hn : n ≤ 16 * 1024 * 1024) : n * 100 < UInt64.size :=
    Nat.lt_of_le_of_lt (Nat.mul_le_mul_right 100 hn) (by decide)
  constructor
  · intro s data hdata
    have hruns := Procedure.runs_perform t (Flash.write s data) device
    generalize (Flash.write s data).perform t device = out at hruns
    obtain ⟨result, link⟩ := out
    obtain ⟨hforward, hend, hreports⟩ := Flash.write_forward (hsize hdata) hruns
    rw [← Link.reports_eq] at hforward hend hreports
    refine ⟨hforward, hend, hreports.trans ?_⟩
    cases result <;> rfl
  · intro config id payload timings hdata
    have hruns := Procedure.runs_perform t (Esp.update config id payload timings) device
    generalize (Esp.update config id payload timings).perform t device = out at hruns
    obtain ⟨result, link⟩ := out
    change (Esp.update config id payload timings).Runs link.events.reverse result at hruns
    change MovesForward link.reports result ∧ _
    rw [Link.reports_eq]
    split
    · next hall =>
      obtain ⟨hsome, hvid, hpid, hdigest⟩ := hall
      obtain ⟨c, rfl⟩ := Option.isSome_iff_exists.mp hsome
      exact Esp.update_forward (hsize hdata) (FirmwarePayload.checkUsbId_eq_ok.mpr ⟨hvid, hpid⟩)
        (FirmwarePayload.hasDigest_iff.mpr hdigest) hruns
    · next hrefused =>
      obtain ⟨hnil, e, rfl⟩ := Esp.update_refused hrefused hruns
      rw [hnil]
      refine ⟨⟨List.Pairwise.nil, fun p hp => absurd hp List.not_mem_nil, fun hok => ?_⟩, rfl,
        fun _ hok => ?_⟩
      · cases hok
      · cases hok

end CardFirmware
