import CardFirmware.Proofs.Flash.ErasePolls
import CardFirmware.Proofs.Flash.Writing

/-! The shares of some data that its first pieces make up. They do not fall, and they are below 100
percent as long as a piece is missing. A write reports those of the pieces that were acknowledged,
and 100 once all of them were (`write_reports`). -/

namespace CardFirmware

namespace Flash

def share (n total i : Nat) : Nat := min (n * (i + 1)) total * 100 / total

section Shares

variable {n total i j k : Nat} {data : Bytes} {done rest : List Bytes}

theorem share_mono (h : i ≤ j) : share n total i ≤ share n total j := by
  have hpieces : n * (i + 1) ≤ n * (j + 1) := Nat.mul_le_mul_left n (Nat.succ_le_succ h)
  have hdone : min (n * (i + 1)) total ≤ min (n * (j + 1)) total := by omega
  exact Nat.div_le_div_right (Nat.mul_le_mul_right 100 hdone)

theorem share_le (n total i : Nat) : share n total i ≤ 100 := by
  refine Nat.div_le_of_le_mul ?_
  exact Nat.mul_le_mul_right 100 (Nat.min_le_right ..)

theorem share_lt (h : n * (i + 1) < total) : share n total i < 100 := by
  rw [share, Nat.min_eq_left (Nat.le_of_lt h), Nat.div_lt_iff_lt_mul (Nat.zero_lt_of_lt h)]
  omega

theorem shares_eq_map (total offset : Nat) (chunks : List Bytes) :
    shares total offset chunks = (List.range chunks.length).map fun i =>
      percentage (offset + (chunks.take (i + 1)).flatten.length) total := by
  induction chunks generalizing offset with
  | nil => rfl
  | cons chunk chunks ih =>
    rw [shares, ih, List.length_cons, List.range_succ_eq_map, List.map_cons, List.map_map]
    simp [Function.comp_def, Nat.add_assoc]

theorem shares_chunksOf (hn : 0 < n) (hdata : data.length * 100 < UInt64.size)
    (hcut : data.chunksOf n = done ++ rest) :
    shares data.length 0 done = (List.range done.length).map (share n data.length) := by
  rw [shares_eq_map]
  refine List.map_congr_left fun i hi => ?_
  have hi : i < done.length := List.mem_range.mp hi
  have htaken : (done.take (i + 1)).flatten = data.take (n * (i + 1)) := by
    rw [← Bytes.flatten_take_chunksOf hn, hcut, List.take_append_of_le_length hi]
  have hpos : 0 < data.length := by
    refine List.length_pos_iff.mpr fun hnil => ?_
    subst hnil
    rw [(List.append_eq_nil_iff.mp hcut.symm).1] at hi
    exact Nat.not_lt_zero i hi
  have hlength : 0 + (data.take (n * (i + 1))).length = min (n * (i + 1)) data.length := by
    rw [List.length_take, Nat.zero_add]
  have hdone : min (n * (i + 1)) data.length * 100 < UInt64.size :=
    Nat.lt_of_le_of_lt (Nat.mul_le_mul_right 100 (Nat.min_le_right ..)) hdata
  rw [htaken, hlength, percentage_eq hdone hpos]
  exact Nat.min_eq_right (share_le n data.length i)

theorem shares_pairwise (n total k : Nat) :
    ((List.range k).map (share n total)).Pairwise (· ≤ ·) :=
  List.pairwise_map.mpr (List.pairwise_lt_range.imp fun h => share_mono (Nat.le_of_lt h))

theorem le_of_mem_shares {p : Nat} (h : p ∈ (List.range k).map (share n total)) : p ≤ 100 := by
  obtain ⟨i, -, rfl⟩ := List.mem_map.mp h
  exact share_le n total i

theorem lt_of_mem_shares (hn : 0 < n) (hcut : data.chunksOf n = done ++ rest) (hrest : rest ≠ [])
    {p : Nat} (h : p ∈ (List.range done.length).map (share n data.length)) : p < 100 := by
  obtain ⟨i, hi, rfl⟩ := List.mem_map.mp h
  have hi : i < done.length := List.mem_range.mp hi
  have hmore : 0 < rest.length := List.length_pos_iff.mpr hrest
  have hcount : i + 2 ≤ (data.length + (n - 1)) / n := by
    rw [← Bytes.length_chunksOf hn, hcut, List.length_append]
    omega
  have hpieces : n * (i + 1) + n ≤ data.length + (n - 1) := by
    rw [← Nat.mul_succ, Nat.mul_comm]
    exact (Nat.le_div_iff_mul_le hn).mp hcount
  exact share_lt (by omega)

end Shares

section Reports

variable {s : Segment} {data : Bytes} {es : List Event} {r : Except DriverError Unit}

theorem write_of_refused (hs : ¬(1 ≤ s.index.toNat ∧ s.index.toNat ≤ segmentNumberMax))
    (hdata : data ≠ []) (h : (write s data).Runs es r) : es = [] ∧ ∃ e, r = .error e := by
  unfold write at h
  rw [Bytes.chunksOf_of_ne_nil (by decide) hdata] at h
  have hc : (Command.flashWrite s.index (UInt32.ofNat 0) (data.take flashWriteMax)).validate =
      .error (.outOfRange .segmentNumber s.index.toNat) := by
    have hcheck : Command.checkSegment s.index.toNat =
        .error (.outOfRange .segmentNumber s.index.toNat) := if_neg hs
    simp only [Command.validate, hcheck]
    rfl
  obtain ⟨e, hfail, rfl⟩ | ⟨p, es₁, es₂, rfl, hwritten, -⟩ := Procedure.runs_bind.mp h
  · exact ⟨(Device.runs_refused hc hfail).1, e, rfl⟩
  · cases (Device.runs_refused hc hwritten).2

theorem write_reports (h : (write s data).Runs es r) :
    ∃ done rest, data.chunksOf flashWriteMax = done ++ rest ∧
      es.filterMap Event.percent? =
        (shares data.length 0 done ++ ending r).destutter (· ≠ ·) ∧
      (es.filterMap Event.outcome?).countP (·.isOk) = done.length ∧
      (r = .ok () ↔ rest = []) := by
  by_cases hs : 1 ≤ s.index.toNat ∧ s.index.toNat ≤ segmentNumberMax
  · obtain ⟨before, rfl, hall, rfl⟩ |
      ⟨done, chunk, rest, before, reply, e, hcut, hdone, rfl, he, rfl⟩ := write_cases hs.1 hs.2 h
    · refine ⟨_, [], (List.append_nil _).symm, ?_, ?_, by simp⟩
      · rw [List.filterMap_append, Event.percent?_reported, hall.reports_eq,
          ← Progress.reported_append, Progress.reported_eq_destutter]
        rfl
      · rw [List.filterMap_append, Event.outcome?_reported, hall.outcomes_eq, List.append_nil,
          List.countP_replicate]
        rfl
    · refine ⟨done, chunk :: rest, hcut, ?_, ?_, by simp⟩
      · rw [List.filterMap_append, hdone.reports_eq, Progress.reported_eq_destutter]
        simp [Event.percent?, ending]
      · rw [List.filterMap_append, hdone.outcomes_eq, List.countP_append, List.countP_replicate]
        simp only [List.filterMap_cons, Event.outcome?, he, List.filterMap_nil]
        rfl
  · by_cases hdata : data = []
    · subst hdata
      obtain ⟨rfl, rfl⟩ := Progress.runs_finish h
      exact ⟨[], [], rfl, rfl, rfl, by simp⟩
    · obtain ⟨rfl, e, rfl⟩ := write_of_refused hs hdata h
      refine ⟨[], data.chunksOf flashWriteMax, rfl, rfl, rfl, ?_⟩
      rw [Bytes.chunksOf_of_ne_nil (by decide) hdata]
      simp

end Reports

end Flash

end CardFirmware
