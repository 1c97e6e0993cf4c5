import CardFirmware.Device.Simulator
import CardFirmware.Proofs.Device.Reports
import CardFirmware.Proofs.Flash.Update

/-! An erase as it is polled. The polls before the last one found it unfinished in time; the last
one decides, and what was reported are the shares of the others (`erase_decided_by_polls`). -/

namespace CardFirmware

open Device (answer)

def Event.poll? : Event → Option (Except TransportError UInt8)
  | .sent (.flashEraseProgress index) reply =>
    some (answer (.flashEraseProgress index) Reply.byte reply)
  | _ => none

@[simp] theorem Event.poll?_reported (percents : List Nat) :
    (percents.map Event.reported).filterMap Event.poll? = [] := by
  simp [List.filterMap_map, Function.comp_def, Event.poll?]

def Link.polls {σ : Type} (l : Link σ) : List (Except TransportError UInt8) :=
  l.events.reverse.filterMap Event.poll?

namespace Segment

variable {s : Segment}

def erased (s : Segment) (raw : UInt8) : Nat := min 100 (raw.toNat * 100 / s.eraseBlocks)

theorem erased_mono {raw raw' : UInt8} (h : raw ≤ raw') : s.erased raw ≤ s.erased raw' := by
  have hdiv : raw.toNat * 100 / s.eraseBlocks ≤ raw'.toNat * 100 / s.eraseBlocks :=
    Nat.div_le_div_right (Nat.mul_le_mul_right 100 (UInt8.le_iff_toNat_le.mp h))
  unfold erased
  omega

theorem IsErasable.percentage_eq (h : s.IsErasable) (raw : UInt8) :
    percentage raw.toNat s.eraseBlocks = s.erased raw := by
  have hraw := raw.toNat_lt
  have hdone : raw.toNat * 100 < UInt64.size := by
    rw [UInt64.size]
    omega
  exact CardFirmware.percentage_eq hdone h.2.2.1

end Segment

namespace Flash

variable {s : Segment} {n : Nat} {p : Progress} {es : List Event}

/-- Polls that found an erase unfinished in time, with these values, and a last poll. -/
structure Observed (n : Nat) (polls : List (Except TransportError UInt8)) (values : List UInt8)
    (last : Except TransportError UInt8) : Prop where
  polls_eq : polls = values.map .ok ++ [last]
  unfinished : ∀ raw ∈ values, raw ≠ eraseDone
  length_le : values.length ≤ n

structure Polled (s : Segment) (n : Nat) (p : Progress) (es : List Event) (values : List UInt8)
    (last : Except TransportError UInt8) : Prop where
  observed : Observed n (es.filterMap Event.poll?) values last
  commands_eq : es.filterMap Event.command? =
    List.replicate (values.length + 1) (.flashEraseProgress s.index)
  reports_eq : es.filterMap Event.percent? = p.reported (values.map s.erased)

/-- How the last poll decides an erase: the poll fails, finds the end, or finds the erase unfinished
when it should be over. -/
inductive Decides (s : Segment) (n : Nat) (p : Progress) (values : List UInt8) :
    Except TransportError UInt8 → Except DriverError Progress → Prop
  | failed (e : TransportError) : Decides s n p values (.error e) (.error (.read e))
  | done : Decides s n p values (.ok eraseDone) (.ok (p.after (values.map s.erased)))
  | late {raw : UInt8} (hraw : raw ≠ eraseDone) (hlength : values.length = n) :
      Decides s n p values (.ok raw) (.error (.eraseTimeout s.index))

theorem polled_single {reply : Except TransportError Bytes} {last : Except TransportError UInt8}
    (hpoll : answer (.flashEraseProgress s.index) Reply.byte reply = last) :
    Polled s n p [.sent (.flashEraseProgress s.index) reply] [] last :=
  ⟨⟨congrArg (fun x => [x]) hpoll, fun _ h => absurd h List.not_mem_nil, Nat.zero_le n⟩, rfl, rfl⟩

theorem Polled.cons {reply : Except TransportError Bytes} {raw : UInt8} {values : List UInt8}
    {last : Except TransportError UInt8}
    (hpoll : answer (.flashEraseProgress s.index) Reply.byte reply = .ok raw)
    (hraw : raw ≠ eraseDone) (h : Polled s n (p.after [s.erased raw]) es values last) :
    Polled s (n + 1) p
      (.sent (.flashEraseProgress s.index) reply ::
        ((p.reported [s.erased raw]).map .reported ++ .ticked :: es))
      (raw :: values) last where
  observed := by
    refine ⟨?_, List.forall_mem_cons.mpr ⟨hraw, h.observed.unfinished⟩,
      Nat.succ_le_succ h.observed.length_le⟩
    simp only [List.filterMap_cons, List.filterMap_append, Event.poll?, Event.poll?_reported,
      hpoll, h.observed.polls_eq]
    rfl
  commands_eq := by
    simp only [List.filterMap_cons, List.filterMap_append, Event.command?,
      Event.command?_reported, h.commands_eq]
    rfl
  reports_eq := by
    simp only [List.filterMap_cons, List.filterMap_append, Event.percent?,
      Event.percent?_reported, h.reports_eq]
    exact (p.reported_append [s.erased raw] _).symm

theorem Decides.cons {raw : UInt8} {values : List UInt8} {last : Except TransportError UInt8}
    {r : Except DriverError Progress} (h : Decides s n (p.after [s.erased raw]) values last r) :
    Decides s (n + 1) p (raw :: values) last r := by
  cases h with
  | failed e => exact .failed e
  | done => exact .done
  | late hraw hlength => exact .late hraw (congrArg (· + 1) hlength)

theorem awaitErase_polled (hs : s.IsErasable) {r : Except DriverError Progress}
    (h : (awaitErase s n p).Runs es r) :
    ∃ values last, Polled s n p es values last ∧ Decides s n p values last r := by
  induction n generalizing p es with
  | zero =>
    obtain ⟨reply, ⟨e, hpoll, rfl, rfl⟩ | ⟨raw, rest, hpoll, rfl, hrest⟩⟩ :=
      Device.runs_call (Device.runs_query_answer rfl) h
    · exact ⟨[], _, polled_single hpoll, .failed e⟩
    · split at hrest
      · next hraw =>
        obtain ⟨rfl, rfl⟩ := Procedure.runs_pure.mp hrest
        exact ⟨[], _, polled_single hpoll, hraw ▸ .done⟩
      · next hraw =>
        obtain ⟨rfl, rfl⟩ := Procedure.runs_throw.mp hrest
        exact ⟨[], _, polled_single hpoll, .late hraw rfl⟩
  | succ n ih =>
    obtain ⟨reply, ⟨e, hpoll, rfl, rfl⟩ | ⟨raw, rest, hpoll, rfl, hrest⟩⟩ :=
      Device.runs_call (Device.runs_query_answer rfl) h
    · exact ⟨[], _, polled_single hpoll, .failed e⟩
    · split at hrest
      · next hraw =>
        obtain ⟨rfl, rfl⟩ := Procedure.runs_pure.mp hrest
        exact ⟨[], _, polled_single hpoll, hraw ▸ .done⟩
      · next hraw =>
        have hpercent := hs.percentage_eq raw
        rw [Progress.ratio, hpercent] at hrest
        obtain ⟨later, rfl, hlater⟩ := Progress.runs_step (Nat.min_le_left ..) hrest
        obtain ⟨values, last, hpolled, hdecides⟩ := ih hlater
        exact ⟨raw :: values, last, hpolled.cons hpoll hraw, hdecides.cons⟩

section Verdict

variable {polls : List (Except TransportError UInt8)} {values : List UInt8}
  {last : Except TransportError UInt8} {r : Except DriverError Progress} {i : Nat} {raw : UInt8}

theorem Observed.poll (h : Observed n polls values last) {found : Except TransportError UInt8}
    (hfound : polls[i]? = some found) :
    (i < values.length ∧ ∃ raw, raw ≠ eraseDone ∧ found = .ok raw) ∨
      i = values.length ∧ found = last := by
  rw [h.polls_eq, List.getElem?_append, List.length_map] at hfound
  split at hfound
  · next hi =>
    rw [List.getElem?_map, Option.map_eq_some_iff] at hfound
    obtain ⟨raw, hraw, rfl⟩ := hfound
    exact .inl ⟨hi, raw, h.unfinished raw (List.mem_of_getElem? hraw), rfl⟩
  · next hi =>
    obtain ⟨hlast, hfound⟩ := List.getElem?_eq_some_iff.mp hfound
    have hzero : i - values.length = 0 := Nat.lt_one_iff.mp hlast
    refine .inr ⟨by omega, ?_⟩
    simp only [hzero, List.getElem_cons_zero] at hfound
    exact hfound.symm

theorem Observed.getElem?_eq (h : Observed n polls values last) (hi : i < values.length) :
    ∃ raw, polls[i]? = some (.ok raw) := by
  refine ⟨values[i], ?_⟩
  rw [h.polls_eq, List.getElem?_append_left (by rwa [List.length_map]), List.getElem?_map,
    List.getElem?_eq_getElem hi]
  rfl

theorem Observed.getElem?_last (h : Observed n polls values last) :
    polls[values.length]? = some last := by
  rw [h.polls_eq]
  simp

theorem Observed.length_polls (h : Observed n polls values last) :
    polls.length = values.length + 1 := by
  rw [h.polls_eq, List.length_append, List.length_map]
  rfl

theorem Decides.ok_iff (h : Observed n polls values last) (hr : Decides s n p values last r) :
    (∃ p', r = .ok p') ↔ ∃ k, polls[k]? = some (.ok eraseDone) ∧
      ∀ i < k, ∃ raw, polls[i]? = some (.ok raw) ∧
        (raw = eraseDone ∨ i < n) := by
  constructor
  · rintro ⟨p', rfl⟩
    cases hr with
    | done =>
      refine ⟨values.length, h.getElem?_last, fun i hi => ?_⟩
      obtain ⟨raw, hraw⟩ := h.getElem?_eq hi
      exact ⟨raw, hraw, .inr (Nat.lt_of_lt_of_le hi h.length_le)⟩
  · rintro ⟨k, hk, -⟩
    obtain ⟨-, raw, hraw, hdone⟩ | ⟨rfl, hlast⟩ := h.poll hk
    · exact absurd (Except.ok.inj hdone).symm hraw
    · cases hr with
      | failed e => cases hlast
      | done => exact ⟨_, rfl⟩
      | late hraw hlength => exact absurd (Except.ok.inj hlast).symm hraw

theorem Decides.of_unfinished (h : Observed n polls values last)
    (hr : Decides s n p values last r)
    (hpoll : polls[i]? = some (.ok raw)) (hraw : raw ≠ eraseDone) :
    if i < n then i + 1 < polls.length
    else r = .error (.eraseTimeout s.index) ∧ i + 1 = polls.length := by
  rw [h.length_polls]
  obtain ⟨hi, -⟩ | ⟨rfl, hlast⟩ := h.poll hpoll
  · have hn := h.length_le
    rw [if_pos (by omega)]
    omega
  · cases hr with
    | failed e => cases hlast
    | done => exact absurd (Except.ok.inj hlast) hraw
    | late hraw hlength =>
      rw [if_neg (by omega)]
      exact ⟨rfl, rfl⟩

theorem Decides.of_failed {e : TransportError} (h : Observed n polls values last)
    (hr : Decides s n p values last r)
    (hpoll : polls[i]? = some (.error e)) :
    r = .error (.read e) ∧ i + 1 = polls.length := by
  rw [h.length_polls]
  obtain ⟨-, raw, -, hok⟩ | ⟨rfl, hlast⟩ := h.poll hpoll
  · cases hok
  · cases hr with
    | failed e' => cases hlast; exact ⟨rfl, rfl⟩
    | done => cases hlast
    | late => cases hlast

end Verdict

def ending {α : Type} : Except DriverError α → List Nat
  | .ok _ => [100]
  | .error _ => []

theorem erase_polled (hs : s.IsErasable) {timings : FlashTimings} {r : Except DriverError Unit}
    (h : (erase s timings).Runs es r) :
    (∃ reply e, es = [.sent (.flashErase (UInt8.ofNat s.index.toNat)) reply] ∧
        r = .error (.write e)) ∨
      ∃ values last r', Observed timings.erasePolls (es.filterMap Event.poll?) values last ∧
        Decides s timings.erasePolls {} values last r' ∧ r = r'.map (fun _ => ()) ∧
        es.filterMap Event.command? = .flashErase (UInt8.ofNat s.index.toNat) ::
          List.replicate (values.length + 1) (.flashEraseProgress s.index) ∧
        es.filterMap Event.percent? = (values.map s.erased ++ ending r').destutter (· ≠ ·) := by
  rw [erase, if_pos hs] at h
  obtain ⟨reply, ⟨e, -, rfl, rfl⟩ | ⟨rest, -, rfl, hrest⟩⟩ :=
    Device.runs_commandCall hs.validate_flashErase rfl h
  · exact .inl ⟨reply, e, rfl, rfl⟩
  · obtain ⟨e, hawait, rfl⟩ | ⟨p, polling, last, rfl, hawait, hfinish⟩ :=
      Procedure.runs_bind.mp hrest
    · obtain ⟨values, last, hpolled, hdecides⟩ := awaitErase_polled hs hawait
      refine .inr ⟨values, last, _, hpolled.observed, hdecides, rfl,
        congrArg (_ :: ·) hpolled.commands_eq, ?_⟩
      rw [ending, List.append_nil, ← Progress.reported_eq_destutter]
      exact hpolled.reports_eq
    · obtain ⟨values, last, hpolled, hdecides⟩ := awaitErase_polled hs hawait
      obtain ⟨rfl, rfl⟩ := Progress.runs_finish hfinish
      refine .inr ⟨values, last, _, ?_, hdecides, rfl, ?_, ?_⟩
      · rw [List.filterMap_cons_none rfl, List.filterMap_append, Event.poll?_reported,
          List.append_nil]
        exact hpolled.observed
      · rw [List.filterMap_cons_some (f := Event.command?) rfl, List.filterMap_append,
          hpolled.commands_eq, Event.command?_reported, List.append_nil]
      · rw [List.filterMap_cons_none rfl, List.filterMap_append, Event.percent?_reported,
          hpolled.reports_eq, ← Progress.reported_eq_destutter, Progress.reported_append]
        cases hdecides
        rfl

theorem ending_rises {percents : List Nat} (hpercents : percents.Pairwise (· ≤ ·))
    (hle : ∀ p ∈ percents, p ≤ 100) {α : Type} (r : Except DriverError α) :
    ((percents ++ ending r).destutter (· ≠ ·)).Pairwise (· < ·) := by
  refine Progress.destutter_lt (List.pairwise_append.mpr ⟨hpercents, ?_, fun a ha b hb => ?_⟩)
  · cases r with
    | ok v => exact List.pairwise_singleton _ _
    | error e => exact List.Pairwise.nil
  · cases r with
    | ok v =>
      rw [List.mem_singleton.mp hb]
      exact hle a ha
    | error e => exact absurd hb List.not_mem_nil

theorem reports_rise {values : List UInt8} (hvalues : values.Pairwise (· ≤ ·)) {α : Type}
    (r : Except DriverError α) :
    ((values.map s.erased ++ ending r).destutter (· ≠ ·)).Pairwise (· < ·) := by
  refine ending_rises (List.pairwise_map.mpr (hvalues.imp Segment.erased_mono)) (fun p hp => ?_) r
  obtain ⟨raw, -, rfl⟩ := List.mem_map.mp hp
  exact Nat.min_le_left ..

/-- A segment that may not be erased is left alone. Another one is erased once and then polled, and
its polls decide: one that finds the end, or fails, is the last, and so is one from the deadline on
that does not find the end; any other, whatever share it finds, is followed by a further one. The
reports are the shares found before the last poll, and 100 at the end of an erase that succeeds,
with equal neighbours merged. -/
theorem erase_decided_by_polls {σ : Type} (t : Transport σ) (s : Segment) (timings : FlashTimings)
    (device : σ) :
    let (result, link) := (erase s timings).perform t device
    (¬s.IsErasable →
      result = .error (.invalidEraseTarget s.index s.eraseBlocks) ∧ link = ⟨device, []⟩) ∧
    (s.IsErasable →
      (∃ i : UInt8, i.toNat = s.index.toNat ∧ link.commands =
        .flashErase i :: List.replicate link.polls.length (.flashEraseProgress s.index)) ∧
      (result = .ok () ↔ ∃ k, link.polls[k]? = some (.ok 255) ∧
        ∀ i < k, ∃ raw, link.polls[i]? = some (.ok raw) ∧ (raw = 255 ∨ i < timings.erasePolls)) ∧
      (∀ (i : Nat) (raw : UInt8), link.polls[i]? = some (.ok raw) → raw ≠ 255 →
        if i < timings.erasePolls then i + 1 < link.polls.length
        else result = .error (.eraseTimeout s.index) ∧ i + 1 = link.polls.length) ∧
      (∀ (i : Nat) (e : TransportError), link.polls[i]? = some (.error e) →
        result = .error (.read e) ∧ i + 1 = link.polls.length) ∧
      (link.polls = [] → ∃ e, result = .error (.write e)) ∧
      ∃ values : List UInt8, link.polls.dropLast = values.map .ok ∧
        link.reports = (values.map (fun raw => min 100 (raw.toNat * 100 / s.eraseBlocks)) ++
          (match result with | .ok () => [100] | .error _ => [])).destutter (· ≠ ·) ∧
        (values.Pairwise (· ≤ ·) → link.reports.Pairwise (· < ·)) ∧
        (result = .ok () → link.reports.getLast? = some 100)) := by
  have hruns := Procedure.runs_perform t (erase s timings) device
  generalize hperform : (erase s timings).perform t device = out at hruns
  obtain ⟨result, link⟩ := out
  refine ⟨fun hs => ?_, fun hs => ?_⟩
  · rw [erase, if_neg hs] at hperform
    cases hperform
    exact ⟨rfl, rfl⟩
  · rw [Link.commands_eq, Link.reports_eq, Link.polls]
    change (erase s timings).Runs link.events.reverse result at hruns
    generalize link.events.reverse = es at hruns
    obtain ⟨reply, e, rfl, rfl⟩ |
      ⟨values, last, r, hobserved, hdecides, rfl, hcommands, hreports⟩ := erase_polled hs hruns
    · refine ⟨⟨_, hs.toNat_index, rfl⟩, ?_, ?_, ?_, fun _ => ⟨e, rfl⟩, [], rfl, rfl, ?_, ?_⟩
      · constructor
        · intro h
          cases h
        · rintro ⟨k, hk, -⟩
          cases hk
      · intro i raw hpoll
        cases hpoll
      · intro i e hpoll
        cases hpoll
      · exact fun _ => List.Pairwise.nil
      · intro h
        cases h
    · have hok : r.map (fun _ => ()) = .ok () ↔ ∃ p, r = .ok p := by
        cases r <;> simp [Except.map]
      refine ⟨⟨_, hs.toNat_index, ?_⟩, hok.trans (hdecides.ok_iff hobserved), ?_, ?_, ?_, values,
        ?_, ?_, ?_, ?_⟩
      · rw [hcommands, hobserved.length_polls]
      · intro i raw hpoll hraw
        have hnext := hdecides.of_unfinished hobserved hpoll hraw
        split at hnext
        · next hi =>
          rw [if_pos hi]
          exact hnext
        · next hi =>
          rw [if_neg hi, hnext.1]
          exact ⟨rfl, hnext.2⟩
      · intro i e hpoll
        obtain ⟨rfl, hlast⟩ := hdecides.of_failed hobserved hpoll
        exact ⟨rfl, hlast⟩
      · intro hnil
        rw [hobserved.polls_eq] at hnil
        exact absurd hnil (List.append_ne_nil_of_right_ne_nil _ (List.cons_ne_nil _ _))
      · rw [hobserved.polls_eq, List.dropLast_concat]
      · rw [hreports]
        cases r <;> rfl
      · intro hvalues
        rw [hreports]
        exact reports_rise hvalues r
      · intro hresult
        obtain ⟨p, rfl⟩ := hok.mp hresult
        rw [hreports, Progress.getLast?_destutter]
        exact List.getLast?_concat

/-- A share of more than all blocks ends nothing, and its 100 is not reported again. -/
example :
    let device := { Simulator.fourRoles with eraseScript := [4, 4, 20, 255] }
    let (result, link) := (erase ⟨2, 0x10000⟩ ⟨8⟩).perform Simulator.transport device
    result = .ok () ∧ link.reports = [25, 100] := by
  decide +kernel

end Flash

end CardFirmware
