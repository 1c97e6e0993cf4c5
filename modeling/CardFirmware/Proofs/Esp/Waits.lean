import CardFirmware.Proofs.Esp.History
import CardFirmware.Proofs.Esp.Transfer

/-! The loops of a transfer as they are seen from outside: a wait for a change reads notifications,
a state is read until it is the expected one, and a notification code is waited for in rounds. Each
ends with what it looked for, with a call that failed, or once its attempts are used up. -/

namespace CardFirmware

namespace Esp

variable (config : EspConfig)

section Definitions

def unmarked (quiet : List UInt32) : List (Except TransportError (Option UInt32)) :=
  quiet.map fun bits => .ok (some bits)

/-- How a wait for a change goes: after notifications that do not matter it hears of the change,
hears nothing more, fails, or gives up. -/
inductive Waited (reads : Nat) (awaited : String) :
    List (Except TransportError (Option UInt32)) → Except DfuError Unit → Prop
  | changed {quiet : List UInt32} {bits : UInt32}
      (hquiet : ∀ q ∈ quiet, q &&& config.changeMask = 0) (hlength : quiet.length < reads)
      (hbits : bits &&& config.changeMask ≠ 0) :
      Waited reads awaited (unmarked quiet ++ [.ok (some bits)]) (.ok ())
  | nothing {quiet : List UInt32} (hquiet : ∀ q ∈ quiet, q &&& config.changeMask = 0)
      (hlength : quiet.length < reads) :
      Waited reads awaited (unmarked quiet ++ [.ok none]) (.error (.timeout awaited))
  | failed {quiet : List UInt32} {e : TransportError}
      (hquiet : ∀ q ∈ quiet, q &&& config.changeMask = 0) (hlength : quiet.length < reads) :
      Waited reads awaited (unmarked quiet ++ [.error e]) (.error (.fcp e))
  | expired {quiet : List UInt32} (hquiet : ∀ q ∈ quiet, q &&& config.changeMask = 0)
      (hlength : quiet.length = reads) :
      Waited reads awaited (unmarked quiet) (.error (.timeout awaited))

/-- How the state is awaited: other states are read before the expected one, before a read that
fails, or as often as is allowed. `initial` stands for the last state if none was read. -/
inductive StateAwaited (expected : UInt8) (attempts : Nat) (initial : UInt8) :
    List Event → Except DfuError Unit → Prop
  | found {others : List UInt8} (hothers : expected ∉ others) (hlength : others.length < attempts) :
      StateAwaited expected attempts initial
        (others.map (reading config.stateOffset) ++ [reading config.stateOffset expected]) (.ok ())
  | failed {others : List UInt8} {reply : Except TransportError Bytes} {e : TransportError}
      (hothers : expected ∉ others) (hlength : others.length < attempts)
      (hreply : ∀ v, reply ≠ .ok [v]) :
      StateAwaited expected attempts initial
        (others.map (reading config.stateOffset) ++
          [.sent (.dataRead config.stateOffset .one) reply]) (.error (.fcp e))
  | exhausted {others : List UInt8} (hothers : expected ∉ others)
      (hlength : others.length = attempts) :
      StateAwaited expected attempts initial (others.map (reading config.stateOffset))
        (.error (.invalidState expected (others.getLast?.getD initial)))

def clearing : Command :=
  .dataWrite config.notifyOffset .one (codeValue config.notifications.clear)

structure Round where
  replies : List (Except TransportError (Option UInt32))
  code : UInt8

def Round.events (round : Round) : List Event :=
  round.replies.map .heard ++
    [reading config.notifyOffset round.code, .sent (clearing config) (.ok [])]

def Round.Complete (reads : Nat) (awaited : String) (round : Round) : Prop :=
  Waited config reads awaited round.replies (.ok ())

inductive RoundFailed (reads : Nat) (awaited : String) : List Event → DfuError → Prop
  | wait {replies : List (Except TransportError (Option UInt32))} {e : DfuError}
      (hwait : Waited config reads awaited replies (.error e)) :
      RoundFailed reads awaited (replies.map .heard) e
  | read {replies : List (Except TransportError (Option UInt32))}
      {reply : Except TransportError Bytes} {e : TransportError}
      (hwait : Waited config reads awaited replies (.ok ())) (hreply : ∀ v, reply ≠ .ok [v]) :
      RoundFailed reads awaited
        (replies.map .heard ++ [.sent (.dataRead config.notifyOffset .one) reply]) (.fcp e)
  | clear {replies : List (Except TransportError (Option UInt32))} {code : UInt8}
      {reply : Except TransportError Bytes} {e : TransportError}
      (hwait : Waited config reads awaited replies (.ok ())) (hreply : reply ≠ .ok []) :
      RoundFailed reads awaited
        (replies.map .heard ++
          [reading config.notifyOffset code, .sent (clearing config) reply]) (.fcp e)

/-- How a notification code is awaited: in rounds that read other codes, up to one that reads the
expected code, to one that fails, or as often as is allowed. -/
inductive NotifyAwaited (reads : Nat) (expected : UInt8) (awaited : String) (attempts : Nat) :
    List Event → Except DfuError Unit → Prop
  | found {others : List Round} {last : Round}
      (hothers : ∀ round ∈ others, round.Complete config reads awaited ∧ round.code ≠ expected)
      (hlength : others.length < attempts) (hlast : last.Complete config reads awaited)
      (hcode : last.code = expected) :
      NotifyAwaited reads expected awaited attempts
        (others.flatMap (Round.events config) ++ last.events config) (.ok ())
  | failed {others : List Round} {rest : List Event} {e : DfuError}
      (hothers : ∀ round ∈ others, round.Complete config reads awaited ∧ round.code ≠ expected)
      (hlength : others.length < attempts) (hrest : RoundFailed config reads awaited rest e) :
      NotifyAwaited reads expected awaited attempts
        (others.flatMap (Round.events config) ++ rest) (.error e)
  | exhausted {others : List Round}
      (hothers : ∀ round ∈ others, round.Complete config reads awaited ∧ round.code ≠ expected)
      (hlength : others.length = attempts) :
      NotifyAwaited reads expected awaited attempts (others.flatMap (Round.events config))
        (.error (.timeout awaited))

end Definitions

variable {config} {reads n : Nat} {awaited : String} {expected : UInt8} {es : List Event}

theorem Waited.cons {replies : List (Except TransportError (Option UInt32))}
    {r : Except DfuError Unit} {bits : UInt32} (hbits : bits &&& config.changeMask = 0)
    (h : Waited config n awaited replies r) :
    Waited config (n + 1) awaited (.ok (some bits) :: replies) r := by
  cases h with
  | changed hquiet hlength hmark =>
    exact .changed (List.forall_mem_cons.mpr ⟨hbits, hquiet⟩) (Nat.succ_lt_succ hlength) hmark
  | nothing hquiet hlength =>
    exact .nothing (List.forall_mem_cons.mpr ⟨hbits, hquiet⟩) (Nat.succ_lt_succ hlength)
  | failed hquiet hlength =>
    exact .failed (List.forall_mem_cons.mpr ⟨hbits, hquiet⟩) (Nat.succ_lt_succ hlength)
  | expired hquiet hlength =>
    exact .expired (List.forall_mem_cons.mpr ⟨hbits, hquiet⟩) (congrArg (· + 1) hlength)

theorem Waited.timeout_of_nothing {replies : List (Except TransportError (Option UInt32))}
    {r : Except DfuError Unit} (h : Waited config n awaited replies r)
    (hnothing : .ok none ∈ replies) : r = .error (.timeout awaited) := by
  cases h with
  | changed hquiet hlength hbits => simp [unmarked] at hnothing
  | nothing hquiet hlength => rfl
  | failed hquiet hlength => simp [unmarked] at hnothing
  | expired hquiet hlength => rfl

theorem awaitChange_waited {r : Except DfuError Unit}
    (h : (awaitChange config awaited n).Runs es r) :
    ∃ replies, es = replies.map .heard ∧ Waited config n awaited replies r := by
  induction n generalizing es with
  | zero =>
    obtain ⟨rfl, rfl⟩ := Procedure.runs_throw.mp h
    exact ⟨[], rfl, .expired (fun _ hq => absurd hq List.not_mem_nil) rfl⟩
  | succ n ih =>
    have hnone : ∀ q ∈ ([] : List UInt32), q &&& config.changeMask = 0 :=
      fun _ hq => absurd hq List.not_mem_nil
    obtain ⟨e, rfl, rfl⟩ | ⟨found, rest, rfl, hrest⟩ := Device.runs_listen h
    · exact ⟨[.error e], rfl, .failed hnone (Nat.succ_pos n)⟩
    · cases found with
      | none =>
        obtain ⟨rfl, rfl⟩ := Procedure.runs_throw.mp hrest
        exact ⟨[.ok none], rfl, .nothing hnone (Nat.succ_pos n)⟩
      | some bits =>
        change (if bits &&& config.changeMask ≠ 0 then pure ()
          else awaitChange config awaited n).Runs rest r at hrest
        split at hrest
        · next hbits =>
          obtain ⟨rfl, rfl⟩ := Procedure.runs_pure.mp hrest
          exact ⟨[.ok (some bits)], rfl, .changed hnone (Nat.succ_pos n) hbits⟩
        · next hbits =>
          obtain ⟨replies, rfl, hwaited⟩ := ih hrest
          exact ⟨.ok (some bits) :: replies, rfl, hwaited.cons (Decidable.not_not.mp hbits)⟩

theorem runs_byteCall {ε β : Type} {register : UInt32} {g : TransportError → ε}
    {k : Int32 → Procedure ε β} {r : Except ε β}
    (h : ((Device.dataRead register .one false).orFail g >>= k).Runs es r) :
    (∃ reply e, es = [.sent (.dataRead register .one) reply] ∧ (∀ v, reply ≠ .ok [v]) ∧
        r = .error (g e)) ∨
      ∃ v rest, es = reading register v :: rest ∧ (k (codeValue v)).Runs rest r := by
  obtain ⟨reply, ⟨e, hreply, rfl, rfl⟩ | ⟨v, rest, hreply, rfl, hrest⟩⟩ :=
    Device.runs_call (Device.runs_query_answer rfl) h
  · refine .inl ⟨reply, e, rfl, ?_, rfl⟩
    rintro v rfl
    cases hreply
  · obtain ⟨b, rfl, hb, hv⟩ := Device.answer_eq_ok hreply
    obtain ⟨x, rfl⟩ := List.length_eq_one_iff.mp hb
    cases hv
    exact .inr ⟨x, rest, rfl, hrest⟩

@[simp] theorem toUInt8_codeValue (v : UInt8) : (codeValue v).toUInt32.toUInt8 = v := by
  simp [codeValue]

theorem runs_stateCall {β : Type} {k : UInt8 → Procedure DfuError β} {r : Except DfuError β}
    (h : (state config >>= k).Runs es r) :
    (∃ reply e, es = [.sent (.dataRead config.stateOffset .one) reply] ∧
        (∀ v, reply ≠ .ok [v]) ∧ r = .error (.fcp e)) ∨
      ∃ v rest, es = reading config.stateOffset v :: rest ∧ (k v).Runs rest r := by
  rw [state, bind_assoc] at h
  obtain hfail | ⟨v, rest, rfl, hrest⟩ := runs_byteCall h
  · exact .inl hfail
  · rw [pure_bind, toUInt8_codeValue] at hrest
    exact .inr ⟨v, rest, rfl, hrest⟩

theorem StateAwaited.cons {v initial : UInt8} {r : Except DfuError Unit} (hv : v ≠ expected)
    (h : StateAwaited config expected n v es r) :
    StateAwaited config expected (n + 1) initial (reading config.stateOffset v :: es) r := by
  have hcons : ∀ {others : List UInt8}, expected ∉ others → expected ∉ v :: others :=
    fun hothers hmem => (List.mem_cons.mp hmem).elim (fun h => hv h.symm) hothers
  cases h with
  | found hothers hlength => exact .found (hcons hothers) (Nat.succ_lt_succ hlength)
  | failed hothers hlength hreply =>
    exact .failed (hcons hothers) (Nat.succ_lt_succ hlength) hreply
  | exhausted hothers hlength =>
    have h : StateAwaited config expected (n + 1) initial _ _ :=
      .exhausted (hcons hothers) (congrArg (· + 1) hlength)
    rwa [List.getLast?_cons, Option.getD_some] at h

theorem awaitState_awaited {initial : UInt8} {r : Except DfuError Unit}
    (h : (awaitState config expected n initial).Runs es r) :
    StateAwaited config expected n initial es r := by
  have hnone : expected ∉ ([] : List UInt8) := List.not_mem_nil
  induction n generalizing initial es with
  | zero =>
    obtain ⟨rfl, rfl⟩ := Procedure.runs_throw.mp h
    exact .exhausted hnone rfl
  | succ n ih =>
    obtain ⟨reply, e, rfl, hreply, rfl⟩ | ⟨v, rest, rfl, hrest⟩ := runs_stateCall h
    · exact .failed hnone (Nat.succ_pos n) hreply
    · split at hrest
      · next hv =>
        obtain ⟨rfl, rfl⟩ := Procedure.runs_pure.mp hrest
        subst hv
        exact .found hnone (Nat.succ_pos n)
      · next hv => exact (ih hrest).cons hv

theorem NotifyAwaited.cons {round : Round} {r : Except DfuError Unit}
    (hround : round.Complete config reads awaited) (hcode : round.code ≠ expected)
    (h : NotifyAwaited config reads expected awaited n es r) :
    NotifyAwaited config reads expected awaited (n + 1) (round.events config ++ es) r := by
  cases h with
  | found hothers hlength hlast hlastCode =>
    rw [← List.append_assoc, ← List.flatMap_cons]
    exact .found (List.forall_mem_cons.mpr ⟨⟨hround, hcode⟩, hothers⟩) (Nat.succ_lt_succ hlength)
      hlast hlastCode
  | failed hothers hlength hrest =>
    rw [← List.append_assoc, ← List.flatMap_cons]
    exact .failed (List.forall_mem_cons.mpr ⟨⟨hround, hcode⟩, hothers⟩) (Nat.succ_lt_succ hlength)
      hrest
  | exhausted hothers hlength =>
    rw [← List.flatMap_cons]
    exact .exhausted (List.forall_mem_cons.mpr ⟨⟨hround, hcode⟩, hothers⟩)
      (congrArg (· + 1) hlength)

theorem runs_round {β : Type} {k : UInt8 → Procedure DfuError β} {r : Except DfuError β}
    (h : (do
      awaitChange config awaited reads
      let v ← (Device.dataRead config.notifyOffset .one false).orFail .fcp
      (Device.dataWrite config.notifyOffset .one
        config.notifications.clear.toUInt32.toInt32).orFail .fcp
      k v.toUInt32.toUInt8).Runs es r) :
    (∃ e, RoundFailed config reads awaited es e ∧ r = .error e) ∨
      ∃ round rest, Round.Complete config reads awaited round ∧
        es = round.events config ++ rest ∧ (k round.code).Runs rest r := by
  obtain ⟨e, hfail, rfl⟩ | ⟨⟨⟩, es₁, es₂, rfl, hwait, hread⟩ := Procedure.runs_bind.mp h
  · obtain ⟨replies, rfl, hwaited⟩ := awaitChange_waited hfail
    exact .inl ⟨e, .wait hwaited, rfl⟩
  · obtain ⟨replies, rfl, hwaited⟩ := awaitChange_waited hwait
    obtain ⟨reply, e, rfl, hreply, rfl⟩ | ⟨code, es₃, rfl, hclear⟩ := runs_byteCall hread
    · exact .inl ⟨.fcp e, .read hwaited hreply, rfl⟩
    · obtain ⟨reply, ⟨e, hreply, rfl, rfl⟩ | ⟨rest, hreply, rfl, hrest⟩⟩ :=
        Device.runs_commandCall rfl rfl hclear
      · refine .inl ⟨.fcp e, .clear hwaited ?_, rfl⟩
        rintro rfl
        cases hreply
      · obtain ⟨rfl, -⟩ := Device.checkedReply_eq_ok.mp hreply
        rw [toUInt8_codeValue] at hrest
        exact .inr ⟨⟨replies, code⟩, rest, hwaited, by simp [Round.events, clearing, codeValue],
          hrest⟩

theorem awaitNotify_awaited {r : Except DfuError Unit}
    (h : (awaitNotify config reads expected awaited n).Runs es r) :
    NotifyAwaited config reads expected awaited n es r := by
  have hnone : ∀ round ∈ ([] : List Round),
      round.Complete config reads awaited ∧ round.code ≠ expected :=
    fun _ hr => absurd hr List.not_mem_nil
  induction n generalizing es with
  | zero =>
    obtain ⟨rfl, rfl⟩ := Procedure.runs_throw.mp h
    exact .exhausted hnone rfl
  | succ n ih =>
    obtain ⟨e, hfailed, rfl⟩ | ⟨round, rest, hround, rfl, hrest⟩ := runs_round (k := fun code =>
      if code = expected then pure () else awaitNotify config reads expected awaited n) h
    · exact .failed hnone (Nat.succ_pos n) hfailed
    · split at hrest
      · next hcode =>
        obtain ⟨rfl, rfl⟩ := Procedure.runs_pure.mp hrest
        rw [List.append_nil]
        exact .found hnone (Nat.succ_pos n) hround hcode
      · next hcode => exact (ih hrest).cons hround hcode

theorem StateAwaited.ok_iff {initial : UInt8} {r : Except DfuError Unit}
    (h : StateAwaited config expected n initial es r) :
    r = .ok () ↔ reading config.stateOffset expected ∈ es := by
  have hothers : ∀ {others : List UInt8}, expected ∉ others →
      reading config.stateOffset expected ∉ others.map (reading config.stateOffset) := by
    intro others hothers hmem
    obtain ⟨v, hv, he⟩ := List.mem_map.mp hmem
    cases he
    exact hothers hv
  cases h with
  | found _ _ => simp
  | failed hnone _ hreply =>
    refine ⟨nofun, fun hmem => ?_⟩
    obtain hmem | hmem := List.mem_append.mp hmem
    · exact absurd hmem (hothers hnone)
    · cases List.mem_singleton.mp hmem
      exact absurd rfl (hreply expected)
  | exhausted hnone _ => exact ⟨nofun, fun hmem => absurd hmem (hothers hnone)⟩

theorem rounds_end_otherwise {others : List Round} {past : List Event}
    (hothers : ∀ round ∈ others, round.Complete config reads awaited ∧ round.code ≠ expected) :
    others.flatMap (Round.events config) ≠
      past ++ [reading config.notifyOffset expected, .sent (clearing config) (.ok [])] := by
  intro heq
  obtain rfl | ⟨first, last, rfl⟩ := List.eq_nil_or_concat others
  · exact List.append_ne_nil_of_right_ne_nil past (List.cons_ne_nil _ _) heq.symm
  · rw [List.concat_eq_append, List.flatMap_append, List.flatMap_singleton, Round.events,
      ← List.append_assoc] at heq
    obtain ⟨-, hend⟩ := List.append_inj' heq rfl
    cases hend
    exact (hothers last (by simp)).2 rfl

theorem NotifyAwaited.ok_iff {r : Except DfuError Unit}
    (h : NotifyAwaited config reads expected awaited n es r) :
    r = .ok () ↔ ∃ past, es = past ++
      [reading config.notifyOffset expected, .sent (clearing config) (.ok [])] := by
  cases h with
  | @found others last hothers hlength hlast hcode =>
    refine ⟨fun _ => ⟨others.flatMap (Round.events config) ++ last.replies.map .heard, ?_⟩,
      fun _ => rfl⟩
    rw [Round.events, hcode, List.append_assoc]
  | @failed others rest e hothers hlength hrest =>
    refine ⟨nofun, ?_⟩
    rintro ⟨past, heq⟩
    have hlast := congrArg List.getLast? heq
    cases hrest with
    | @wait replies e hwait =>
      obtain rfl | ⟨first, last, rfl⟩ := List.eq_nil_or_concat replies
      · rw [List.map_nil, List.append_nil] at heq
        exact absurd heq (rounds_end_otherwise hothers)
      · simp at hlast
    | read hwait hreply => simp [clearing] at hlast
    | clear hwait hreply =>
      simp at hlast
      exact absurd hlast hreply
  | exhausted hothers hlength =>
    refine ⟨nofun, ?_⟩
    rintro ⟨past, heq⟩
    exact absurd heq (rounds_end_otherwise hothers)

end Esp

end CardFirmware
