import CardFirmware.Proofs.Device.Runs

/-! Calls that fail, and procedures that end with the first of them. Being such a procedure is kept
by sequencing, so that a loop which retries on unwelcome values still cannot outlive a failed
call. -/

namespace CardFirmware

namespace Command

def accepts : Command → Bytes → Bool
  | capRead _, b | flashEraseProgress _, b => (Reply.byte b).isOk
  | meterInfo, b => (Reply.meterInfo b).isOk
  | mixInfo, b => (Reply.mixInfo b).isOk
  | muxInfo, b => (Reply.muxInfo b).isOk
  | flashInfo, b => (Reply.flashInfo b).isOk
  | flashSegmentInfo _, b => (Reply.segmentInfo b).isOk
  | syncRead, b => (Reply.sync b).isOk
  | dataRead _ width, b => (Reply.data b width false).isOk
  | devmapInfo, b => (Reply.devmapSize b).isOk
  | _, _ => true

def failureCode : Command → Option ErrorCode
  | flashInfo | flashSegmentInfo _ | flashEraseProgress _ => some .read
  | reboot | flashErase _ | flashWrite _ _ _ | espDfuWrite _ => some .write
  | espDfuStart _ _ | dataRead _ _ | dataWrite _ _ _ | dataNotify _ => some .fcp
  | _ => none

end Command

namespace Event

/-- A call without a response, with one of the wrong length or one that cannot be decoded, or a
notification that could not be read. -/
def Fails : Event → Prop
  | .sent c (.ok b) => b.length ≠ c.responseLength ∨ c.accepts b = false
  | .sent _ (.error _) | .heard (.error _) => True
  | .heard (.ok _) | .reported _ | .ticked => False

def failureCode : Event → Option ErrorCode
  | .sent c _ => c.failureCode
  | .heard _ => some .fcp
  | .reported _ | .ticked => none

end Event

/-- How a run ends: no call failed, or the last event is the only one that did and the run failed
under its code. -/
inductive Halted {ε α : Type} (code : ε → ErrorCode) : List Event → Except ε α → Prop
  | clean {es : List Event} {r : Except ε α} (h : ∀ e ∈ es, ¬e.Fails) : Halted code es r
  | failed {past : List Event} {e : Event} {err : ε} (hpast : ∀ e ∈ past, ¬e.Fails)
      (he : e.Fails) (hcode : e.failureCode = some (code err)) :
      Halted code (past ++ [e]) (.error err)

namespace Halted

variable {ε ε' α β : Type} {code : ε → ErrorCode} {es : List Event}

theorem nil {r : Except ε α} : Halted code [] r := .clean fun _ h => absurd h List.not_mem_nil

theorem single {e : Event} {err : ε} (he : e.Fails) (hcode : e.failureCode = some (code err)) :
    Halted code [e] (.error err : Except ε α) :=
  failed (fun _ h => absurd h List.not_mem_nil) he hcode

theorem of_ok {a : α} (h : Halted code es (.ok a)) : ∀ e ∈ es, ¬e.Fails := by
  cases h with
  | clean h => exact h

theorem prepend {es' : List Event} {r : Except ε α} (hes : ∀ e ∈ es, ¬e.Fails)
    (h : Halted code es' r) : Halted code (es ++ es') r := by
  cases h with
  | clean h => exact .clean fun e he => (List.mem_append.mp he).elim (hes e) (h e)
  | failed hpast he hcode =>
    rw [← List.append_assoc]
    exact .failed (fun e he => (List.mem_append.mp he).elim (hes e) (hpast e)) he hcode

theorem of_error {code' : ε' → ErrorCode} {err : ε} {err' : ε'}
    (h : Halted code es (.error err : Except ε α)) (hcode : code' err' = code err) :
    Halted code' es (.error err' : Except ε' β) := by
  cases h with
  | clean h => exact .clean h
  | failed hpast he hfailed => exact .failed hpast he (hfailed.trans (congrArg some hcode.symm))

theorem ends {r : Except ε α} {past later : List Event} {e : Event}
    (h : Halted code (past ++ e :: later) r) (he : e.Fails) :
    later = [] ∧ ∃ err, r = .error err ∧ e.failureCode = some (code err) := by
  generalize hes : past ++ e :: later = es at h
  cases h with
  | clean h =>
    subst hes
    exact absurd he (h e (List.mem_append_right past List.mem_cons_self))
  | @failed past' e' err hpast _ hcode =>
    -- if something followed, the event would be among those before the failed one
    rcases List.eq_nil_or_concat later with rfl | ⟨later', last, rfl⟩
    · obtain ⟨-, he'⟩ := List.append_inj' hes rfl
      cases he'
      exact ⟨rfl, err, rfl, hcode⟩
    · rw [List.concat_eq_append, ← List.cons_append, ← List.append_assoc] at hes
      obtain ⟨rfl, -⟩ := List.append_inj' hes rfl
      exact absurd he (hpast e (List.mem_append_right past List.mem_cons_self))

end Halted

namespace Procedure

variable {ε ε' α β : Type} {code : ε → ErrorCode}

def Halts (code : ε → ErrorCode) (p : Procedure ε α) : Prop :=
  ∀ es r, p.Runs es r → Halted code es r

section Combine

variable {p : Procedure ε α} {f : α → Procedure ε β}

theorem halts_of_runs_nil (h : ∀ es r, p.Runs es r → es = []) : p.Halts code := by
  intro es r hr
  obtain rfl := h es r hr
  exact .nil

theorem halts_pure (a : α) : (pure a : Procedure ε α).Halts code :=
  halts_of_runs_nil fun _ _ h => (runs_pure.mp h).1

theorem halts_throw (e : ε) : (throw e : Procedure ε α).Halts code :=
  halts_of_runs_nil fun _ _ h => (runs_throw.mp h).1

theorem halts_ofExcept (x : Except ε α) : (ofExcept x).Halts code :=
  halts_of_runs_nil fun _ _ h => (runs_ofExcept.mp h).1

theorem halts_tick : (tick : Procedure ε Unit).Halts code := by
  intro es r h
  obtain ⟨rfl, rfl⟩ := runs_tick.mp h
  refine .clean fun e he => ?_
  rw [List.mem_singleton.mp he]
  exact id

theorem Halts.bind (hp : p.Halts code) (hf : ∀ a, (f a).Halts code) :
    (p >>= f).Halts code := by
  intro es r h
  rcases runs_bind.mp h with ⟨e, h₁, rfl⟩ | ⟨a, es₁, es₂, rfl, h₁, h₂⟩
  · exact (hp es _ h₁).of_error rfl
  · exact (hf a es₂ r h₂).prepend (hp es₁ _ h₁).of_ok

theorem Halts.orFail {g : ε → ε'} {code' : ε' → ErrorCode} (hp : p.Halts code)
    (hcode : ∀ e, code' (g e) = code e) : (p.orFail g).Halts code' := by
  intro es r h
  obtain ⟨r', hr', rfl⟩ := runs_orFail.mp h
  have hhalted := hp es r' hr'
  cases r' with
  | error e => exact hhalted.of_error (hcode e)
  | ok a => exact .clean hhalted.of_ok

end Combine

end Procedure

namespace Device

open Procedure

variable {α : Type} {c : Command} {code : TransportError → ErrorCode}

theorem fails_of_checkedReply {reply : Except TransportError Bytes} {err : TransportError}
    (h : checkedReply c reply = .error err) : (Event.sent c reply).Fails := by
  cases reply with
  | error e => trivial
  | ok b =>
    refine .inl fun hlen => ?_
    rw [checkedReply, if_pos hlen] at h
    cases h

theorem halts_query {f : Bytes → Except WireError α} (hf : ∀ b, (f b).isOk = c.accepts b)
    (hcode : ∀ err, c.failureCode = some (code err)) :
    (send c >>= fun b => decoded (f b)).Halts code := by
  intro es r h
  rcases runs_bind.mp h with ⟨err, h₁, rfl⟩ | ⟨b, es₁, es₂, rfl, h₁, h₂⟩
  · rcases runs_send.mp h₁ with ⟨-, -, rfl, -⟩ | ⟨-, reply, rfl, hr⟩
    · exact .nil
    · exact .single (fails_of_checkedReply hr.symm) (hcode err)
  · obtain ⟨rfl, hlen⟩ := runs_send_ok h₁
    obtain ⟨rfl, rfl⟩ := runs_ofExcept.mp h₂
    have haccepts := hf b
    cases hv : f b with
    | error e =>
      rw [hv] at haccepts
      exact .single (.inr haccepts.symm) (hcode _)
    | ok v =>
      rw [hv] at haccepts
      refine .clean fun e he => ?_
      rw [List.append_nil, List.mem_singleton] at he
      subst he
      rintro (h | h)
      · exact h hlen
      · rw [← haccepts] at h
        cases h

theorem halts_command (haccepts : ∀ b, c.accepts b = true)
    (hcode : ∀ err, c.failureCode = some (code err)) : (command c).Halts code :=
  halts_query (f := fun _ => .ok ()) (fun b => (haccepts b).symm) hcode

variable {ε : Type} {code' : ε → ErrorCode} {g : TransportError → ε}

theorem halts_query_orFail {f : Bytes → Except WireError α}
    (hf : ∀ b, (f b).isOk = c.accepts b) (hcode : ∀ err, c.failureCode = some (code' (g err))) :
    ((send c >>= fun b => decoded (f b)).orFail g).Halts code' :=
  (halts_query hf hcode).orFail fun _ => rfl

theorem halts_command_orFail (haccepts : ∀ b, c.accepts b = true)
    (hcode : ∀ err, c.failureCode = some (code' (g err))) :
    ((command c).orFail g).Halts code' :=
  (halts_command haccepts hcode).orFail fun _ => rfl

theorem isOk_data (b : Bytes) (width : Width) (signed : Bool) :
    (Reply.data b width signed).isOk = (Reply.data b width false).isOk := by
  unfold Reply.data expectLength
  split <;> rfl

theorem dataRead_halts (offset : UInt32) (width : Width) (signed : Bool) :
    (dataRead offset width signed).Halts fun _ => .fcp :=
  halts_query (isOk_data · width signed) fun _ => rfl

theorem readNotification_halts : readNotification.Halts fun _ => .fcp := by
  intro es r h
  obtain rfl := runs_readNotification.mp h
  cases r with
  | error err => exact .single trivial rfl
  | ok bits =>
    refine .clean fun e he => ?_
    rw [List.mem_singleton.mp he]
    exact id

end Device

theorem Progress.update_halts {ε : Type} {code : ε → ErrorCode} (p : Progress) (percent : Nat) :
    (p.update percent : Procedure ε Progress).Halts code := by
  intro es r h
  obtain ⟨-, rfl⟩ := runs_update h
  refine .clean fun e he => ?_
  split at he
  · exact absurd he List.not_mem_nil
  · rw [List.mem_singleton.mp he]
    exact id

end CardFirmware
