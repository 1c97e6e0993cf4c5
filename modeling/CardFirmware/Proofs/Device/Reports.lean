import CardFirmware.Proofs.Device.Runs
import Mathlib.Data.List.Destutter

/-! What is reported of an operation. Its percentages go through one `Progress`, which leaves out
repeats: the reports are the percentages with equal neighbours merged, and they rise wherever the
percentages do not fall. -/

namespace CardFirmware

def Event.command? : Event → Option Command
  | .sent c _ => some c
  | .heard _ | .reported _ | .ticked => none

theorem Link.commands_eq {σ : Type} (l : Link σ) :
    l.commands = l.events.reverse.filterMap Event.command? := by
  refine congrArg (List.filterMap · l.events.reverse) (funext fun e => ?_)
  cases e <;> rfl

@[simp] theorem Event.percent?_reported (percents : List Nat) :
    (percents.map Event.reported).filterMap Event.percent? = percents := by
  simp [List.filterMap_map, Function.comp_def, Event.percent?]

@[simp] theorem Event.command?_reported (percents : List Nat) :
    (percents.map Event.reported).filterMap Event.command? = [] := by
  simp [List.filterMap_map, Function.comp_def, Event.command?]

namespace Procedure

variable {ε ε' α β : Type} {es : List Event}

def Silent (p : Procedure ε α) : Prop := ∀ es r, p.Runs es r → es.filterMap Event.percent? = []

theorem silent_pure (a : α) : (pure a : Procedure ε α).Silent := by
  intro es r h
  rw [(runs_pure.mp h).1]
  rfl

variable {p : Procedure ε α} {f : α → Procedure ε β}

theorem Silent.runs_bind {r : Except ε β} (hp : p.Silent) (h : (p >>= f).Runs es r) :
    ((∃ e, r = .error e) ∧ es.filterMap Event.percent? = []) ∨
      ∃ a rest, (f a).Runs rest r ∧
        es.filterMap Event.percent? = rest.filterMap Event.percent? := by
  obtain ⟨e, h₁, rfl⟩ | ⟨a, es₁, es₂, rfl, h₁, h₂⟩ := Procedure.runs_bind.mp h
  · exact .inl ⟨⟨e, rfl⟩, hp es _ h₁⟩
  · refine .inr ⟨a, es₂, h₂, ?_⟩
    rw [List.filterMap_append, hp es₁ _ h₁, List.nil_append]

theorem Silent.bind (hp : p.Silent) (hf : ∀ a, (f a).Silent) : (p >>= f).Silent := by
  intro es r h
  obtain ⟨-, hes⟩ | ⟨a, rest, hrest, hes⟩ := hp.runs_bind h
  · exact hes
  · rw [hes]
    exact hf a rest r hrest

theorem Silent.orFail {g : ε → ε'} (hp : p.Silent) : (p.orFail g).Silent := by
  intro es r h
  obtain ⟨r', h', -⟩ := runs_orFail.mp h
  exact hp es r' h'

end Procedure

namespace Device

theorem silent_send (c : Command) : (send c).Silent := by
  intro es r h
  obtain rfl | ⟨reply, rfl⟩ := runs_send_cases h
  · rfl
  · rfl

theorem silent_command (c : Command) : (command c).Silent :=
  (silent_send c).bind fun _ => Procedure.silent_pure ()

end Device

theorem percentage_eq {done total : Nat} (hdone : done * 100 < UInt64.size) (htotal : 0 < total) :
    percentage done total = min 100 (done * 100 / total) := by
  have hcap : done * 100 ≤ UInt64.size - 1 := Nat.le_sub_one_of_lt hdone
  rw [percentage, if_neg (Nat.ne_of_gt htotal), Nat.min_eq_left hcap, Nat.min_comm]

namespace Progress

variable {ε : Type}

def reported (p : Progress) : List Nat → List Nat
  | [] => []
  | percent :: rest =>
    if p.last = some percent then p.reported rest
    else percent :: Progress.reported ⟨some percent⟩ rest

def after (p : Progress) (percents : List Nat) : Progress :=
  percents.foldl (fun _ percent => ⟨some percent⟩) p

theorem reported_append (p : Progress) (before later : List Nat) :
    p.reported (before ++ later) = p.reported before ++ (p.after before).reported later := by
  induction before generalizing p with
  | nil => rfl
  | cons percent before ih =>
    rw [List.cons_append, reported, reported]
    split
    · next hlast =>
      obtain rfl : p = ⟨some percent⟩ := congrArg Progress.mk hlast
      exact ih _
    · exact congrArg (percent :: ·) (ih _)

theorem runs_update_of_le {p : Progress} {percent : Nat} {es : List Event}
    {r : Except ε Progress} (hle : percent ≤ 100) (h : (p.update percent).Runs es r) :
    r = .ok (p.after [percent]) ∧ es = (p.reported [percent]).map .reported := by
  obtain ⟨rfl, rfl⟩ := runs_update h
  rw [Nat.min_eq_left hle, reported]
  refine ⟨rfl, ?_⟩
  split <;> rfl

theorem runs_step {β : Type} {p : Progress} {percent : Nat} {k : Progress → Procedure ε β}
    {es : List Event} {r : Except ε β} (hle : percent ≤ 100)
    (h : (do
      let p ← p.update percent
      Procedure.tick
      k p).Runs es r) :
    ∃ rest, es = (p.reported [percent]).map .reported ++ .ticked :: rest ∧
      (k (p.after [percent])).Runs rest r := by
  obtain ⟨e, hupdate, -⟩ | ⟨p', es₁, es₂, rfl, hupdate, hlater⟩ := Procedure.runs_bind.mp h
  · cases (runs_update hupdate).1
  · obtain ⟨hp, rfl⟩ := runs_update_of_le hle hupdate
    obtain rfl := Except.ok.inj hp
    obtain ⟨e, htick, -⟩ | ⟨⟨⟩, es₃, rest, rfl, htick, hrest⟩ := Procedure.runs_bind.mp hlater
    · cases (Procedure.runs_tick.mp htick).2
    · obtain ⟨rfl, -⟩ := Procedure.runs_tick.mp htick
      exact ⟨rest, rfl, hrest⟩

theorem runs_finish {p : Progress} {es : List Event} {r : Except ε Unit}
    (h : (do
      let _ ← p.finish
      pure () : Procedure ε Unit).Runs es r) :
    r = .ok () ∧ es = (p.reported [100]).map .reported := by
  obtain ⟨e, hupdate, -⟩ | ⟨p', es₁, es₂, rfl, hupdate, hend⟩ := Procedure.runs_bind.mp h
  · cases (runs_update hupdate).1
  · obtain ⟨-, rfl⟩ := runs_update_of_le (Nat.le_refl 100) hupdate
    obtain ⟨rfl, rfl⟩ := Procedure.runs_pure.mp hend
    exact ⟨rfl, List.append_nil _⟩

def ended : Except ε Progress → List Nat
  | .ok p => p.reported [100]
  | .error _ => []

theorem cons_reported (last : Nat) (percents : List Nat) :
    last :: Progress.reported ⟨some last⟩ percents = percents.destutter' (· ≠ ·) last := by
  induction percents generalizing last with
  | nil => rfl
  | cons percent percents ih =>
    by_cases h : last = percent
    · subst h
      rw [List.destutter'_cons_neg _ (not_not.mpr rfl), reported, if_pos rfl, ih]
    · rw [List.destutter'_cons_pos _ h, reported, if_neg (fun h' => h (Option.some.inj h')), ih]

theorem reported_eq_destutter (percents : List Nat) :
    Progress.reported {} percents = percents.destutter (· ≠ ·) := by
  cases percents with
  | nil => rfl
  | cons percent percents => exact cons_reported percent percents

theorem destutter_lt {percents : List Nat} (h : percents.Pairwise (· ≤ ·)) :
    (percents.destutter (· ≠ ·)).Pairwise (· < ·) := by
  have hle := h.sublist (List.destutter_sublist (· ≠ ·) percents)
  have hne := List.isChain_iff_getElem.mp (List.isChain_destutter (· ≠ ·) percents)
  refine List.isChain_iff_pairwise.mp (List.isChain_iff_getElem.mpr fun i hi => ?_)
  exact Nat.lt_of_le_of_ne (List.pairwise_iff_getElem.mp hle i (i + 1) _ _ (Nat.lt_succ_self i))
    (hne i hi)

theorem getLast?_destutter' (last : Nat) (percents : List Nat) :
    (percents.destutter' (· ≠ ·) last).getLast? = (last :: percents).getLast? := by
  induction percents generalizing last with
  | nil => rfl
  | cons percent percents ih =>
    by_cases h : last = percent
    · subst h
      rw [List.destutter'_cons_neg _ (not_not.mpr rfl), ih, List.getLast?_cons_cons]
    · rw [List.destutter'_cons_pos _ h, List.getLast?_cons, ih, ← List.getLast?_cons]

theorem getLast?_destutter (percents : List Nat) :
    (percents.destutter (· ≠ ·)).getLast? = percents.getLast? := by
  cases percents with
  | nil => rfl
  | cons percent percents => exact getLast?_destutter' percent percents

end Progress

end CardFirmware
