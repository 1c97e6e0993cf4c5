import CardFirmware.Device.Client
import CardFirmware.Device.Progress

/-! Procedures that are certain to succeed on a device, and what they leave of it. What happened
before has no part in it (`run_past`), so success is kept by sequencing. -/

namespace CardFirmware

theorem Dialogue.run_past {α σ : Type} (t : Transport σ) (d : Dialogue α) (l : Link σ)
    (past : List Event) :
    d.run t ⟨l.device, l.events ++ past⟩ =
      ((d.run t l).1, ⟨(d.run t l).2.device, (d.run t l).2.events ++ past⟩) := by
  induction d generalizing l with
  | done a => rfl
  | send c next ih => exact ih _ ⟨_, _ :: l.events⟩
  | listen next ih => exact ih _ ⟨_, _ :: l.events⟩
  | report p next ih => exact ih (l.record (.reported p))
  | tick next ih => exact ih (l.record .ticked)

namespace Procedure

variable {σ ε ε' α β : Type} {t : Transport σ} {device : σ}

def Succeeds (t : Transport σ) (device : σ) (p : Procedure ε α) (post : α → σ → Prop) : Prop :=
  ∀ events, ∃ a link, p.outcome.run t ⟨device, events⟩ = (.ok a, link) ∧ post a link.device

section Combine

variable {p : Procedure ε α} {f : α → Procedure ε β} {post mid : α → σ → Prop}
  {last : β → σ → Prop}

theorem succeeds_pure {a : α} (h : post a device) :
    Succeeds t device (pure a : Procedure ε α) post :=
  fun _ => ⟨a, _, rfl, h⟩

theorem succeeds_ofExcept {a : α} {x : Except ε α} (hx : x = .ok a) :
    Succeeds t device (ofExcept x) fun b d => b = a ∧ d = device := by
  subst hx
  exact succeeds_pure ⟨rfl, rfl⟩

theorem succeeds_tick : Succeeds t device (tick : Procedure ε Unit) fun _ d => d = device :=
  fun _ => ⟨(), _, rfl, rfl⟩

theorem Succeeds.bind (hp : p.Succeeds t device mid)
    (hf : ∀ a device', mid a device' → (f a).Succeeds t device' last) :
    (p >>= f).Succeeds t device last := by
  intro events
  obtain ⟨a, ⟨device', events'⟩, hrun, hmid⟩ := hp events
  obtain ⟨b, link, hrun', hlast⟩ := hf a device' hmid events'
  refine ⟨b, link, ?_, hlast⟩
  refine (Dialogue.run_bind t p.outcome _ ⟨device, events⟩).trans ?_
  rw [hrun]
  exact hrun'

theorem Succeeds.orFail {g : ε → ε'} (hp : p.Succeeds t device post) :
    (p.orFail g).Succeeds t device post := by
  intro events
  obtain ⟨a, link, hrun, hpost⟩ := hp events
  refine ⟨a, link, ?_, hpost⟩
  refine (Dialogue.run_bind t p.outcome _ ⟨device, events⟩).trans ?_
  rw [hrun]
  rfl

theorem succeeds_of_perform {a : α} (h : (p.perform t device).1 = .ok a) :
    p.Succeeds t device fun b d => b = a ∧ d = (p.perform t device).2.device := by
  intro events
  have hrun := p.outcome.run_past t ⟨device, []⟩ events
  change p.outcome.run t ⟨device, events⟩ = ((p.perform t device).1, _) at hrun
  rw [h] at hrun
  exact ⟨a, _, hrun, rfl, rfl⟩

theorem Succeeds.mono (hp : p.Succeeds t device mid) (h : ∀ a d, mid a d → post a d) :
    p.Succeeds t device post := by
  intro events
  obtain ⟨a, link, hrun, hmid⟩ := hp events
  exact ⟨a, link, hrun, h a _ hmid⟩

end Combine

end Procedure

namespace Device

open Procedure

variable {σ α : Type} {t : Transport σ} {device device' : σ} {c : Command} {reply : Bytes}

theorem send_succeeds (hc : c.validate = .ok ())
    (hreply : t.transact c.call device = (.ok reply, device'))
    (hlen : reply.length = c.responseLength) :
    (send c).Succeeds t device fun b d => b = reply ∧ d = device' := by
  intro events
  refine ⟨reply, ⟨device', .sent c (.ok reply) :: events⟩, ?_, rfl, rfl⟩
  simp only [send, hc, outcome, ExceptT.run, ExceptT.mk, Dialogue.run, hreply, checkedReply,
    if_pos hlen]

theorem query_succeeds {f : Bytes → Except WireError α} {a : α}
    (hc : c.validate = .ok ()) (hreply : t.transact c.call device = (.ok reply, device'))
    (hlen : reply.length = c.responseLength) (hf : f reply = .ok a) :
    (send c >>= fun b => decoded (f b)).Succeeds t device fun v d => v = a ∧ d = device' := by
  refine (send_succeeds hc hreply hlen).bind ?_
  rintro b d ⟨rfl, rfl⟩
  exact succeeds_ofExcept (by rw [hf]; rfl)

theorem command_succeeds (hc : c.validate = .ok ())
    (hreply : t.transact c.call device = (.ok reply, device'))
    (hlen : reply.length = c.responseLength) :
    (command c).Succeeds t device fun _ d => d = device' :=
  (send_succeeds hc hreply hlen).bind fun _ _ h => succeeds_pure h.2

theorem readNotification_succeeds {bits : Option UInt32}
    (hreply : t.readNotification device = (.ok bits, device')) :
    readNotification.Succeeds t device fun b d => b = bits ∧ d = device' := by
  intro events
  refine ⟨bits, ⟨device', .heard (.ok bits) :: events⟩, ?_, rfl, rfl⟩
  simp only [readNotification, outcome, ExceptT.run, ExceptT.mk, Dialogue.run, hreply]

end Device

theorem Progress.update_succeeds {σ ε : Type} {t : Transport σ} {device : σ} (p : Progress)
    (percent : Nat) :
    (p.update percent : Procedure ε Progress).Succeeds t device fun _ d => d = device := by
  unfold update
  split
  · exact Procedure.succeeds_pure rfl
  · exact fun _ => ⟨_, _, rfl, rfl⟩

end CardFirmware
