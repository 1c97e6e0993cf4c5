import CardFirmware.Proofs.Device.Runs

/-! The order of what a procedure does. A rule says of each command after which histories it may be
sent; a procedure follows the rule if all of its runs do, and what it has done when it succeeds is
carried to the procedure after it. Histories have their latest event first. -/

namespace CardFirmware

/-- After the history `past`, a rule allows each command of the events that come next, in order. -/
def Along (A : List Event → Command → Prop) : List Event → List Event → Prop
  | _, [] => True
  | past, e :: es => (∀ c reply, e = .sent c reply → A past c) ∧ Along A (e :: past) es

section Along

variable {A : List Event → Command → Prop}

theorem along_append {past es₁ es₂ : List Event} :
    Along A past (es₁ ++ es₂) ↔ Along A past es₁ ∧ Along A (es₁.reverse ++ past) es₂ := by
  induction es₁ generalizing past with
  | nil => exact ⟨fun h => ⟨trivial, h⟩, fun h => h.2⟩
  | cons e es ih =>
    simp only [List.cons_append, Along, ih, List.reverse_cons, List.append_assoc, List.nil_append,
      and_assoc]

theorem along_sent {past : List Event} {c : Command} {reply : Except TransportError Bytes}
    (h : A past c) : Along A past [.sent c reply] := by
  refine ⟨?_, trivial⟩
  rintro c' reply' ⟨⟩
  exact h

theorem Along.allowed {es past : List Event} {c : Command} {reply : Except TransportError Bytes}
    (h : Along A [] es) (hsuffix : .sent c reply :: past <:+ es.reverse) : A past c := by
  obtain ⟨later, hes⟩ := hsuffix
  -- in order: what was before the command, the command, and what came later
  have hsplit : es = past.reverse ++ .sent c reply :: later.reverse := by
    rw [← List.reverse_reverse es, ← hes]
    simp
  rw [hsplit, along_append, List.reverse_reverse, List.append_nil] at h
  exact h.2.1 c reply rfl

end Along

namespace Procedure

variable {ε ε' α β : Type} {A : List Event → Command → Prop} {past : List Event}

/-- Every run of the procedure after `past` goes along with the rule, and if it gives a value the
history is then as described. -/
def Follows (A : List Event → Command → Prop) (past : List Event) (p : Procedure ε α)
    (post : α → List Event → Prop) : Prop :=
  ∀ es r, p.Runs es r → Along A past es ∧ ∀ a, r = .ok a → post a (es.reverse ++ past)

section Combine

variable {p : Procedure ε α} {f : α → Procedure ε β} {post mid : α → List Event → Prop}
  {last : β → List Event → Prop}

theorem follows_pure {a : α} (h : post a past) : Follows A past (pure a : Procedure ε α) post := by
  intro es r hr
  obtain ⟨rfl, rfl⟩ := runs_pure.mp hr
  refine ⟨trivial, ?_⟩
  rintro a' ⟨⟩
  exact h

theorem follows_throw {e : ε} : Follows A past (throw e : Procedure ε α) post := by
  intro es r hr
  obtain ⟨rfl, rfl⟩ := runs_throw.mp hr
  exact ⟨trivial, fun a ha => nomatch ha⟩

theorem follows_ofExcept {x : Except ε α} :
    (ofExcept x).Follows A past fun a now => x = .ok a ∧ now = past := by
  intro es r hr
  obtain ⟨rfl, rfl⟩ := runs_ofExcept.mp hr
  exact ⟨trivial, fun a ha => ⟨ha, rfl⟩⟩

theorem follows_tick :
    Follows A past (tick : Procedure ε Unit) fun _ now => now = .ticked :: past := by
  intro es r hr
  obtain ⟨rfl, rfl⟩ := runs_tick.mp hr
  refine ⟨⟨?_, trivial⟩, fun a _ => rfl⟩
  rintro c reply ⟨⟩

theorem Follows.bind (hp : p.Follows A past mid)
    (hf : ∀ a now, mid a now → (f a).Follows A now last) : (p >>= f).Follows A past last := by
  intro es r hr
  obtain ⟨e, h₁, rfl⟩ | ⟨a, es₁, es₂, rfl, h₁, h₂⟩ := runs_bind.mp hr
  · exact ⟨(hp es _ h₁).1, fun b hb => nomatch hb⟩
  · obtain ⟨halong, hmid⟩ := hp es₁ _ h₁
    obtain ⟨halong', hlast⟩ := hf a _ (hmid a rfl) es₂ r h₂
    refine ⟨along_append.mpr ⟨halong, halong'⟩, fun b hb => ?_⟩
    rw [List.reverse_append, List.append_assoc]
    exact hlast b hb

theorem Follows.orFail {g : ε → ε'} (hp : p.Follows A past post) :
    (p.orFail g).Follows A past post := by
  intro es r hr
  obtain ⟨r', hr', rfl⟩ := runs_orFail.mp hr
  obtain ⟨halong, hpost⟩ := hp es r' hr'
  refine ⟨halong, fun a ha => ?_⟩
  cases r' with
  | error e => cases ha
  | ok b =>
    cases ha
    exact hpost _ rfl

theorem Follows.mono (hp : p.Follows A past mid) (h : ∀ a now, mid a now → post a now) :
    p.Follows A past post := by
  intro es r hr
  obtain ⟨halong, hmid⟩ := hp es r hr
  exact ⟨halong, fun a ha => h a _ (hmid a ha)⟩

end Combine

end Procedure

namespace Device

open Procedure

variable {α : Type} {A : List Event → Command → Prop} {past : List Event} {c : Command}

theorem follows_readNotification :
    readNotification.Follows A past fun bits now => now = .heard (.ok bits) :: past := by
  intro es r hr
  obtain rfl := runs_readNotification.mp hr
  refine ⟨⟨?_, trivial⟩, ?_⟩
  · rintro c reply ⟨⟩
  · rintro bits rfl
    rfl

theorem follows_send (hc : A past c) :
    (send c).Follows A past fun b now =>
      b.length = c.responseLength ∧ now = .sent c (.ok b) :: past := by
  intro es r hr
  constructor
  · obtain rfl | ⟨reply, rfl⟩ := runs_send_cases hr
    · trivial
    · exact along_sent hc
  · rintro b rfl
    obtain ⟨rfl, hb⟩ := runs_send_ok hr
    exact ⟨hb, rfl⟩

theorem follows_command (hc : A past c) (hlen : c.responseLength = 0) :
    (command c).Follows A past fun _ now => now = .sent c (.ok []) :: past := by
  refine (follows_send hc).bind fun b now h => follows_pure ?_
  rw [h.2, List.eq_nil_of_length_eq_zero (h.1.trans hlen)]

theorem follows_query {f : Bytes → Except WireError α} (hc : A past c) :
    (send c >>= fun b => decoded (f b)).Follows A past fun a now =>
      ∃ b, b.length = c.responseLength ∧ f b = .ok a ∧ now = .sent c (.ok b) :: past := by
  refine (follows_send hc).bind fun b now h => ?_
  refine follows_ofExcept.mono fun a now' h' => ⟨b, h.1, ?_, h'.2.trans h.2⟩
  have hf := h'.1
  cases hv : f b with
  | error e => rw [hv] at hf; cases hf
  | ok v => rw [hv] at hf; cases hf; rfl

end Device

theorem Progress.follows_update {ε : Type} {A : List Event → Command → Prop} {past : List Event}
    (p : Progress) (percent : Nat) :
    (p.update percent : Procedure ε Progress).Follows A past fun _ now =>
      now = past ∨ now = .reported (min percent 100) :: past := by
  intro es r hr
  obtain ⟨rfl, rfl⟩ := runs_update hr
  split
  · exact ⟨trivial, fun _ _ => .inl rfl⟩
  · refine ⟨⟨?_, trivial⟩, fun _ _ => .inr rfl⟩
    rintro c reply ⟨⟩

end CardFirmware
